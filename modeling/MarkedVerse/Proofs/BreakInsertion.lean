import MarkedVerse.Insertion
import MarkedVerse.Proofs.Parts
import MarkedVerse.Proofs.Places
import MarkedVerse.Proofs.WrittenBreaks

/-!
# Inserting a break

A break that is inserted in place of a selection is the only marker that the edit adds, wherever the
selection starts and ends. `insertBreak_exactly` says what becomes of the text and its markers, and
that the text behind the new divider has the style of the break.
-/

namespace MarkedVerse

variable (t : Text) (a : Alignment) (u : Text)

/-! ## Texts on either side of a written break -/

namespace Segment

/-- The markers of two texts with a break between them are those of the first one, the break, and
those of the second one. -/
theorem markerPlaces_append_break :
    markerPlaces (t ++ ['\n', '\n'] ++ a.breakLiteral ++ ['\n', '\n'] ++ u) =
      markerPlaces t ++
        ⟨.marker a.marker, t.length + 2, t.length + 2 + a.breakLiteral.length⟩ ::
          (markerPlaces u).map (Placed.shift (t.length + 2 + a.breakLiteral.length + 2)) := by
  have hbehind := placedMarkers_add List.length 0
    (t.length + 2 + a.breakLiteral.length + 2) (lex u)
  rw [Nat.zero_add] at hbehind
  rw [markerPlaces, lex_append_break, placedMarkers_glue Text.isSize_length, flatMap_source_lex,
    placedMarkers_text_cons, placedMarkers_marker_cons,
    placedMarkers_consText Text.isSize_length, Alignment.source_marker, Nat.zero_add]
  exact congrArg (markerPlaces t ++ _ :: ·) hbehind

/-- Two texts with a break between them have a marker. -/
theorem markers_append_break_ne_nil :
    markers (t ++ ['\n', '\n'] ++ a.breakLiteral ++ ['\n', '\n'] ++ u) ≠ [] := by
  rw [markers, lex_append_break, filterMap_marker?_glue]
  simp

end Segment

namespace Section

/-- Two texts with a break between them are read one after the other, the second one with the style
of the break. -/
theorem parse_append_break :
    parse (t ++ ['\n', '\n'] ++ a.breakLiteral ++ ['\n', '\n'] ++ u) =
      (Segment.parts (Segment.lex t)).sections (.aligned .right) ++
        divider :: (Segment.parts (Segment.lex u)).sections (.aligned a) := by
  rw [parse_eq_sectionsFrom (Segment.markers_append_break_ne_nil t a u), Segment.lex_append_break,
    sectionsFrom_glue_break, sectionsFrom_eq (Segment.alternating_lex t),
    sectionsFrom_eq (Segment.alternating_lex u)]

end Section

/-! ## Insertion -/

open Segment in
/-- A break is inserted between what stands in front of the selection and what stands behind it, and
the caret goes to where the latter begins. The markers of the result are those of the first text,
the new break, and those of the second; where the selection cuts no marker, these are the markers of
the text in front of the selection and behind it. The sections of the result are those of the first
text, with a divider for each of its breaks, the new divider, and then those of the second text,
where the plain text up to the first marker has the style of the break. -/
theorem insertBreak_exactly (start stop : Nat) :
    let first := min start t.length
    let last := max first (min stop t.length)
    let before := t.take first
    let behind := t.drop last
    let inserted := ['\n', '\n'] ++ a.breakLiteral ++ ['\n', '\n']
    let result := Insertion.insertBreak t start stop a
    (result.text = before ++ inserted ++ behind ∧
      result.caret = (before ++ inserted).length) ∧
    (a.marker.source = a.breakLiteral ∧ a.marker.style? = some a ∧
      markerPlaces result.text = markerPlaces before ++
        ⟨.marker a.marker, before.length + 2, result.caret - 2⟩ ::
          (markerPlaces behind).map (Placed.shift result.caret)) ∧
    (¬CutsMarker t first → ¬CutsMarker t last →
      markerPlaces before = (markerPlaces t).filter (fun p => decide (p.stop ≤ first)) ∧
      (markerPlaces behind).map (Placed.shift last) =
        (markerPlaces t).filter fun p => decide (last ≤ p.start)) ∧
    ((parts (lex before)).sections (.aligned .right)).countP Section.isBreak =
      (breakMarkers before).length ∧
    Section.parse result.text =
      (parts (lex before)).sections (.aligned .right) ++ Section.divider ::
        (Section.stanza (.aligned a) (parts (lex behind)).lead ++
          (parts (lex behind)).blocks.flatMap fun (m, u) => Section.ofBlock m u) := by
  intro first last before behind inserted result
  have htext : result.text =
      before ++ ['\n', '\n'] ++ a.breakLiteral ++ ['\n', '\n'] ++ behind := by
    show before ++ inserted ++ behind = _
    simp only [inserted, List.append_assoc]
  have hfirst : first ≤ t.length := Nat.min_le_right _ _
  have hlast : last ≤ t.length := Nat.max_le.2 ⟨hfirst, Nat.min_le_right _ _⟩
  have hbefore : before.length = first := by simp [before, hfirst]
  have hinserted : inserted.length = 2 + a.breakLiteral.length + 2 := by
    simp only [inserted, List.length_append]
    rfl
  have hcaret : result.caret = before.length + inserted.length := by
    rw [hbefore]
    rfl
  refine ⟨⟨rfl, hcaret.trans List.length_append.symm⟩, ⟨Alignment.source_marker a,
    Alignment.style?_marker a, ?_⟩, ?_, ?_, ?_⟩
  · have hstop : result.caret - 2 = before.length + 2 + a.breakLiteral.length := by omega
    have hshift : result.caret = before.length + 2 + a.breakLiteral.length + 2 := by omega
    rw [htext, markerPlaces_append_break, hstop, hshift]
  · intro hcutFirst hcutLast
    exact ⟨markerPlaces_take hfirst hcutFirst, markerPlaces_drop hlast hcutLast⟩
  · exact Section.countP_isBreak_sections_lex (.aligned .right) before
  · rw [htext, Section.parse_append_break]
    rfl

open Segment in
/-- A selection between two markers, with a stray bar in front of the first one: the header stays in
front of the new break, and the old break behind it. -/
theorem insertBreak_exactly_between_markers :
    let t : Text := "|||HEADER||x||BREAK:left||y".toList
    (¬CutsMarker t (min 11 t.length) ∧ ¬CutsMarker t (max (min 11 t.length) (min 12 t.length))) ∧
    markerPlaces (t.take 11) = [⟨.marker .header, 1, 11⟩] ∧
    (markerPlaces (t.drop 12)).map (Placed.shift 12) =
      [⟨.marker (.styledBreak "left".toList), 12, 26⟩] := by
  intro t
  have hcut : ¬CutsMarker t (min 11 t.length) ∧
      ¬CutsMarker t (max (min 11 t.length) (min 12 t.length)) := by decide +kernel
  obtain ⟨-, -, hmarkers, -⟩ := insertBreak_exactly t .center 11 12
  obtain ⟨hbefore, hbehind⟩ := hmarkers hcut.1 hcut.2
  refine ⟨hcut, hbefore.trans ?_, hbehind.trans ?_⟩
  · decide +kernel
  · decide +kernel

end MarkedVerse
