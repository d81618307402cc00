import MarkedVerse.Proofs.EditOrder
import MarkedVerse.Proofs.WrittenBreaks
import MarkedVerse.Template.Apply

/-!
# Restyling

A template on a text with breaks writes a new literal over each of them and nothing else.
`restyles_exactly` says so of the text as it is read back: its segments are the old ones with new
breaks, and its sections are the old ones with the styles of those breaks.
-/

namespace MarkedVerse

/-! ## Restyled segments -/

namespace Segment

/-- Segments with the pattern's breaks in place of their own, the first of which has this index. -/
def restyle (p : Pattern) (index : Nat) : List Segment → List Segment
  | [] => []
  | .text t :: segments => .text t :: restyle p index segments
  | .marker m :: segments =>
    if m.isBreak then .marker (p.styleAt index).marker :: restyle p (index + 1) segments
    else .marker m :: restyle p index segments

/-- Restyling replaces markers by markers. -/
theorem recut_restyle (p : Pattern) (index : Nat) {segments : List Segment}
    (h : ∀ m, .marker m ∈ segments → m.WellFormed) :
    List.Forall₂ Recut segments (restyle p index segments) := by
  induction segments generalizing index with
  | nil => exact .nil
  | cons s segments ih =>
      have hrest : ∀ m, .marker m ∈ segments → m.WellFormed :=
        fun m hm => h m (List.mem_cons_of_mem _ hm)
      cases s with
      | text t => exact .cons (.text t) (ih index hrest)
      | marker m =>
          rw [restyle]
          split
          · exact .cons (.marker m (Alignment.wellFormed_marker _)) (ih (index + 1) hrest)
          · exact .cons (.marker m (h m List.mem_cons_self)) (ih index hrest)

/-- The restyled segments of a text are read back from what they make up. -/
theorem lex_restyle (p : Pattern) (t : Text) :
    lex ((restyle p 0 (lex t)).flatMap source) = restyle p 0 (lex t) :=
  Recut.lex_source (recut_restyle p 0 fun _ => wellFormed_of_mem_lex)

/-- The breaks of restyled segments are those of the pattern, in its order. -/
theorem breaks_restyle (p : Pattern) (index : Nat) (segments : List Segment) :
    ((restyle p index segments).filterMap marker?).filter Marker.isBreak =
      (List.range' index ((segments.filterMap marker?).filter Marker.isBreak).length).map
        fun i => (p.styleAt i).marker := by
  induction segments generalizing index with
  | nil => rfl
  | cons s segments ih =>
      cases s with
      | text t => simpa [restyle, List.filterMap_cons] using ih index
      | marker m =>
          by_cases hm : m.isBreak
          · simpa [restyle, List.filterMap_cons, hm, List.range'_succ] using ih (index + 1)
          · simpa [restyle, List.filterMap_cons, hm] using ih index

/-- A text with breaks has markers. -/
theorem markers_ne_nil {t : Text} (h : breakMarkers t ≠ []) : markers t ≠ [] := by
  intro hnil
  rw [breakMarkers, hnil] at h
  exact h rfl

/-! ## The edits -/

/-- The breaks among placed segments are those among the segments. -/
theorem length_filter_placeFrom (size : Text → Nat) (start : Nat) (segments : List Segment) :
    ((placeFrom size start segments).filter fun p => p.segment.marker?.any Marker.isBreak).length =
      ((segments.filterMap marker?).filter Marker.isBreak).length := by
  induction segments generalizing start with
  | nil => rfl
  | cons s segments ih =>
      cases s with
      | text t => simpa [placeFrom, List.filterMap_cons] using ih _
      | marker m =>
          by_cases hm : m.isBreak <;> simpa [placeFrom, List.filterMap_cons, hm] using ih _

/-- Placed segments stand where the first one starts or behind it. -/
theorem le_start_of_mem_placeFrom {size : Text → Nat} {start : Nat} {segments : List Segment}
    {p : Placed} (h : p ∈ placeFrom size start segments) : start ≤ p.start := by
  induction segments generalizing start with
  | nil => cases h
  | cons s segments ih =>
      rcases List.mem_cons.1 h with rfl | h
      · exact Nat.le_refl _
      · exact Nat.le_trans (Nat.le_add_right _ _) (ih h)

/-- The breaks of a text stand one behind the other. -/
theorem pairwise_start_breaks (start : Nat) (segments : List Segment) :
    ((placeFrom List.length start segments).filter fun p =>
      p.segment.marker?.any Marker.isBreak).Pairwise fun a b => a.start < b.start := by
  induction segments generalizing start with
  | nil => exact .nil
  | cons s segments ih =>
      rw [placeFrom, List.filter_cons]
      split
      · next hs =>
          refine .cons (fun p hp => ?_) (ih _)
          have hle := le_start_of_mem_placeFrom (List.mem_filter.1 hp).1
          cases s with
          | text t => simp at hs
          | marker m =>
              have hpos : 0 < m.source.length := List.length_pos_iff.2 m.source_ne_nil
              show start < p.start
              simp only [source] at hle
              omega
      · exact ih _

end Segment

namespace Template

open Segment

/-- The edits for breaks start where the breaks do. -/
theorem map_start_restyleEdits (p : Pattern) (index : Nat) (breaks : List Placed) :
    (restyleEdits p index breaks).map Edit.start = breaks.map Placed.start := by
  induction breaks generalizing index with
  | nil => rfl
  | cons b breaks ih => simp [restyleEdits, ih]

/-- Carried out from the last to the first behind a text that they leave alone, the edits for the
breaks of segments write the restyled segments. -/
theorem foldr_restyleEdits (p : Pattern) (index : Nat) (segments : List Segment) (front : Text) :
    (restyleEdits p index ((placeFrom List.length front.length segments).filter fun b =>
        b.segment.marker?.any Marker.isBreak)).foldr Edit.apply
        (front ++ segments.flatMap source) =
      front ++ (restyle p index segments).flatMap source := by
  induction segments generalizing index front with
  | nil => rfl
  | cons s segments ih =>
      -- What stands in front of the remaining segments, with its length as it is placed.
      have hrest := fun index => ih index (front ++ s.source)
      simp only [List.length_append, List.append_assoc] at hrest
      cases s with
      | text t => simpa [placeFrom, restyle] using hrest index
      | marker m =>
          by_cases hm : m.isBreak
          · have hedit := Edit.apply_append front m.source
              ((restyle p (index + 1) segments).flatMap source) (p.styleAt index).breakLiteral
            rw [List.append_assoc, ← source, ← hrest] at hedit
            simpa [placeFrom, restyle, restyleEdits, hm, source] using hedit
          · simpa [placeFrom, restyle, hm] using hrest index

/-- A pattern with styles is valid. -/
theorem validate_eq_ok {p : Pattern} (hp : p.styles ≠ []) : p.validate = .ok p := by
  simp [Pattern.validate, Pattern.isUsable, hp]

/-- A template on a text with breaks writes the restyled segments. -/
theorem apply_eq_restyle {p : Pattern} (hp : p.styles ≠ []) {t : Text}
    (h : breakMarkers t ≠ []) :
    apply t p = .ok ⟨(restyle p 0 (lex t)).flatMap source, .restyle (breakMarkers t).length⟩ := by
  have hlength : (breakPlaces t).length = (breakMarkers t).length :=
    length_filter_placeFrom List.length 0 (lex t)
  have hplaces : breakPlaces t ≠ [] := by
    rw [← List.length_pos_iff] at h ⊢
    omega
  have hsorted : (restyleEdits p 0 (breakPlaces t)).Pairwise fun a b => a.start < b.start := by
    rw [← List.pairwise_map (R := (· < ·)), map_start_restyleEdits, List.pairwise_map]
    exact pairwise_start_breaks 0 (lex t)
  have hedits : Edit.applyAll (restyleEdits p 0 (breakPlaces t)) t =
      (restyle p 0 (lex t)).flatMap source := by
    have hfold := foldr_restyleEdits p 0 (lex t) []
    rw [List.nil_append, flatMap_source_lex] at hfold
    rw [Edit.applyAll_eq_foldr hsorted]
    exact hfold
  rw [apply, validate_eq_ok hp]
  simp only [bind, Except.bind]
  rw [hedits, hlength]

/-- A template on a text without breaks inserts some. -/
theorem apply_eq_insertBreaks {p : Pattern} (hp : p.styles ≠ []) {t : Text}
    (h : breakMarkers t = []) : apply t p = insertBreaks t p := by
  have hlength : (breakPlaces t).length = (breakMarkers t).length :=
    length_filter_placeFrom List.length 0 (lex t)
  have hplaces : breakPlaces t = [] := by
    rw [h] at hlength
    exact List.eq_nil_of_length_eq_zero hlength
  rw [apply, validate_eq_ok hp]
  simp only [bind, Except.bind, hplaces]

end Template

/-! ## Restyled sections -/

namespace Section

/-- Sections in which every block of verse has the pattern's style for the last divider in front of
it, where so many dividers precede. Verse in front of all dividers keeps its style. -/
def restyle (p : Pattern) (dividers : Nat) : List Section → List Section
  | [] => []
  | s :: sections =>
    if s.isBreak then s :: restyle p (dividers + 1) sections
    else if s.isHeader || dividers == 0 then s :: restyle p dividers sections
    else { s with style := p.styleAt (dividers - 1) } :: restyle p dividers sections

/-- The role that a marker gives to text once so many breaks are restyled. -/
def Role.restyle (p : Pattern) (breaks : Nat) : Role → Role
  | .aligned style => .aligned (if breaks = 0 then style else p.styleAt (breaks - 1))
  | .heading => .heading

/-- What a plain text leaves is restyled with its role. -/
theorem restyle_ofText_append (p : Pattern) (breaks : Nat) (role : Role) (t : Text)
    (sections : List Section) :
    restyle p breaks (ofText role t ++ sections) =
      ofText (role.restyle p breaks) t ++ restyle p breaks sections := by
  rw [ofText, ofText]
  cases Text.verseLines t with
  | nil => rfl
  | cons line lines =>
      cases role with
      | heading => simp [restyle, Role.restyle, ofRole, header]
      | aligned style =>
          by_cases hbreaks : breaks = 0 <;>
            simp [restyle, Role.restyle, ofRole, verse, hbreaks]

/-- Restyling segments restyles the sections that they leave. -/
theorem sectionsFrom_restyle (p : Pattern) (breaks : Nat) (role : Role)
    (segments : List Segment) :
    sectionsFrom (role.restyle p breaks) (Segment.restyle p breaks segments) =
      restyle p breaks (sectionsFrom role segments) := by
  induction segments generalizing breaks role with
  | nil => rfl
  | cons s segments ih =>
      cases s with
      | text t => rw [Segment.restyle, sectionsFrom, sectionsFrom, restyle_ofText_append, ih]
      | marker m =>
          rw [Segment.restyle, sectionsFrom, Marker.isBreak]
          cases hstyle : m.style? with
          | some style =>
              have hnext := ih (breaks + 1) (.aligned style)
              simpa [sectionsFrom, restyle, divider, Role.restyle] using hnext
          | none =>
              have hnext := ih breaks .heading
              simpa [sectionsFrom, hstyle, Role.restyle] using hnext

end Section

/-- A template with styles on a text with breaks succeeds. Read back, the result has the segments
of the text, except that its breaks are now the literals of the pattern's styles in order, and it
has the sections of the text, except that verse behind a break has the new style of that break. -/
theorem restyles_exactly {p : Pattern} (hp : p.styles ≠ []) {t : Text}
    (hbreaks : Segment.breakMarkers t ≠ []) :
    ∃ out, Template.apply t p = .ok ⟨out, .restyle (Segment.breakMarkers t).length⟩ ∧
      Segment.lex out = Segment.restyle p 0 (Segment.lex t) ∧
      (Segment.breakMarkers out).map Marker.source =
        (List.range (Segment.breakMarkers t).length).map (fun i => (p.styleAt i).breakLiteral) ∧
      Section.parse out = Section.restyle p 0 (Section.parse t) := by
  have hlex := Segment.lex_restyle p t
  have hnew := Segment.breaks_restyle p 0 (Segment.lex t)
  rw [← hlex, ← List.range_eq_range'] at hnew
  have hout : Segment.breakMarkers ((Segment.restyle p 0 (Segment.lex t)).flatMap Segment.source)
      ≠ [] := by
    intro hnil
    rw [Segment.breakMarkers, Segment.markers, hnew, List.map_eq_nil_iff, List.range_eq_nil] at hnil
    exact hbreaks (List.eq_nil_of_length_eq_zero hnil)
  refine ⟨_, Template.apply_eq_restyle hp hbreaks, hlex, ?_, ?_⟩
  · rw [Segment.breakMarkers, Segment.markers, hnew, List.map_map]
    refine List.map_congr_left fun i _ => ?_
    exact Alignment.source_marker _
  · -- Both texts have markers, so both are read off their segments.
    rw [Section.parse_eq_sectionsFrom (Segment.markers_ne_nil hout),
      Section.parse_eq_sectionsFrom (Segment.markers_ne_nil hbreaks), hlex]
    exact Section.sectionsFrom_restyle p 0 (.aligned .right) (Segment.lex t)

/-- Adjacent markers, stray bars and a header: the breaks get the styles in turn. -/
theorem restyles_exactly_between_bars :
    let p : Pattern := ⟨"alternate", [.left, .right], ""⟩
    let t : Text := "|||BREAK||a||BREAK:||HEADER||||BREAK:x||".toList
    (p.styles ≠ [] ∧ Segment.breakMarkers t ≠ []) ∧
    ∃ out, Template.apply t p = .ok ⟨out, .restyle (Segment.breakMarkers t).length⟩ ∧
      Segment.lex out = Segment.restyle p 0 (Segment.lex t) ∧
      (Segment.breakMarkers out).map Marker.source =
        (List.range (Segment.breakMarkers t).length).map (fun i => (p.styleAt i).breakLiteral) ∧
      Section.parse out = Section.restyle p 0 (Section.parse t) := by
  have hp : (⟨"alternate", [.left, .right], ""⟩ : Pattern).styles ≠ [] := by decide
  have hbreaks : Segment.breakMarkers "|||BREAK||a||BREAK:||HEADER||||BREAK:x||".toList ≠ [] := by
    decide +kernel
  exact ⟨⟨hp, hbreaks⟩, restyles_exactly hp hbreaks⟩

end MarkedVerse
