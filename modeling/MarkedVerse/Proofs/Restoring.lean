import MarkedVerse.Proofs.ParagraphBreaks
import MarkedVerse.Proofs.Stripping

/-!
# Restoring a stripped document

A document whose only markers are breaks can be stripped of them and laid out again. When no text
between its breaks is blank or broken by a blank line, each of them comes back as one paragraph
(`map_verseLines_paragraphs_strip`), and the template with the styles of the breaks gives the same
sections as before (`strip_then_apply_restores`).
-/

namespace MarkedVerse

/-! ## Unbroken texts -/

namespace Text

/-- Some lines of the text are not blank, and no blank line stands between these. -/
def Unbroken (t : Text) : Prop :=
  ∃ before core behind, splitOn '\n' t = before ++ core ++ behind ∧ core ≠ [] ∧
    (∀ line ∈ before ++ behind, isBlankLine line = true) ∧
    ∀ line ∈ core, isBlankLine line = false

/-- The verse of an unbroken text is one stanza between blank lines. -/
theorem Unbroken.stanzas_eq {t : Text} (h : Unbroken t) :
    stanzas isBlankLine t = [verseLines t] := by
  obtain ⟨before, core, behind, hsplit, hne, hblank, hverse⟩ := h
  have hnone : ∀ line ∈ before ++ behind, verseLines line = [] :=
    fun line hline => separator_isBlankLine line (hblank line hline)
  have hlines : core.flatMap verseLines = verseLines t := by
    have hbefore : before.flatMap verseLines = [] := List.flatMap_eq_nil_iff.2 fun line hline =>
      hnone line (List.mem_append_left _ hline)
    have hbehind : behind.flatMap verseLines = [] := List.flatMap_eq_nil_iff.2 fun line hline =>
      hnone line (List.mem_append_right _ hline)
    rw [← flatMap_verseLines_splitOn, hsplit, List.flatMap_append, List.flatMap_append, hbefore,
      hbehind, List.nil_append, List.append_nil]
  have hsome : verseLines t ≠ [] := by
    intro hnil
    obtain ⟨line, hline⟩ := List.exists_mem_of_ne_nil core hne
    rw [← hlines, List.flatMap_eq_nil_iff] at hnil
    have hall := List.all_eq_true.2 (verseLines_eq_nil_iff.1 (hnil line hline))
    exact absurd (hverse line hline) (by rw [isBlankLine, hall]; decide)
  rw [stanzas, hsplit, stanzasOf_append_of_blank separator_isBlankLine hnone,
    stanzasOf_of_forall hverse, hlines, whole]
  simp [hsome]

end Text

/-! ## What is left of the texts -/

namespace Segment

open Text

/-- When the plain texts are unbroken, the paragraphs of what is left have their lines. -/
theorem map_verseLines_paragraphs_strip {t : Text}
    (h : ∀ u ∈ (parts (lex t)).texts, Unbroken u) :
    (paragraphs (strip t)).map verseLines = (parts (lex t)).texts.map verseLines := by
  have hblank : stanzas isBlankLine (strip t) = (parts (lex t)).texts.map verseLines := by
    rw [stanzas_strip, List.flatMap_congr fun u hu => (h u hu).stanzas_eq, List.map_eq_flatMap]
  have hfiner : Refines (stanzas isBlankLine (strip t)) (stanzas isBare (strip t)) :=
    refines_of_finer separator_isBlankLine (fun _ => isBlankLine_of_isBare) _
  have hcoarser : Refines (stanzas isBare (strip t)) (stanzas isBlankLine (strip t)) := by
    have hwhole : ∀ u ∈ (parts (lex t)).texts, whole (verseLines u) = [verseLines u] := by
      intro u hu
      have hne : verseLines u ≠ [] := by
        have hmem : verseLines u ∈ stanzas isBlankLine u := by simp [(h u hu).stanzas_eq]
        exact ne_nil_of_mem_stanzasOf hmem
      simp [whole, hne]
    rw [hblank, List.map_eq_flatMap, ← List.flatMap_congr hwhole]
    exact (refines_stanzas_strip t).trans (.flatMap (refines_stanzas separator_isBare) _)
  rw [map_verseLines_paragraphs, ← hblank]
  exact hcoarser.antisymm hfiner (fun _ => ne_nil_of_mem_stanzasOf)
    (fun _ => ne_nil_of_mem_stanzasOf)

end Segment

/-! ## Breaks between paragraphs -/

/-- The styles of a pattern are those of its first breaks. -/
theorem Pattern.map_styleAt (p : Pattern) :
    (List.range p.styles.length).map p.styleAt = p.styles := by
  refine List.ext_getElem (by simp) fun i hi hstyles => ?_
  rw [List.getElem_map, List.getElem_range, styleAt, Nat.max_eq_left (by omega),
    Nat.mod_eq_of_lt hstyles, List.getElem?_eq_getElem hstyles, Option.getD_some]

namespace Section

open Segment Template

variable {p : Pattern} {index : Nat} {style : Alignment} {paragraph : Text} {rest : List Text}

/-- A break and a text that is not blank leave a divider and the block of the text. -/
theorem ofBlock_eq {m : Marker} (hstyle : m.style? = some style) {u : Text}
    (hu : Text.verseLines u ≠ []) : ofBlock m u = [divider, block (.aligned style) u] := by
  rw [ofBlock, Marker.isBreak, Role.behind, hstyle, stanza_eq_ofText, ofText_eq_block hu]
  rfl

/-- Paragraphs with the lines of blocks, and with breaks between them that have the styles of their
markers, are read as these blocks. -/
theorem sectionsFrom_insertedAfter_eq {blocks : List (Marker × Text)}
    (h : ∀ q ∈ paragraph :: rest, q ≠ [] ∧ markers q = [] ∧ Text.verseLines q ≠ [])
    (hlines : rest.map Text.verseLines = blocks.map fun block => Text.verseLines block.2)
    (hstyles : blocks.map (fun block => block.1.style?) =
      (List.range' index blocks.length).map fun i => some (p.styleAt i)) :
    sectionsFrom (.aligned style) (lex (paragraph ++ insertedAfter p index rest)) =
      block (.aligned style) paragraph :: blocks.flatMap fun (m, u) => ofBlock m u := by
  have hparagraph := h paragraph List.mem_cons_self
  induction rest generalizing paragraph index style blocks with
  | nil =>
      obtain rfl : blocks = [] := List.map_eq_nil_iff.1 hlines.symm
      rw [insertedAfter, List.append_nil, sectionsFrom_lex_paragraph hparagraph]
      rfl
  | cons next rest ih =>
      have hnext : ∀ q ∈ next :: rest, q ≠ [] ∧ markers q = [] ∧ Text.verseLines q ≠ [] :=
        fun q hq => h q (List.mem_cons_of_mem _ hq)
      cases blocks with
      | nil => cases hlines
      | cons marked blocks =>
          obtain ⟨m, u⟩ := marked
          obtain ⟨hline : Text.verseLines next = Text.verseLines u, hlines⟩ := List.cons.inj hlines
          obtain ⟨hstyle : m.style? = some (p.styleAt index), hstyles⟩ := List.cons.inj hstyles
          have hne : Text.verseLines u ≠ [] := hline ▸ (hnext next List.mem_cons_self).2.2
          have hblock : block (.aligned (p.styleAt index)) next =
              block (.aligned (p.styleAt index)) u := by rw [block, hline, block]
          rw [sectionsFrom_insertedAfter, sectionsFrom_lex_paragraph hparagraph,
            ih hnext hlines hstyles (hnext next List.mem_cons_self), List.flatMap_cons, hblock]
          show _ = block (.aligned style) paragraph :: (ofBlock m u ++ _)
          rw [ofBlock_eq hstyle hne]
          rfl

/-- Paragraphs with the lines of the plain texts of a text, and breaks with its styles between them,
are read as the text is. -/
theorem parse_insertedAfter_eq {t : Text} (hmarkers : markers t ≠ []) {next : Text}
    (h : ∀ q ∈ paragraph :: next :: rest, q ≠ [] ∧ markers q = [] ∧ Text.verseLines q ≠ [])
    (hlines : (paragraph :: next :: rest).map Text.verseLines =
      (parts (lex t)).texts.map Text.verseLines)
    (hstyles : (parts (lex t)).blocks.map (fun block => block.1.style?) =
      (List.range' 0 (parts (lex t)).blocks.length).map fun i => some (p.styleAt i)) :
    parse (paragraph ++ insertedAfter p 0 (next :: rest)) = parse t := by
  have hinserted : markers (paragraph ++ insertedAfter p 0 (next :: rest)) ≠ [] := by
    rw [markers_append_insertedAfter]
    simp
  obtain ⟨hlead, hrest⟩ := List.cons.inj hlines
  rw [List.map_map] at hrest
  have hlead' : Text.verseLines (parts (lex t)).lead ≠ [] :=
    hlead ▸ (h paragraph List.mem_cons_self).2.2
  rw [parse_eq_sectionsFrom hinserted, sectionsFrom_insertedAfter_eq h hrest hstyles,
    parse_eq_sectionsFrom hmarkers, sectionsFrom_eq (alternating_lex t), Parts.sections,
    stanza_eq_ofText, ofText_eq_block hlead', block, hlead, block]
  rfl

end Section

namespace Segment

variable {t : Text} {p : Pattern}

/-- The markers of a text without headers are its breaks. -/
theorem isBreak_of_header_notMem (hheader : .header ∉ markers t) :
    ∀ m ∈ markers t, m.isBreak = true := by
  intro m hm
  cases m with
  | plainBreak | styledBreak => rfl
  | header => exact absurd hm hheader

/-- There is one block for each marker. -/
theorem length_blocks_lex (t : Text) : (parts (lex t)).blocks.length = (markers t).length := by
  rw [markers, ← Section.map_fst_blocks_parts, List.length_map]

/-- When all markers are breaks and a pattern has their styles, it has one style for each. -/
theorem map_some_styles (hall : ∀ m ∈ markers t, m.isBreak = true)
    (hstyles : p.styles = (markers t).filterMap Marker.style?) :
    p.styles.map some = (markers t).map Marker.style? := by
  have hisSome : ∀ style ∈ (markers t).map Marker.style?, style.isSome = true := by
    intro style hstyle
    obtain ⟨m, hm, rfl⟩ := List.mem_map.1 hstyle
    exact hall m hm
  rw [hstyles, List.map_filterMap_some_eq_filter_map_isSome, List.filter_eq_self.2 hisSome]

/-- When all markers are breaks and a pattern has their styles, these are what it asks for in
turn. -/
theorem map_style?_blocks (hall : ∀ m ∈ markers t, m.isBreak = true)
    (hstyles : p.styles = (markers t).filterMap Marker.style?) :
    (parts (lex t)).blocks.map (fun block => block.1.style?) =
      (List.range' 0 (parts (lex t)).blocks.length).map fun i => some (p.styleAt i) := by
  have hsome := map_some_styles hall hstyles
  have hlength : (parts (lex t)).blocks.length = p.styles.length := by
    have hmap := congrArg List.length hsome
    rw [List.length_map, List.length_map] at hmap
    rw [length_blocks_lex, hmap]
  have hblocks : (parts (lex t)).blocks.map (fun block => block.1.style?) = p.styles.map some := by
    rw [hsome, markers, ← Section.map_fst_blocks_parts, List.map_map]
    rfl
  rw [hblocks, hlength, ← List.range_eq_range']
  conv_lhs => rw [← p.map_styleAt, List.map_map]
  rfl

/-- When the plain texts are unbroken, what is left has one paragraph more than there were
markers. -/
theorem length_paragraphs_strip (h : ∀ u ∈ (parts (lex t)).texts, Text.Unbroken u) :
    (Text.paragraphs (strip t)).length = (markers t).length + 1 := by
  have hlength := congrArg List.length (map_verseLines_paragraphs_strip h)
  rwa [List.length_map, List.length_map, Parts.texts, List.length_cons, List.length_map,
    length_blocks_lex] at hlength

end Segment

/-- A text has breaks and no headers, and each text in front of, between and behind its breaks is
unbroken. When the breaks are stripped and a template with their styles is applied, as many breaks
are inserted as there were, and what is read of the result is what was read of the text. -/
theorem strip_then_apply_restores {t : Text} (hbreaks : Segment.breakMarkers t ≠ [])
    (hheader : .header ∉ Segment.markers t)
    (htexts : ∀ u ∈ (Segment.parts (Segment.lex t)).texts, Text.Unbroken u) {p : Pattern}
    (hstyles : p.styles = (Segment.breakMarkers t).filterMap Marker.style?) :
    ∃ out, Template.apply (Segment.strip t) p =
        .ok ⟨out, .insert (Segment.breakMarkers t).length⟩ ∧
      Section.parse out = Section.parse t := by
  have hall := Segment.isBreak_of_header_notMem hheader
  have heq : Segment.breakMarkers t = Segment.markers t := List.filter_eq_self.2 hall
  rw [heq] at hbreaks hstyles ⊢
  have hp : p.styles ≠ [] := by
    intro hnil
    have hnone := Segment.map_some_styles hall hstyles
    rw [hnil] at hnone
    exact hbreaks (List.map_eq_nil_iff.1 hnone.symm)
  have hnone := Segment.markers_strip t
  have hfree : Segment.breakMarkers (Segment.strip t) = [] := by
    rw [Segment.breakMarkers, hnone]
    rfl
  have hlines := Segment.map_verseLines_paragraphs_strip htexts
  have hlength := Segment.length_paragraphs_strip htexts
  have hpos : 0 < (Segment.markers t).length := List.length_pos_iff.2 hbreaks
  rw [Template.apply_eq_insertBreaks hp hfree]
  -- Breaks are inserted from the second paragraph on, so there have to be two.
  rcases hparagraphs : Text.paragraphs (Segment.strip t) with _ | ⟨first, _ | ⟨second, rest⟩⟩
  · rw [hparagraphs, List.length_nil] at hlength
    cases hlength
  · rw [hparagraphs, List.length_singleton] at hlength
    omega
  · rw [hparagraphs] at hlines hlength
    refine ⟨first ++ Template.insertedAfter p 0 (second :: rest), ?_, ?_⟩
    · rw [Template.insertBreaks_eq_ok hparagraphs, ← Nat.succ.inj hlength]
      rfl
    · exact Section.parse_insertedAfter_eq hbreaks
        (fun q hq => Template.markers_of_mem_paragraphs hnone (hparagraphs ▸ hq)) hlines
        (Segment.map_style?_blocks hall hstyles)

/-- Breaks in the middle of lines and in front of returns, a text that is a bar between blanks, and
one behind empty lines: each of the four texts comes back as a section. -/
theorem strip_then_apply_restores_mid_line :
    let t : Text :=
      "one \n \ttwo||BREAK:left|| \r\n \r\n\n three||BREAK|| | ||BREAK:INDENT||\n\n\nfour ".toList
    let p : Pattern := ⟨"kept", [.left, .right, .indent], ""⟩
    ∃ out, Template.apply (Segment.strip t) p = .ok ⟨out, .insert 3⟩ ∧
      Section.parse out = Section.parse t := by
  intro t p
  have hbreaks : Segment.breakMarkers t ≠ [] := by decide +kernel
  have hheader : .header ∉ Segment.markers t := by decide +kernel
  have hstyles : p.styles = (Segment.breakMarkers t).filterMap Marker.style? := by decide +kernel
  have hcount : (Segment.breakMarkers t).length = 3 := by decide +kernel
  have htexts : (Segment.parts (Segment.lex t)).texts = ["one \n \ttwo".toList,
      " \r\n \r\n\n three".toList, " | ".toList, "\n\n\nfour ".toList] := by decide +kernel
  have hunbroken : ∀ u ∈ (Segment.parts (Segment.lex t)).texts, Text.Unbroken u := by
    rw [htexts]
    simp only [List.forall_mem_cons, List.not_mem_nil, false_implies, implies_true, and_true]
    refine ⟨⟨[], ["one ".toList, " \ttwo".toList], [], ?_⟩,
      ⟨[" \r".toList, " \r".toList, []], [" three".toList], [], ?_⟩, ⟨[], [" | ".toList], [], ?_⟩,
      ⟨[[], [], []], ["four ".toList], [], ?_⟩⟩
    all_goals decide +kernel
  have hrestored := strip_then_apply_restores hbreaks hheader hunbroken hstyles
  rwa [hcount] at hrestored

end MarkedVerse
