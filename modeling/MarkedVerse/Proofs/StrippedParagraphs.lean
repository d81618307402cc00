import MarkedVerse.Proofs.CollapsedGaps
import MarkedVerse.Proofs.Stripping

/-!
# Stripping a text without markers

Between paragraphs stand bare line breaks, but a long gap may also be made of lines of blanks and
tabs. So stripping a text without markers works paragraph by paragraph
(`collapsedStanzas_paragraphs`): a paragraph with a long gap in it is cut there, and every other
one stays a section with the same lines (`strip_keeps_stanzas_iff`).
-/

namespace MarkedVerse

namespace Text

variable {line t u p : Text}

/-- The stanzas of the text with its gaps collapsed. -/
def collapsedStanzas (t : Text) : List (List Text) :=
  stanzas isBare (collapseGaps t)

/-- They hold the lines of verse of the text. -/
theorem flatten_collapsedStanzas (t : Text) : (collapsedStanzas t).flatten = verseLines t := by
  rw [collapsedStanzas, flatten_stanzas separator_isBare, verseLines_collapseGaps]

/-- Trimming a text leaves them alone. -/
theorem collapsedStanzas_trim (t : Text) : collapsedStanzas (trim t) = collapsedStanzas t := by
  rw [collapsedStanzas, collapseGaps_trim, stanzas_trim separator_isBare, collapsedStanzas]

/-- Blanks around a text leave them alone. -/
theorem collapsedStanzas_append {front behind : Text} (hfront : ∀ c ∈ front, isBlank c = true)
    (hbehind : ∀ c ∈ behind, isBlank c = true) (t : Text) :
    collapsedStanzas (front ++ t ++ behind) = collapsedStanzas t := by
  rw [← collapsedStanzas_trim, trim_append hfront hbehind, collapsedStanzas_trim]

/-! ## Bare lines -/

/-- A long gap is collapsed to an empty line. -/
theorem exists_of_hasLongGap (h : HasLongGap t) :
    ∃ front behind, collapseGaps t = front ++ '\n' :: '\n' :: behind := by
  induction t using line_induction with
  | last t hline => exact absurd h (not_afterNewline_of_notMem hline)
  | line line t hline ih =>
      rw [hasLongGap_line hline] at h
      rcases Nat.lt_or_ge (emptyLines t) 2 with hlt | hge
      · obtain ⟨front, behind, hcollapse⟩ := ih t (Nat.le_refl _) (h.resolve_left (by omega))
        exact ⟨line ++ '\n' :: front, behind, by
          rw [collapseGaps_line_of_lt hline hlt, hcollapse]
          simp⟩
      · exact ⟨_, _, collapseGaps_line_of_two_le hline hge⟩

/-- Collapsing leaves a bare line where there was one. -/
theorem exists_bare_collapseGaps (hline : isBare line = true) (t u : Text) :
    ∃ front line' behind, isBare line' = true ∧
      collapseGaps (t ++ '\n' :: line ++ '\n' :: u) = front ++ '\n' :: line' ++ '\n' :: behind := by
  by_cases hgap : HasLongGap (t ++ '\n' :: line ++ '\n' :: u)
  · obtain ⟨front, behind, hcollapse⟩ := exists_of_hasLongGap hgap
    exact ⟨front, [], behind, rfl, by simpa using hcollapse⟩
  · exact ⟨t, line, u, hline, collapseGaps_eq_self_iff.2 hgap⟩

theorem newline_notMem_of_isBare (h : isBare line = true) : '\n' ∉ line := by
  rcases isBare_iff.1 h with rfl | rfl <;> decide

/-- A bare line cuts the stanzas of the collapsed text. -/
theorem collapsedStanzas_append_bare (hline : isBare line = true) (t u : Text) :
    collapsedStanzas (t ++ '\n' :: line ++ '\n' :: u) =
      collapsedStanzas t ++ collapsedStanzas u := by
  obtain ⟨front, before, hfront, hbefore, ht⟩ := exists_trim t
  obtain ⟨after, behind, hafter, hbehind, hu⟩ := exists_trim u
  -- The blanks at the line are collapsed on their own, between the two trimmed texts.
  obtain ⟨first, line', last, hline', hmiddle⟩ := exists_bare_collapseGaps hline before after
  have hblank : ∀ c ∈ first ++ '\n' :: line' ++ '\n' :: last, isBlank c = true := by
    rw [← hmiddle]
    refine isBlank_of_mem_collapseGaps fun c hc => ?_
    have hchars := List.all_eq_true.1 (isBlankLine_of_isBare hline)
    have hnewline : isBlank '\n' = true := by decide
    grind
  have hcollapse : collapseGaps (trim t ++ (before ++ '\n' :: line ++ '\n' :: after) ++ trim u) =
      (collapseGaps (trim t) ++ first) ++ '\n' :: line' ++
        '\n' :: (last ++ collapseGaps (trim u)) := by
    rw [collapseGaps_append_of_head (trim_eq_self_iff.1 (trim_trim u)).1,
      collapseGaps_append_of_last (trim_eq_self_iff.1 (trim_trim t)).2, hmiddle]
    simp
  have htext : t ++ '\n' :: line ++ '\n' :: u =
      front ++ (trim t ++ (before ++ '\n' :: line ++ '\n' :: after) ++ trim u) ++ behind := by
    conv_lhs => rw [ht, hu]
    simp
  have hfirst : ∀ c ∈ first, isBlank c = true := fun c hc => hblank c (by simp [hc])
  have hlast : ∀ c ∈ last, isBlank c = true := fun c hc => hblank c (by simp [hc])
  rw [htext, collapsedStanzas_append hfront hbehind, collapsedStanzas, hcollapse,
    stanzas_append_separator hline' (newline_notMem_of_isBare hline'),
    stanzas_append_blank separator_isBare _ hfirst, stanzas_blank_append separator_isBare hlast]
  exact congrArg₂ (· ++ ·) (collapsedStanzas_trim t) (collapsedStanzas_trim u)

/-! ## Paragraphs -/

@[simp]
theorem collapsedStanzas_nil : collapsedStanzas [] = [] := by
  rw [collapsedStanzas, collapseGaps_nil]
  rfl

/-- The collapsed text has the stanzas of its paragraphs, collapsed. -/
theorem collapsedStanzas_paragraphs (t : Text) :
    (paragraphs t).flatMap collapsedStanzas = collapsedStanzas t := by
  have hfilter : ∀ pieces : List Text,
      ((pieces.map trim).filter fun piece => !piece.isEmpty).flatMap collapsedStanzas =
        pieces.flatMap collapsedStanzas := by
    intro pieces
    induction pieces with
    | nil => rfl
    | cons piece pieces ih =>
        rw [List.map_cons, List.filter_cons, List.flatMap_cons, ← ih,
          ← collapsedStanzas_trim piece]
        cases trim piece with
        | nil => simp
        | cons c rest => rfl
  rw [paragraphs, hfilter]
  exact flatMap_splitGaps (append_gap_of_cut collapsedStanzas_append
    collapsedStanzas_append_bare (by simp) Nat.one_pos) t

/-- A paragraph is one stanza. -/
theorem stanzas_of_mem_paragraphs (h : p ∈ paragraphs t) : stanzas isBare p = [verseLines p] := by
  have hverse := verseLines_ne_nil_of_mem_paragraphs h
  obtain ⟨piece, hpiece, rfl⟩ := List.mem_map.1 (List.mem_filter.1 h).1
  obtain ⟨behind, hnone⟩ := exists_noGapIn hpiece
  rw [verseLines_trim] at hverse ⊢
  rw [stanzas_trim separator_isBare, stanzas_of_noGapIn hnone]
  simp [whole, hverse]

/-- A trimmed text has verse in front of its first long gap and behind it. -/
theorem two_le_length_collapsedStanzas (htrim : trim t = t) (h : HasLongGap t) :
    2 ≤ (collapsedStanzas t).length := by
  have hempty : isBare [] = true := rfl
  have hstanzas : ∀ u : Text,
      collapsedStanzas u = (splitGaps isIndent 2 u).flatMap (stanzas isBare) :=
    fun u => stanzas_join hempty _
  rcases splitGaps_eq isIndent 2 t with hone | ⟨piece, gap, rest, hgap, rfl, hsplit⟩
  · have hself : join ['\n', '\n'] (splitGaps isIndent 2 t) = t := by
      rw [hone]
      simp [join]
    exact absurd h (collapseGaps_eq_self_iff.1 hself)
  have hblank := isBlank_of_gapChars (fun _ hc => (isBlank_of_isIndent hc).1) hgap.chars
  have hpos := List.length_pos_of_mem hgap.newline
  -- A blank text on either side of the gap would have been trimmed with the gap.
  have hpiece : verseLines piece ≠ [] := by
    rw [Ne, verseLines_eq_nil_iff]
    intro hall
    have hfront : ∀ c ∈ piece ++ gap, isBlank c = true :=
      List.forall_mem_append.2 ⟨hall, hblank⟩
    have hle := length_trim_le rest
    rw [← trim_blank_append hfront, htrim] at hle
    simp only [List.length_append] at hle
    omega
  have hrest : verseLines rest ≠ [] := by
    rw [Ne, verseLines_eq_nil_iff]
    intro hall
    have hbehind : ∀ c ∈ gap ++ rest, isBlank c = true :=
      List.forall_mem_append.2 ⟨hblank, hall⟩
    have hle := length_trim_le piece
    rw [← trim_append_blank piece hbehind, ← List.append_assoc, htrim] at hle
    simp only [List.length_append] at hle
    omega
  have hfirst : stanzas isBare piece ≠ [] := fun hnil => hpiece (by
    rw [← flatten_stanzas separator_isBare, hnil, List.flatten_nil])
  have hsecond : collapsedStanzas rest ≠ [] := fun hnil => hrest (by
    rw [← flatten_collapsedStanzas, hnil, List.flatten_nil])
  have hfirstPos := List.length_pos_iff.2 hfirst
  have hsecondPos := List.length_pos_iff.2 hsecond
  rw [hstanzas, hsplit, List.flatMap_cons, List.length_append, ← hstanzas]
  omega

/-- A long gap cuts a paragraph, and nothing else does. -/
theorem collapsedStanzas_eq_iff (h : p ∈ paragraphs t) :
    collapsedStanzas p = [verseLines p] ↔ ¬ HasLongGap p := by
  constructor
  · intro hone hgap
    have htwo := two_le_length_collapsedStanzas (trim_of_mem_paragraphs h).1 hgap
    rw [hone, List.length_singleton] at htwo
    omega
  · intro hgap
    rw [collapsedStanzas, collapseGaps_eq_self_iff.2 hgap, stanzas_of_mem_paragraphs h]

end Text

namespace Section

open Text

/-- The sections of what is left of a text without markers. -/
theorem map_lines_strip {t : Text} (h : Segment.markers t = []) :
    (parse (Segment.strip t)).map lines = collapsedStanzas t := by
  rw [map_lines_of_markers_eq_nil (Segment.markers_strip t), Segment.strip_eq,
    Segment.texts_of_markers_eq_nil h, stanzas_trim separator_isBare]
  simp [join, collapsedStanzas]

end Section

open Section in
/-- Stripping a text without markers works paragraph by paragraph. The sections keep their lines
exactly when no paragraph has three line breaks on end, with blanks or tabs before them. -/
theorem strip_keeps_stanzas_iff {t : Text} (h : Segment.markers t = []) :
    (parse (Segment.strip t)).map lines =
        (Text.paragraphs t).flatMap (fun p => (parse (Segment.strip p)).map lines) ∧
      ((parse (Segment.strip t)).map lines = (parse t).map lines ↔
        ∀ p ∈ Text.paragraphs t, ¬ Text.HasLongGap p) := by
  have hparagraph : ∀ p ∈ Text.paragraphs t,
      (parse (Segment.strip p)).map lines = Text.collapsedStanzas p := by
    rw [← Segment.flatMap_markers_paragraphs, List.flatMap_eq_nil_iff] at h
    exact fun p hp => map_lines_strip (h p hp)
  rw [List.flatMap_congr hparagraph, map_lines_strip h, Text.collapsedStanzas_paragraphs]
  refine ⟨rfl, ?_⟩
  rw [map_lines_of_markers_eq_nil h, ← Text.map_verseLines_paragraphs,
    ← Text.collapsedStanzas_paragraphs, flatMap_eq_map_iff
      (fun p _ => Text.flatten_collapsedStanzas p)
      (fun p _ _ hpart => Text.ne_nil_of_mem_stanzasOf hpart)
      (fun p hp => Text.verseLines_ne_nil_of_mem_paragraphs hp)]
  exact forall₂_congr fun p hp => Text.collapsedStanzas_eq_iff hp

/-- A line with a tab between the stanzas, and one of blanks inside the second. -/
theorem strip_keeps_stanzas_iff_of_poem :
    Segment.markers "roses\n\n\t\r\n\nviolets\n \nsugar".toList = [] ∧
      (Section.parse (Segment.strip "roses\n\n\t\r\n\nviolets\n \nsugar".toList)).map
          Section.lines =
        (Section.parse "roses\n\n\t\r\n\nviolets\n \nsugar".toList).map Section.lines := by
  have hmarkers : Segment.markers "roses\n\n\t\r\n\nviolets\n \nsugar".toList = [] := by
    decide +kernel
  have hself : ∀ p ∈ Text.paragraphs "roses\n\n\t\r\n\nviolets\n \nsugar".toList,
      Text.collapseGaps p = p := by
    decide +kernel
  exact ⟨hmarkers, (strip_keeps_stanzas_iff hmarkers).2.2 fun p hp =>
    Text.collapseGaps_eq_self_iff.1 (hself p hp)⟩

/-- Two lines of blanks in a paragraph become an empty line, which cuts it. -/
theorem stanza_cut_at_blank_lines :
    Segment.markers "a\n \n \nb".toList = [] ∧
      (Section.parse "a\n \n \nb".toList).map Section.lines = [["a".toList, "b".toList]] ∧
      (Section.parse (Segment.strip "a\n \n \nb".toList)).map Section.lines =
        [["a".toList], ["b".toList]] := by
  decide +kernel

end MarkedVerse
