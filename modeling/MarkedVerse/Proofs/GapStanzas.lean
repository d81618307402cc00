import MarkedVerse.Proofs.Gaps
import MarkedVerse.Proofs.Stanzas

/-!
# Paragraphs and collapsed gaps

The paragraphs of a text are its stanzas between bare lines (`map_verseLines_paragraphs`). Where
gaps are collapsed, no stanza grows (`refines_stanzas_collapseGaps`), and when blank lines separate,
none changes (`stanzas_collapseGaps`).
-/

namespace MarkedVerse

namespace Text

variable {separates : Text → Bool} {fill : Char → Bool} {limit : Nat} {line t : Text}

/-! ## Lines that separate -/

theorem separator_isBare : Separator isBare := by
  intro line h
  rcases isBare_iff.1 h with rfl | rfl <;> decide

/-- A line of blanks. -/
def isBlankLine (line : Text) : Bool :=
  line.all isBlank

theorem separator_isBlankLine : Separator isBlankLine := fun _ h =>
  verseLines_eq_nil_iff.2 (List.all_eq_true.1 h)

/-- A bare line is a line of blanks. -/
theorem isBlankLine_of_isBare (h : isBare line = true) : isBlankLine line = true := by
  rcases isBare_iff.1 h with rfl | rfl <;> decide

/-! ## Texts between lines -/

/-- Two lists of lines are joined by joining each and putting a line feed between them. -/
theorem join_append {xs ys : List Text} (hxs : xs ≠ []) (hys : ys ≠ []) :
    join ['\n'] (xs ++ ys) = join ['\n'] xs ++ '\n' :: join ['\n'] ys := by
  induction xs with
  | nil => exact absurd rfl hxs
  | cons x xs ih =>
      cases xs with
      | nil => simp [join, List.intercalate_cons_of_ne_nil hys]
      | cons x' xs =>
          have hrest := ih (by simp)
          simp only [join, List.cons_append, List.intercalate_cons_cons] at hrest ⊢
          simp [hrest]

/-- A text whose lines are cut into two lists is two texts. -/
theorem exists_of_splitOn_eq_append {xs ys : List Text} (h : splitOn '\n' t = xs ++ ys)
    (hxs : xs ≠ []) (hys : ys ≠ []) :
    ∃ u v, t = u ++ '\n' :: v ∧ splitOn '\n' u = xs ∧ splitOn '\n' v = ys := by
  have hline : ∀ line ∈ xs ++ ys, '\n' ∉ line := fun line hline =>
    newline_not_mem_of_mem_splitOn (h ▸ hline)
  refine ⟨join ['\n'] xs, join ['\n'] ys, ?_, ?_, ?_⟩
  · rw [← join_append hxs hys, ← h, splitOn_eq, join, List.intercalate_splitOn]
  · rw [splitOn_eq, join]
    exact List.splitOn_intercalate '\n' (fun line h => hline line (List.mem_append_left _ h)) hxs
  · rw [splitOn_eq, join]
    exact List.splitOn_intercalate '\n' (fun line h => hline line (List.mem_append_right _ h)) hys

/-- A line between the first and the last one has a line feed on either side. -/
theorem exists_of_mem_inner (h : line ∈ (splitOn '\n' t).tail.dropLast) :
    ∃ first last, t = first ++ '\n' :: line ++ '\n' :: last := by
  obtain ⟨before, behind, hinner⟩ := List.append_of_mem h
  obtain ⟨head, rest, hsplit⟩ :=
    List.exists_cons_of_ne_nil (splitOn_eq '\n' t ▸ List.splitOn_ne_nil '\n' t)
  rw [hsplit, List.tail_cons] at hinner
  rcases List.eq_nil_or_concat' rest with rfl | ⟨inner, final, rfl⟩
  · cases before <;> cases hinner
  rw [List.dropLast_concat] at hinner
  have hlines : splitOn '\n' t = (head :: before) ++ ([line] ++ (behind ++ [final])) := by
    rw [hsplit, hinner]
    simp
  obtain ⟨first, second, rfl, -, hsecond⟩ :=
    exists_of_splitOn_eq_append hlines (by simp) (by simp)
  obtain ⟨line', last, rfl, hline, -⟩ :=
    exists_of_splitOn_eq_append hsecond (by simp) (by simp)
  have hjoin : ['\n'].intercalate (List.splitOn '\n' line') = line' :=
    List.intercalate_splitOn '\n'
  rw [← splitOn_eq, hline, List.intercalate_singleton] at hjoin
  exact ⟨first, last, by simp [hjoin]⟩

/-! ## Gaps -/

/-- Where blanks at the ends do not matter and filled lines cut, gaps cut. -/
theorem append_gap_of_cut {α : Type} {f : Text → List α}
    (hends : ∀ {front behind : Text}, (∀ c ∈ front, isBlank c = true) →
      (∀ c ∈ behind, isBlank c = true) → ∀ t, f (front ++ t ++ behind) = f t)
    (hcut : ∀ {line : Text}, isFilled fill line = true → ∀ t u,
      f (t ++ '\n' :: line ++ '\n' :: u) = f t ++ f u)
    (hfill : ∀ c, fill c = true → isBlank c = true) (hlimit : 0 < limit)
    {piece behind rest : Text} (hgap : gap? fill limit behind = some rest) :
    f (piece ++ behind) = f piece ++ f rest := by
  obtain ⟨first, line, last, hline, hchars, rfl⟩ := exists_line_of_gap? hlimit hgap
  have hblank := isBlank_of_gapChars hfill hchars
  have hnone : ∀ c ∈ ([] : Text), isBlank c = true := by simp
  have hpiece : f ([] ++ piece ++ first) = f piece :=
    hends hnone (fun c hc => hblank c (List.mem_append_left _ hc)) piece
  have hrest : f (last ++ rest ++ []) = f rest :=
    hends (fun c hc => hblank c (List.mem_append_right _ hc)) hnone rest
  have htext : piece ++ (first ++ '\n' :: line ++ '\n' :: (last ++ rest)) =
      (piece ++ first) ++ '\n' :: line ++ '\n' :: (last ++ rest) := by simp
  rw [List.nil_append] at hpiece
  rw [List.append_nil] at hrest
  rw [htext, hcut hline, hpiece, hrest]

/-- A gap separates when its lines do. -/
theorem stanzas_append_gap (hsep : Separator separates)
    (hfill : ∀ c, fill c = true → isBlank c = true ∧ c ≠ '\n')
    (hfilled : ∀ line, isFilled fill line = true → separates line = true) (hlimit : 0 < limit)
    (piece : Text) {behind rest : Text} (hgap : gap? fill limit behind = some rest) :
    stanzas separates (piece ++ behind) = stanzas separates piece ++ stanzas separates rest := by
  refine append_gap_of_cut (fun hfront hbehind t => ?_) (fun {line} hline => ?_)
    (fun c hc => (hfill c hc).1) hlimit hgap
  · rw [stanzas_append_blank hsep _ hbehind, stanzas_blank_append hsep hfront]
  · have hnewline : '\n' ∉ line := fun hmem => by
      rcases forall_of_isFilled hline _ hmem with h | h
      · exact (hfill _ h).2 rfl
      · exact absurd h (by decide)
    exact stanzas_append_separator (hfilled line hline) hnewline

/-- Where gaps separate, the stanzas of a text are those of its pieces. -/
theorem flatMap_stanzas_splitGaps (hsep : Separator separates)
    (hfill : ∀ c, fill c = true → isBlank c = true ∧ c ≠ '\n')
    (hfilled : ∀ line, isFilled fill line = true → separates line = true) (hlimit : 0 < limit)
    (t : Text) : (splitGaps fill limit t).flatMap (stanzas separates) = stanzas separates t :=
  flatMap_splitGaps (fun hgap => stanzas_append_gap hsep hfill hfilled hlimit _ hgap) t

/-- Where gaps are blank, the stanzas of the pieces are parts of those of the text. -/
theorem refines_flatMap_splitGaps (hsep : Separator separates)
    (hfill : ∀ c, fill c = true → isBlank c = true) (limit : Nat) (t : Text) :
    Refines ((splitGaps fill limit t).flatMap (stanzas separates)) (stanzas separates t) := by
  induction hlength : t.length using Nat.strongRecOn generalizing t with
  | _ n ih =>
      rcases splitGaps_eq fill limit t with hone | ⟨piece, gap, rest, hgap, rfl, hsplit⟩
      · rw [hone, List.flatMap_singleton]
        exact .refl _
      · obtain ⟨first, last, rfl⟩ := List.append_of_mem hgap.newline
        have hblank := isBlank_of_gapChars hfill hgap.chars
        have hpiece : stanzas separates (piece ++ first) = stanzas separates piece :=
          stanzas_append_blank hsep piece fun c hc => hblank c (by simp [hc])
        have hrest : stanzas separates (last ++ rest) = stanzas separates rest :=
          stanzas_blank_append hsep (fun c hc => hblank c (by simp [hc])) rest
        have hseam := refines_stanzas_append separates (piece ++ first) (last ++ rest)
        rw [hpiece, hrest] at hseam
        have htext : piece ++ (first ++ '\n' :: last) ++ rest =
            (piece ++ first) ++ '\n' :: (last ++ rest) := by simp
        simp only [List.length_append, List.length_cons] at hlength
        rw [hsplit, List.flatMap_cons, htext]
        exact ((Refines.refl _).append (ih rest.length (by omega) rest rfl)).trans hseam

/-! ## Paragraphs -/

/-- No gap starts in a piece. -/
theorem exists_noGapIn {piece : Text} (h : piece ∈ splitGaps fill limit t) :
    ∃ behind, NoGapIn fill limit piece behind := by
  induction hlength : t.length using Nat.strongRecOn generalizing t with
  | _ n ih =>
      rcases splitGaps_cases fill limit t with
        ⟨hone, hnone⟩ | ⟨first, behind, rest, rfl, hgap, hnone, hsplit⟩
      · rw [hone, List.mem_singleton] at h
        exact ⟨[], h ▸ hnone⟩
      · have hshorter := length_gap? hgap
        rw [List.length_append] at hlength
        rw [hsplit] at h
        rcases List.mem_cons.1 h with rfl | h
        · exact ⟨behind, hnone⟩
        · exact ih rest.length (by omega) h rfl

/-- Without a gap of bare line breaks in it, a text is one stanza. -/
theorem stanzas_of_noGapIn {behind : Text} (h : NoGapIn (fun _ => false) 1 t behind) :
    stanzas isBare t = whole (verseLines t) := by
  rw [stanzas, stanzasOf_of_inner separator_isBare, flatMap_verseLines_splitOn]
  intro line hline
  obtain ⟨first, last, rfl⟩ := exists_of_mem_inner hline
  by_contra hbare
  refine gap?_ne_none (by simpa using hbare) (last ++ behind) ?_
  have hnone := h first ('\n' :: line ++ '\n' :: last) (by simp) (by simp)
  simpa using hnone

/-- Trimmed, pieces that are not blank have the verse lines of all. -/
theorem map_verseLines_filter (pieces : List Text) :
    ((pieces.map trim).filter fun piece => !piece.isEmpty).map verseLines =
      pieces.flatMap fun piece => whole (verseLines piece) := by
  induction pieces with
  | nil => rfl
  | cons piece pieces ih =>
      have hempty : (verseLines piece).isEmpty = (trim piece).isEmpty := by
        rw [Bool.eq_iff_iff, List.isEmpty_iff, List.isEmpty_iff, verseLines_eq_nil_iff,
          trim_eq_nil_iff]
      rw [List.map_cons, List.filter_cons, List.flatMap_cons, ← ih, whole, List.filter_cons,
        hempty]
      cases (trim piece).isEmpty <;> simp

/-- The paragraphs of a text are its stanzas between bare lines. -/
theorem map_verseLines_paragraphs (t : Text) :
    (paragraphs t).map verseLines = stanzas isBare t := by
  have hpieces : ∀ piece ∈ splitGaps (fun _ => false) 1 t,
      whole (verseLines piece) = stanzas isBare piece := by
    intro piece hpiece
    obtain ⟨behind, hnone⟩ := exists_noGapIn hpiece
    exact (stanzas_of_noGapIn hnone).symm
  rw [paragraphs, map_verseLines_filter, List.flatMap_congr hpieces,
    flatMap_stanzas_splitGaps separator_isBare (by simp) (fun _ h => h) Nat.one_pos]

/-! ## Collapsed gaps -/

/-- Blanks and tabs. -/
def isIndent (c : Char) : Bool :=
  c == ' ' || c == '\t'

theorem isBlank_of_isIndent {c : Char} (h : isIndent c = true) : isBlank c = true ∧ c ≠ '\n' := by
  rw [isIndent, Bool.or_eq_true, beq_iff_eq, beq_iff_eq] at h
  rcases h with rfl | rfl <;> decide

/-- A line of blanks and tabs, up to a return, is a line of blanks. -/
theorem isBlankLine_of_isFilled (h : isFilled isIndent line = true) : isBlankLine line = true := by
  rw [isBlankLine, List.all_eq_true]
  intro c hc
  rcases forall_of_isFilled h c hc with h | rfl
  · exact (isBlank_of_isIndent h).1
  · decide

/-- Where empty lines separate, texts with empty lines between them have the stanzas of each. -/
theorem stanzas_join (hempty : separates [] = true) (pieces : List Text) :
    stanzas separates (join ['\n', '\n'] pieces) = pieces.flatMap (stanzas separates) := by
  induction pieces with
  | nil =>
      show stanzas separates [] = []
      rw [stanzas, splitOn, stanzasOf, stretches, List.splitOnP_cons_eq_if_modifyHead]
      simp [hempty]
  | cons piece pieces ih =>
      cases pieces with
      | nil => simp [join]
      | cons second pieces =>
          have htext : join ['\n', '\n'] (piece :: second :: pieces) =
              piece ++ '\n' :: [] ++ '\n' :: join ['\n', '\n'] (second :: pieces) := by
            simp [join]
          rw [htext, stanzas_append_separator hempty (by simp), ih]
          rfl

/-- Collapsing gaps keeps the stanzas between blank lines. -/
theorem stanzas_collapseGaps (t : Text) :
    stanzas isBlankLine (collapseGaps t) = stanzas isBlankLine t := by
  rw [collapseGaps, stanzas_join rfl]
  exact flatMap_stanzas_splitGaps separator_isBlankLine (fun _ => isBlank_of_isIndent)
    (fun _ => isBlankLine_of_isFilled) (by decide) t

/-- Collapsing gaps can only cut stanzas. -/
theorem refines_stanzas_collapseGaps (hsep : Separator separates) (hempty : separates [] = true)
    (t : Text) : Refines (stanzas separates (collapseGaps t)) (stanzas separates t) := by
  rw [collapseGaps, stanzas_join hempty]
  exact refines_flatMap_splitGaps hsep (fun _ h => (isBlank_of_isIndent h).1) 2 t

end Text

end MarkedVerse
