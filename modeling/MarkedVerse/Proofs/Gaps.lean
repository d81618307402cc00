import MarkedVerse.Proofs.VerseLines
import MarkedVerse.Text.Gap

/-!
# Gaps and the pieces between them

A gap of at least two line breaks has a line in it that separates what stands around it
(`exists_line_of_gap?`). The pieces of a text are cut at its first gaps: in a piece no gap starts
(`splitGaps_cases`), and two bare line breaks are always a gap (`gap?_ne_none`).
-/

namespace MarkedVerse

namespace Text

/-! ## Runs of line breaks -/

/-- A line feed among returns, line feeds, and characters of the class `fill`. -/
structure IsGap (fill : Char → Bool) (gap : Text) : Prop where
  chars : ∀ c ∈ gap, fill c = true ∨ c = '\r' ∨ c = '\n'
  newline : '\n' ∈ gap

/-- Where the class is one of blanks, such characters are blank. -/
theorem isBlank_of_gapChars {fill : Char → Bool} (hfill : ∀ c, fill c = true → isBlank c = true)
    {t : Text} (h : ∀ c ∈ t, fill c = true ∨ c = '\r' ∨ c = '\n') :
    ∀ c ∈ t, isBlank c = true := by
  intro c hc
  rcases h c hc with h | rfl | rfl
  · exact hfill c h
  · decide
  · decide

/-- A line of characters of the class `fill`, with or without a return at its end. -/
def isFilled (fill : Char → Bool) (line : Text) : Bool :=
  (dropReturn line).all fill

/-- A line that is empty or has only the return at its end. -/
def isBare (line : Text) : Bool :=
  isFilled (fun _ => false) line

variable {fill : Char → Bool} {limit : Nat} {t rest : Text}

/-- A line break is a line feed, or a return and a line feed. -/
theorem eq_append_of_lineBreak? (h : lineBreak? t = some rest) :
    t = '\n' :: rest ∨ t = '\r' :: '\n' :: rest := by
  unfold lineBreak? at h
  split at h
  · cases h
    exact .inl rfl
  · cases h
    exact .inr rfl
  · cases h

/-- A line break begins with a line feed or a return. -/
theorem lineBreak?_eq_none {c : Char} (hline : c ≠ '\n') (hreturn : c ≠ '\r') (t : Text) :
    lineBreak? (c :: t) = none := by
  unfold lineBreak?
  split
  · simp_all
  · simp_all
  · rfl

/-- A line break behind characters of the class is one more than those behind it. -/
theorem breakRun_of_lineBreak? (h : lineBreak? (t.dropWhile fill) = some rest) :
    breakRun fill t = ((breakRun fill rest).1 + 1, (breakRun fill rest).2) := by
  rw [breakRun]
  split
  · next rest' h' =>
      obtain rfl : rest' = rest := Option.some.inj (h'.symm.trans h)
      rfl
  · next h' => simp [h'] at h

/-- Behind characters of the class, anything else is no line break. -/
theorem breakRun_of_none (h : lineBreak? (t.dropWhile fill) = none) :
    breakRun fill t = (0, t) := by
  rw [breakRun]
  split
  · next h' => simp [h'] at h
  · rfl

/-- Characters of the class make up a line, and a return may end it. -/
theorem isFilled_of_forall {line : Text} (h : ∀ c ∈ line, fill c = true) :
    isFilled fill line = true ∧ isFilled fill (line ++ ['\r']) = true := by
  constructor
  · rw [isFilled, List.all_eq_true, dropReturn]
    split
    · exact fun c hc => h c (List.dropLast_subset _ hc)
    · exact h
  · rw [isFilled, List.all_eq_true, dropReturn, if_pos (by simp), List.dropLast_concat]
    exact h

/-- A filled line holds characters of the class, and returns. -/
theorem forall_of_isFilled {line : Text} (h : isFilled fill line = true) :
    ∀ c ∈ line, fill c = true ∨ c = '\r' := by
  rw [isFilled, List.all_eq_true, dropReturn] at h
  split at h
  · next hlast =>
      obtain ⟨front, rfl⟩ := List.getLast?_eq_some_iff.1 hlast
      rw [List.dropLast_concat] at h
      intro c hc
      rcases List.mem_append.1 hc with hc | hc
      · exact .inl (h c hc)
      · exact .inr (List.mem_singleton.1 hc)
  · exact fun c hc => .inl (h c hc)

/-- The bare lines. -/
theorem isBare_iff {line : Text} : isBare line = true ↔ line = [] ∨ line = ['\r'] := by
  constructor
  · intro h
    rw [isBare, isFilled, List.all_eq_true] at h
    have hnil : dropReturn line = [] := List.eq_nil_iff_forall_not_mem.2 fun c hc => by
      simpa using h c hc
    rw [dropReturn] at hnil
    split at hnil
    · next hlast =>
        obtain ⟨front, rfl⟩ := List.getLast?_eq_some_iff.1 hlast
        rw [List.dropLast_concat] at hnil
        exact .inr (by rw [hnil]; rfl)
    · exact .inl hnil
  · rintro (rfl | rfl) <;> rfl

/-- A run of line breaks that is not empty has a first line. -/
theorem exists_line_of_breakRun_pos (h : 0 < (breakRun fill t).1) :
    ∃ line rest, isFilled fill line = true ∧ t = line ++ '\n' :: rest ∧
      (breakRun fill t).1 = (breakRun fill rest).1 + 1 ∧
      (breakRun fill t).2 = (breakRun fill rest).2 := by
  have ht : t.takeWhile fill ++ t.dropWhile fill = t := List.takeWhile_append_dropWhile
  have hfill : ∀ c ∈ t.takeWhile fill, fill c = true := fun c hc => List.mem_takeWhile_imp hc
  obtain ⟨hline, hreturn⟩ := isFilled_of_forall hfill
  rw [breakRun] at h ⊢
  split at h
  · next rest hbreak =>
      rcases eq_append_of_lineBreak? hbreak with hdrop | hdrop
      · exact ⟨_, rest, hline, by rw [← hdrop, ht], rfl, rfl⟩
      · refine ⟨_, rest, hreturn, ?_, rfl, rfl⟩
        rw [List.append_assoc, List.singleton_append, ← hdrop, ht]
  · exact absurd h (Nat.lt_irrefl 0)

/-- What a run of line breaks takes from the front of a text is a gap, unless it is nothing. -/
theorem exists_breakRun (fill : Char → Bool) (t : Text) :
    ∃ gap, t = gap ++ (breakRun fill t).2 ∧ (0 < (breakRun fill t).1 → IsGap fill gap) ∧
      ∀ c ∈ gap, fill c = true ∨ c = '\r' ∨ c = '\n' := by
  induction hcount : (breakRun fill t).1 generalizing t with
  | zero =>
      refine ⟨[], ?_, by simp, by simp⟩
      rw [breakRun] at hcount ⊢
      split at hcount
      · cases hcount
      · simp [*]
  | succ count ih =>
      have hpos : 0 < (breakRun fill t).1 := by omega
      obtain ⟨line, rest, hline, ht, hone, hbehind⟩ := exists_line_of_breakRun_pos hpos
      obtain ⟨gap, hgap, -, hchars⟩ := ih rest (by omega)
      have hfilled := forall_of_isFilled hline
      refine ⟨line ++ '\n' :: gap, ?_, fun _ => ⟨?_, by simp⟩, ?_⟩
      · rw [hbehind, List.append_assoc, List.cons_append, ← hgap, ht]
      all_goals grind

/-- A gap that is found at the front of a text is one. -/
theorem exists_gap (h : gap? fill limit t = some rest) :
    ∃ gap, IsGap fill gap ∧ t = gap ++ rest := by
  obtain ⟨gap, ht, hgap, -⟩ := exists_breakRun fill t
  unfold gap? at h
  split at h
  · next hlimit =>
      cases h
      exact ⟨gap, hgap (Nat.zero_lt_of_lt hlimit), ht⟩
  · cases h

/-- A gap of two line breaks or more has a filled line in it. -/
theorem exists_line_of_gap? (hlimit : 0 < limit) (h : gap? fill limit t = some rest) :
    ∃ first line last, isFilled fill line = true ∧
      (∀ c ∈ first ++ last, fill c = true ∨ c = '\r' ∨ c = '\n') ∧
      t = first ++ '\n' :: line ++ '\n' :: (last ++ rest) := by
  unfold gap? at h
  split at h
  · next hcount =>
      cases h
      have hpos : 0 < (breakRun fill t).1 := by omega
      obtain ⟨first, second, hfirst, ht, hone, hbehind⟩ := exists_line_of_breakRun_pos hpos
      have hpos' : 0 < (breakRun fill second).1 := by omega
      obtain ⟨line, third, hline, rfl, -, hbehind'⟩ := exists_line_of_breakRun_pos hpos'
      obtain ⟨last, hlast, -, hchars⟩ := exists_breakRun fill third
      have hfilled := forall_of_isFilled hfirst
      refine ⟨first, line, last, hline, ?_, ?_⟩
      · grind
      · rw [hbehind, hbehind', ← hlast, ht]
        simp
  · cases h

/-- Two bare line breaks are a gap, whatever follows them. -/
theorem gap?_ne_none {line : Text} (h : isBare line = true) (t : Text) :
    gap? (fun _ => false) 1 ('\n' :: (line ++ '\n' :: t)) ≠ none := by
  have hdrop : ∀ u : Text, u.dropWhile (fun _ => false) = u := fun u => by cases u <;> rfl
  have hone : ∀ u : Text, (breakRun (fun _ => false) ('\n' :: u)).1 =
      (breakRun (fun _ => false) u).1 + 1 := by
    intro u
    rw [breakRun, hdrop]
    rfl
  have htwo : 0 < (breakRun (fun _ => false) (line ++ '\n' :: t)).1 := by
    rcases isBare_iff.1 h with rfl | rfl
    all_goals
      rw [breakRun, hdrop]
      exact Nat.succ_pos _
  rw [gap?, if_pos (by rw [hone]; omega)]
  simp

/-! ## Pieces -/

/-- Where a gap starts, a piece ends. -/
theorem splitGaps_of_gap? (h : gap? fill limit t = some rest) :
    splitGaps fill limit t = [] :: splitGaps fill limit rest := by
  cases t with
  | nil => exact absurd (length_gap? h) (by simp)
  | cons c t =>
      rw [splitGaps]
      split
      · next rest' h' =>
          obtain rfl : rest' = rest := Option.some.inj (h'.symm.trans h)
          rfl
      · next h' => simp [h'] at h

/-- A character where no gap starts belongs to a piece. -/
theorem splitGaps_of_none {c : Char} (h : gap? fill limit (c :: t) = none) :
    splitGaps fill limit (c :: t) = consHead c (splitGaps fill limit t) := by
  rw [splitGaps]
  split
  · next h' => simp [h'] at h
  · rfl

/-- No gap starts in the text when it stands in front of `behind`. -/
def NoGapIn (fill : Char → Bool) (limit : Nat) (t behind : Text) : Prop :=
  ∀ front last, t = front ++ last → last ≠ [] → gap? fill limit (last ++ behind) = none

/-- A text has no gap, or its first piece ends at its first gap. -/
theorem splitGaps_cases (fill : Char → Bool) (limit : Nat) (t : Text) :
    splitGaps fill limit t = [t] ∧ NoGapIn fill limit t [] ∨
      ∃ piece behind rest, t = piece ++ behind ∧ gap? fill limit behind = some rest ∧
        NoGapIn fill limit piece behind ∧
        splitGaps fill limit t = piece :: splitGaps fill limit rest := by
  have hcons : ∀ {c t behind}, gap? fill limit (c :: t ++ behind) = none →
      NoGapIn fill limit t behind → NoGapIn fill limit (c :: t) behind := by
    intro c t behind hnone ht front last heq hlast
    rcases List.cons_eq_append_iff.1 heq with ⟨-, rfl⟩ | ⟨front, -, rfl⟩
    · exact hnone
    · exact ht front last rfl hlast
  have hnil : ∀ behind, NoGapIn fill limit [] behind := by
    intro behind front last heq hlast
    exact absurd (List.append_eq_nil_iff.1 heq.symm).2 hlast
  induction t with
  | nil => exact .inl ⟨by rw [splitGaps], hnil _⟩
  | cons c t ih =>
      rw [splitGaps]
      split
      · next rest hgap => exact .inr ⟨[], c :: t, rest, rfl, hgap, hnil _, rfl⟩
      · next hgap =>
          rcases ih with ⟨hone, hnone⟩ | ⟨piece, behind, rest, rfl, hrest, hnone, hsplit⟩
          · exact .inl ⟨by rw [hone]; rfl, hcons (by rwa [List.append_nil]) hnone⟩
          · exact .inr ⟨c :: piece, behind, rest, rfl, hrest, hcons hgap hnone,
              by rw [hsplit]; rfl⟩

/-- A text has no gap, or its first piece ends at one. -/
theorem splitGaps_eq (fill : Char → Bool) (limit : Nat) (t : Text) :
    splitGaps fill limit t = [t] ∨ ∃ piece gap rest, IsGap fill gap ∧ t = piece ++ gap ++ rest ∧
      splitGaps fill limit t = piece :: splitGaps fill limit rest := by
  rcases splitGaps_cases fill limit t with ⟨hone, -⟩ | ⟨piece, behind, rest, rfl, hgap, -, hsplit⟩
  · exact .inl hone
  · obtain ⟨gap, hisGap, rfl⟩ := exists_gap hgap
    exact .inr ⟨piece, gap, rest, hisGap, (List.append_assoc _ _ _).symm, hsplit⟩

/-- What is put together from both sides of each gap is put together from the pieces. -/
theorem flatMap_splitGaps {α : Type} {f : Text → List α}
    (hgap : ∀ {piece behind rest : Text}, gap? fill limit behind = some rest →
      f (piece ++ behind) = f piece ++ f rest) (t : Text) :
    (splitGaps fill limit t).flatMap f = f t := by
  -- Behind the gap stands a shorter text, but not the tail of this one.
  induction hlength : t.length using Nat.strongRecOn generalizing t with
  | _ n ih =>
      rcases splitGaps_cases fill limit t with
        ⟨hone, -⟩ | ⟨piece, behind, rest, rfl, hbehind, -, hsplit⟩
      · simp [hone]
      · have hshorter := length_gap? hbehind
        rw [List.length_append] at hlength
        rw [hsplit, List.flatMap_cons, ih rest.length (by omega) rest rfl, hgap hbehind]

/-- A paragraph is trimmed and not empty. -/
theorem trim_of_mem_paragraphs {t paragraph : Text} (h : paragraph ∈ paragraphs t) :
    trim paragraph = paragraph ∧ paragraph ≠ [] := by
  obtain ⟨hmem, hne⟩ := List.mem_filter.1 h
  obtain ⟨piece, -, rfl⟩ := List.mem_map.1 hmem
  exact ⟨trim_trim piece, by simpa using hne⟩

/-- A paragraph has a line of verse. -/
theorem verseLines_ne_nil_of_mem_paragraphs {t paragraph : Text} (h : paragraph ∈ paragraphs t) :
    verseLines paragraph ≠ [] := by
  obtain ⟨htrim, hne⟩ := trim_of_mem_paragraphs h
  intro hnil
  exact hne (htrim ▸ trim_eq_nil_iff.2 (verseLines_eq_nil_iff.1 hnil))

end Text

end MarkedVerse
