import Mathlib.Data.List.TakeWhile
import MarkedVerse.Marker

/-!
# The grammar of markers

A marker is a word between two pairs of bars, and the word holds neither a bar nor a line feed.
`at?_eq_some_iff` says that reading a marker is exactly the inverse of writing a well-formed one.
The other results say how far a marker can reach: it never runs past a line feed, it always ends
in a bar, and where a text is followed by two bars nothing behind them can make a marker of it
(`at?_bars_eq_none`).
-/

namespace MarkedVerse

namespace Marker

/-- The suffix of a break holds nothing but suffix characters. -/
def WellFormed : Marker → Prop
  | plainBreak => True
  | styledBreak suffix => ∀ c ∈ suffix, isSuffixChar c = true
  | header => True

/-- What stands between the bars of a marker. -/
def word : Marker → Text
  | plainBreak => ['B', 'R', 'E', 'A', 'K']
  | styledBreak suffix => ['B', 'R', 'E', 'A', 'K', ':'] ++ suffix
  | header => ['H', 'E', 'A', 'D', 'E', 'R']

/-- A marker is its word between two pairs of bars. -/
theorem source_eq (m : Marker) : m.source = '|' :: '|' :: (m.word ++ ['|', '|']) := by
  cases m <;> simp [source, word, breakWord, headerWord]

/-- A marker is not empty. -/
theorem source_ne_nil (m : Marker) : m.source ≠ [] := by
  simp [source_eq]

/-- The word of a well-formed marker has no bar. -/
theorem WellFormed.bar_not_mem_word {m : Marker} (h : m.WellFormed) : '|' ∉ m.word := by
  cases m with
  | plainBreak | header => decide
  | styledBreak suffix =>
      intro hbar
      have hmem : '|' ∈ suffix := by simpa [word] using hbar
      exact absurd (h _ hmem) (by decide)

/-- A well-formed marker lies on one line. -/
theorem WellFormed.newline_not_mem_source {m : Marker} (h : m.WellFormed) :
    '\n' ∉ m.source := by
  cases m with
  | plainBreak | header => decide
  | styledBreak suffix =>
      intro hline
      have hmem : '\n' ∈ suffix := by simpa [source, breakWord] using hline
      exact absurd (h _ hmem) (by decide)

/-- The word of a marker starts with a letter, never with a bar. -/
theorem word_ne_cons_bar (m : Marker) (t : Text) : m.word ++ ['|', '|'] ≠ '|' :: t := by
  cases m <;> simp [word]

/-- Two bars inside a well-formed marker are its first two or its last two characters. -/
theorem WellFormed.bars_at_ends {m : Marker} (h : m.WellFormed) {before behind : Text}
    (hsource : m.source = before ++ '|' :: '|' :: behind) : before = [] ∨ behind = [] := by
  rw [source_eq] at hsource
  match before with
  | [] => exact .inl rfl
  | [c] =>
      -- The third character would be a bar, but the word starts there.
      simp only [List.cons_append, List.nil_append, List.cons.injEq, true_and] at hsource
      exact absurd hsource.2 (word_ne_cons_bar m _)
  | c :: d :: before =>
      -- The four bars of the marker are spent on its first two characters and on these two.
      simp only [List.cons_append, List.cons.injEq] at hsource
      obtain ⟨-, -, hrest⟩ := hsource
      have hcount := congrArg (List.count '|') hrest
      have hword : m.word.count '|' = 0 := List.count_eq_zero.2 h.bar_not_mem_word
      simp only [List.count_append, List.count_cons_self, List.count_nil, hword] at hcount
      refine .inr (List.eq_nil_iff_forall_not_mem.2 fun x hx => ?_)
      have hlast := congrArg List.getLast? hrest
      have hne : behind ≠ [] := List.ne_nil_of_mem hx
      simp [List.getLast?_append, List.getLast?_cons, List.getLast?_eq_some_getLast hne] at hlast
      have hbar : 0 < behind.count '|' :=
        List.count_pos_iff.2 (hlast ▸ List.getLast_mem hne)
      omega

/-! ## Reading is the inverse of writing -/

/-- A literal in front of a text is found there. -/
@[simp]
theorem dropLiteral?_append (literal t : Text) :
    Text.dropLiteral? literal (literal ++ t) = some t := by
  induction literal with
  | nil => cases t <;> rfl
  | cons c literal ih => simp [Text.dropLiteral?, ih]

/-- A well-formed marker in front of a text is read back. -/
theorem WellFormed.at?_source_append {m : Marker} (h : m.WellFormed) (t : Text) :
    at? (m.source ++ t) = some (m, t) := by
  cases m with
  | plainBreak =>
      rw [source, List.append_assoc, at?, dropLiteral?_append]
      rfl
  | styledBreak suffix =>
      have hbar : ∀ u, ('|' :: u).takeWhile isSuffixChar = [] ∧
          ('|' :: u).dropWhile isSuffixChar = '|' :: u := fun u => ⟨rfl, rfl⟩
      have htake : (suffix ++ '|' :: '|' :: t).takeWhile isSuffixChar = suffix := by
        rw [List.takeWhile_append_of_pos h, (hbar _).1, List.append_nil]
      have hdrop : (suffix ++ '|' :: '|' :: t).dropWhile isSuffixChar = '|' :: '|' :: t := by
        rw [List.dropWhile_append_of_pos h, (hbar _).2]
      have hsource : (styledBreak suffix).source ++ t =
          breakWord ++ ':' :: (suffix ++ '|' :: '|' :: t) := by simp [source]
      rw [hsource, at?, dropLiteral?_append]
      simp only [htake, hdrop]
  | header => rfl

/-- A marker that was read is well formed. -/
theorem wellFormed_of_at? {t rest : Text} {m : Marker} (h : at? t = some (m, rest)) :
    m.WellFormed := by
  unfold at? at h
  split at h
  · cases h
    trivial
  · split at h
    · cases h
      exact fun c hc => List.mem_takeWhile_imp hc
    · cases h
  · cases h
  · obtain ⟨r, -, hm⟩ := Option.map_eq_some_iff.1 h
    cases hm
    trivial

/-- A marker is read at the front of a text exactly when the text is a well-formed marker and what
follows it. -/
theorem at?_eq_some_iff {t rest : Text} {m : Marker} :
    at? t = some (m, rest) ↔ m.WellFormed ∧ t = m.source ++ rest := by
  constructor
  · intro h
    exact ⟨wellFormed_of_at? h, (source_append_of_at? h).symm⟩
  · rintro ⟨hm, rfl⟩
    exact hm.at?_source_append rest

/-! ## How far a marker reaches -/

/-- What follows a text does not change the marker at its front. -/
theorem at?_append {t rest : Text} {m : Marker} (h : at? t = some (m, rest)) (u : Text) :
    at? (t ++ u) = some (m, rest ++ u) := by
  obtain ⟨hm, rfl⟩ := at?_eq_some_iff.1 h
  rw [List.append_assoc]
  exact hm.at?_source_append _

/-- A marker can only appear in a longer text when it reaches into what was added. -/
theorem at?_append_eq_none {t u : Text} (h : at? t = none)
    (hreach : ∀ m : Marker, m.WellFormed → ∀ inside rest, inside ≠ [] →
      m.source = t ++ inside → u = inside ++ rest → False) :
    at? (t ++ u) = none := by
  rw [Option.eq_none_iff_forall_ne_some]
  rintro ⟨m, rest⟩ hread
  obtain ⟨hm, heq⟩ := at?_eq_some_iff.1 hread
  rcases List.append_eq_append_iff.1 heq with ⟨inside, hsource, hu⟩ | ⟨left, ht, -⟩
  · by_cases hinside : inside = []
    · have hself : at? t = some (m, []) :=
        at?_eq_some_iff.2 ⟨hm, by simpa [hinside] using hsource.symm⟩
      simp [hself] at h
    · exact hreach m hm inside rest hinside hsource hu
  · have hself : at? t = some (m, left) := at?_eq_some_iff.2 ⟨hm, ht⟩
    simp [hself] at h

/-- No marker reaches past a line feed. -/
theorem at?_newline_eq_none {t : Text} (h : at? t = none) (u : Text) :
    at? (t ++ '\n' :: u) = none := by
  refine at?_append_eq_none h fun m hm inside rest hinside hsource hu => ?_
  obtain ⟨c, inside, rfl⟩ := List.exists_cons_of_ne_nil hinside
  obtain rfl : '\n' = c := (List.cons.inj hu).1
  exact hm.newline_not_mem_source (by simp [hsource])

/-- No marker reaches into a text without bars. -/
theorem at?_append_eq_none_of_bar_not_mem {t u : Text} (h : at? t = none) (hu : '|' ∉ u) :
    at? (t ++ u) = none := by
  refine at?_append_eq_none h fun m _ inside rest hinside hsource heq => ?_
  have hlast := congrArg List.getLast? hsource
  rw [source_eq] at hlast
  simp [List.getLast?_append, List.getLast?_cons, List.getLast?_eq_some_getLast hinside] at hlast
  have hmem : '|' ∈ inside := hlast ▸ List.getLast_mem hinside
  exact hu (by simp [heq, hmem])

/-- Whether a marker starts before two bars does not depend on what follows them. -/
theorem at?_bars_eq_none {t u : Text} (ht : t ≠ []) (h : at? (t ++ '|' :: '|' :: u) = none)
    (v : Text) : at? (t ++ '|' :: '|' :: v) = none := by
  have hbars : at? (t ++ ['|', '|']) = none := by
    rw [Option.eq_none_iff_forall_ne_some]
    rintro ⟨m, rest⟩ hread
    have hlonger := at?_append hread u
    simp [h] at hlonger
  rw [show t ++ '|' :: '|' :: v = (t ++ ['|', '|']) ++ v by simp]
  refine at?_append_eq_none hbars fun m hm inside rest hinside hsource _ => ?_
  rcases hm.bars_at_ends (by simpa using hsource) with h | h
  · exact ht h
  · exact hinside h

/-- No marker starts with anything but a bar. -/
theorem at?_cons_eq_none {c : Char} (h : c ≠ '|') (t : Text) : at? (c :: t) = none := by
  rw [Option.eq_none_iff_forall_ne_some]
  rintro ⟨m, rest⟩ hread
  have heq := (at?_eq_some_iff.1 hread).2
  rw [source_eq] at heq
  exact h (List.cons.inj heq).1

end Marker

end MarkedVerse
