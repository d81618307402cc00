import Mathlib.Data.List.Basic
import Mathlib.Data.List.TakeWhile
import MarkedVerse.Text.Blank

/-!
# Runs of characters

A run of characters outside a class ends where a character of the class stands. The runs of a text
are what the text has outside the class (`flatten_runsOutside`), the runs of two texts with a gap
between them are those of both (`runsOutside_append_gap`), and the words that a text was joined from
are read back from it (`runsOutside_join`).
-/

namespace MarkedVerse.Text

variable {p : Char → Bool} {gap : Char} {word rest t run : Text}

/-- A run of characters of a class ends in front of a text that does not begin with one. -/
theorem run_append {u : Text} (hu : ∀ c ∈ u, p c = true) (hrest : ∀ c ∈ rest.head?, p c = false) :
    (u ++ rest).takeWhile p = u ∧ (u ++ rest).dropWhile p = rest := by
  rw [List.takeWhile_append_of_pos hu, List.dropWhile_append_of_pos hu]
  cases rest with
  | nil => exact ⟨List.append_nil u, rfl⟩
  | cons c rest =>
      have hc : ¬p c = true := by simp [hrest c rfl]
      rw [List.takeWhile_cons_of_neg hc, List.append_nil]
      exact ⟨rfl, List.dropWhile_cons_of_neg hc⟩

/-- A word is the first run, when nothing or a gap follows it. -/
theorem runsOutside_append (hne : word ≠ []) (hword : ∀ c ∈ word, p c = false)
    (hrest : ∀ c ∈ rest.head?, p c = true) :
    runsOutside p (word ++ rest) = word :: runsOutside p rest := by
  obtain ⟨c, word, rfl⟩ := List.exists_cons_of_ne_nil hne
  have hrun : ∀ d ∈ word, (!p d) = true := by
    intro d hd
    rw [hword d (List.mem_cons_of_mem _ hd), Bool.not_false]
  obtain ⟨htake, hdrop⟩ := run_append hrun fun d hd => by rw [hrest d hd, Bool.not_true]
  rw [List.cons_append, runsOutside, if_neg (by simp [hword c List.mem_cons_self]), htake, hdrop]

theorem runsOutside_cons (hgap : p gap = true) (rest : Text) :
    runsOutside p (gap :: rest) = runsOutside p rest := by
  rw [runsOutside, if_pos hgap]

/-- A word is the only run of its text. -/
theorem runsOutside_word (hne : word ≠ []) (hword : ∀ c ∈ word, p c = false) :
    runsOutside p word = [word] := by
  have hone : runsOutside p (word ++ []) = word :: runsOutside p [] :=
    runsOutside_append hne hword (by simp)
  rwa [List.append_nil, runsOutside] at hone

/-- No run goes over a gap. -/
theorem runsOutside_append_gap (hgap : p gap = true) (t rest : Text) :
    runsOutside p (t ++ gap :: rest) = runsOutside p t ++ runsOutside p rest := by
  fun_induction runsOutside p t with
  | case1 => exact runsOutside_cons hgap rest
  | case2 c t hc ih => rw [List.cons_append, runsOutside_cons hc, ih]
  | case3 c t hc ih =>
      have hrun : ∀ d ∈ c :: t.takeWhile (fun d => !p d), p d = false := by
        intro d hd
        rcases List.mem_cons.1 hd with rfl | hd
        · simpa using hc
        · simpa using List.mem_takeWhile_imp hd
      have hbehind : ∀ d ∈ (t.dropWhile (fun d => !p d) ++ gap :: rest).head?, p d = true := by
        intro d hd
        have hend := List.head?_dropWhile_not (fun d => !p d) t
        cases hdrop : t.dropWhile fun d => !p d with
        | nil =>
            rw [hdrop] at hd
            cases hd
            exact hgap
        | cons e u =>
            rw [hdrop] at hd hend
            cases hd
            simpa using hend
      have hcut : c :: t ++ gap :: rest =
          c :: t.takeWhile (fun d => !p d) ++ (t.dropWhile (fun d => !p d) ++ gap :: rest) := by
        rw [List.cons_append, List.cons_append, ← List.append_assoc,
          List.takeWhile_append_dropWhile]
      rw [hcut, runsOutside_append (List.cons_ne_nil _ _) hrun hbehind, ih, List.cons_append]

/-- A character of a joined text is in a gap or in a word. -/
theorem mem_join {c : Char} {words : List Text} (h : c ∈ join [gap] words) :
    c = gap ∨ ∃ word ∈ words, c ∈ word := by
  induction words with
  | nil => cases h
  | cons word words ih =>
      cases words with
      | nil =>
          rw [join, List.intercalate_singleton] at h
          exact .inr ⟨word, List.mem_cons_self, h⟩
      | cons second words =>
          rw [join, List.intercalate_cons_cons, List.mem_append, List.mem_append,
            List.mem_singleton] at h
          obtain (hword | hgap) | hrest := h
          · exact .inr ⟨word, List.mem_cons_self, hword⟩
          · exact .inl hgap
          · exact (ih hrest).imp_right fun ⟨w, hw, hc⟩ => ⟨w, List.mem_cons_of_mem _ hw, hc⟩

/-- Words are read back from the text that they are joined to. -/
theorem runsOutside_join {words : List Text} (hgap : p gap = true)
    (hwords : ∀ word ∈ words, word ≠ [] ∧ ∀ c ∈ word, p c = false) :
    runsOutside p (join [gap] words) = words := by
  induction words with
  | nil => rw [join, List.intercalate_nil, runsOutside]
  | cons word words ih =>
      obtain ⟨hne, hword⟩ := hwords word List.mem_cons_self
      have hrest := ih fun word hw => hwords word (List.mem_cons_of_mem _ hw)
      cases words with
      | nil => rw [join, List.intercalate_singleton, runsOutside_word hne hword]
      | cons second words =>
          rw [join] at hrest
          rw [join, List.intercalate_cons_cons, List.append_assoc, List.singleton_append,
            runsOutside_append_gap hgap, runsOutside_word hne hword, hrest, List.singleton_append]

/-- The runs outside a class are what the text has outside it. -/
theorem flatten_runsOutside (p : Char → Bool) (t : Text) :
    (runsOutside p t).flatten = t.filter fun c => !p c := by
  fun_induction runsOutside p t with
  | case1 => rfl
  | case2 c t hc ih => rw [ih, List.filter_cons_of_neg (by simp [hc])]
  | case3 c t hc ih =>
      have hrun : (t.takeWhile fun d => !p d).filter (fun d => !p d) = t.takeWhile fun d => !p d :=
        List.filter_eq_self.2 fun d hd => List.mem_takeWhile_imp (p := fun d => !p d) hd
      rw [List.flatten_cons, ih, List.filter_cons_of_pos (by simp [hc])]
      conv_rhs => rw [← List.takeWhile_append_dropWhile (p := fun d => !p d) (l := t),
        List.filter_append, hrun]
      rfl

/-- A run of characters is not empty. -/
theorem ne_nil_of_mem_runsOutside (h : run ∈ runsOutside p t) : run ≠ [] := by
  fun_induction runsOutside p t with
  | case1 => cases h
  | case2 c t hc ih => exact ih h
  | case3 c t hc ih =>
      rcases List.mem_cons.1 h with rfl | h
      · exact List.cons_ne_nil _ _
      · exact ih h

/-- The characters of a run are outside the class. -/
theorem eq_false_of_mem_runsOutside (h : run ∈ runsOutside p t) : ∀ c ∈ run, p c = false := by
  intro c hc
  have hflatten : c ∈ (runsOutside p t).flatten := List.mem_flatten.2 ⟨run, h, hc⟩
  rw [flatten_runsOutside] at hflatten
  simpa using (List.mem_filter.1 hflatten).2

/-- A text with a character outside a class has a run of them. -/
theorem runsOutside_ne_nil {c : Char} (hc : c ∈ t) (hp : p c = false) : runsOutside p t ≠ [] := by
  intro hnil
  have hfilter : c ∈ t.filter fun c => !p c := List.mem_filter.2 ⟨hc, by rw [hp, Bool.not_false]⟩
  rw [← flatten_runsOutside, hnil] at hfilter
  cases hfilter

end MarkedVerse.Text
