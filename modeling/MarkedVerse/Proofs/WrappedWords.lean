import MarkedVerse.Proofs.WrappedText
import MarkedVerse.Proofs.Wrapping

/-!
# Words on rows

A word that fits into the column is put on one row, behind a space or at its beginning, so it is a
word of that row (`sublist_words_wrap`). Only a word that is wider is cut, and what is left of it
may share its last row with words that follow. A row is ended when something is on it, so no row is
empty (`ne_nil_of_mem_wrap`). With the width of the rows and the letters on them, this is what can
be said of wrapping (`wrap_fits_and_keeps_words`).
-/

namespace MarkedVerse.Text

/-- The words of two texts with a space between them are those of both. -/
theorem words_append_space (t u : Text) : words (t ++ ' ' :: u) = words t ++ words u :=
  runsOutside_append_gap (by decide) t u

/-- A word of a text is the only word of its own. -/
theorem words_of_mem_words {t word : Text} (h : word ∈ words t) : words word = [word] :=
  runsOutside_word (ne_nil_of_mem_runsOutside h) (eq_false_of_mem_runsOutside h)

namespace Wrap.Rows

variable {column : Nat} {r : Rows} {word : Text}

/-! ## Words that stay whole -/

/-- The words on the rows so far. -/
def wordList (r : Rows) : List Text :=
  r.full.reverse.flatMap words ++ words r.row

/-- Ending a row cuts no word. -/
@[simp]
theorem wordList_close (r : Rows) : r.close.wordList = r.wordList := by
  have hnil : words [] = [] := by rw [words, runsOutside]
  rw [close]
  split
  · rfl
  · simp [wordList, hnil]

theorem flatMap_words_toList (r : Rows) : r.toList.flatMap words = r.wordList := by
  have hnil : words r.close.row = [] := by rw [row_close, words, runsOutside]
  rw [toList, ← wordList_close, wordList, hnil, List.append_nil]

/-- A word that fits is one more word on the rows. -/
theorem wordList_addWord (hword : words word = [word]) (hfits : width word ≤ column) (r : Rows) :
    (r.addWord column word).wordList = r.wordList ++ [word] := by
  have hbegin : ∀ r : Rows, r.row = [] → ∀ used,
      wordList ⟨r.full, word, used⟩ = r.wordList ++ [word] := by
    intro r hrow used
    rw [wordList, wordList, hrow, hword, words, runsOutside, List.append_nil]
  rw [addWord]
  split
  · next hfirst =>
      rw [Bool.and_eq_true, List.isEmpty_iff] at hfirst
      exact hbegin r hfirst.1 _
  · split
    · rw [wordList, words_append_space, hword, wordList, List.append_assoc]
    · exact (hbegin r.close (row_close r) _).trans (by rw [wordList_close])

/-- Adding a cluster takes no row away. -/
theorem full_suffix_addCluster (r : Rows) (cluster : Text) :
    r.full <:+ (r.addCluster column cluster).full := by
  have hclose : r.full <:+ r.close.full := by
    rw [close]
    split
    · exact List.suffix_refl _
    · exact List.suffix_cons _ _
  rw [addCluster]
  split
  · exact hclose
  · exact List.suffix_refl _

/-- A word that is cut leaves the words on the rows before it whole. -/
theorem wordList_sublist_addWord (hwide : column < width word) (r : Rows) :
    r.wordList.Sublist (r.addWord column word).wordList := by
  have hadded : r.addWord column word = (clusters word).foldl (addCluster column) r.close := by
    rw [addWord, if_neg (by simp; omega), if_neg (by simp; omega)]
    simp only
    rw [if_neg (by omega)]
  obtain ⟨rows, hrows⟩ : r.close.full <:+ (r.addWord column word).full := by
    rw [hadded]
    exact List.foldlRecOn (motive := fun r' => r.close.full <:+ r'.full) _ _ (List.suffix_refl _)
      fun r' h cluster _ => h.trans (full_suffix_addCluster r' cluster)
  rw [← flatMap_words_toList r, toList, wordList, ← hrows, List.reverse_append,
    List.flatMap_append, List.append_assoc]
  exact List.sublist_append_left _ _

/-- The words that fit are put on the rows in order. -/
theorem sublist_foldl_addWord {words : List Text}
    (hwords : ∀ word ∈ words, Text.words word = [word]) (r : Rows) :
    (r.wordList ++ words.filter fun word => width word ≤ column).Sublist
      (words.foldl (addWord column) r).wordList := by
  induction words generalizing r with
  | nil => simp
  | cons word words ih =>
      have hrest := ih (fun later hlater => hwords later (List.mem_cons_of_mem _ hlater))
        (r.addWord column word)
      rw [List.foldl_cons, List.filter_cons]
      split
      · next hfits =>
          rw [wordList_addWord (hwords word List.mem_cons_self) (by simpa using hfits),
            List.append_assoc] at hrest
          exact hrest
      · next hwide =>
          have hcut : column < width word := by simpa using hwide
          exact ((wordList_sublist_addWord hcut r).append_right _).trans hrest

/-! ## Rows that are not empty -/

/-- Something is on every row that is ended. -/
def Filled (r : Rows) : Prop :=
  ∀ row ∈ r.full, row ≠ []

theorem Filled.close (h : Filled r) : Filled r.close := by
  rw [Rows.close]
  split
  · exact h
  · next hrow =>
      intro row hmem
      rcases List.mem_cons.1 hmem with rfl | hmem
      · simpa using hrow
      · exact h row hmem

theorem Filled.addCluster (h : Filled r) (cluster : Text) :
    Filled (r.addCluster column cluster) := by
  rw [Rows.addCluster]
  split
  · exact h.close
  · exact h

theorem Filled.addWord (h : Filled r) (word : Text) : Filled (r.addWord column word) := by
  rw [Rows.addWord]
  split
  · exact h
  · split
    · exact h
    · simp only
      split
      · exact h.close
      · exact List.foldlRecOn _ _ h.close fun r hr cluster _ => hr.addCluster cluster

end Wrap.Rows

/-- Every word that fits into the column is a word of a row, in the order of the text. -/
theorem sublist_words_wrap (t : Text) (column : Nat) :
    ((words t).filter fun word => width word ≤ column).Sublist ((wrap t column).flatMap words) := by
  rw [wrap]
  split
  · rw [List.flatMap_singleton]
    exact List.filter_sublist
  · rw [Wrap.Rows.flatMap_words_toList]
    have hnone : Wrap.Rows.empty.wordList = [] := by
      simp [Wrap.Rows.wordList, Wrap.Rows.empty, words, runsOutside]
    have hwords : ∀ word ∈ words t, words word = [word] := fun word => words_of_mem_words
    rw [← List.nil_append (List.filter _ _), ← hnone]
    exact Wrap.Rows.sublist_foldl_addWord hwords .empty

/-- No row of a text that is broken is empty. -/
theorem ne_nil_of_mem_wrap {t row : Text} {column : Nat} (hwide : column < width t)
    (h : row ∈ wrap t column) : row ≠ [] := by
  rw [wrap] at h
  split at h
  · obtain rfl := List.mem_singleton.1 h
    rintro rfl
    exact absurd hwide (Nat.not_lt_zero column)
  · have hfilled : Wrap.Rows.Filled ((words t).foldl (Wrap.Rows.addWord column) .empty) :=
      List.foldlRecOn _ _ (by intro row hrow; cases hrow) fun r hr word _ => hr.addWord word
    exact hfilled.close row (List.mem_reverse.1 h)

/-- In a column of at least two cells, every row of a wrapped text fits, and up to blanks the rows
say what the text says. Of a text that is wider than the column no row is empty, and its words that
fit are words of rows, each of one row, in the order of the text. A text with a character that is
not blank has a row. -/
theorem wrap_fits_and_keeps_words {column : Nat} (hcolumn : 2 ≤ column) (t : Text) :
    (∀ row ∈ wrap t column, width row ≤ column) ∧
      letters (wrap t column).flatten = letters t ∧
      (column < width t →
        (∀ row ∈ wrap t column, row ≠ []) ∧
          ((words t).filter fun word => width word ≤ column).Sublist
            ((wrap t column).flatMap words)) ∧
      ((∃ c ∈ t, isBlank c = false) → wrap t column ≠ []) := by
  refine ⟨fun row => width_le_of_mem_wrap hcolumn, letters_flatten_wrap t column,
    fun hwide => ⟨fun row => ne_nil_of_mem_wrap hwide, sublist_words_wrap t column⟩, ?_⟩
  rintro ⟨c, hc, hblank⟩
  refine wrap_ne_nil (fun hnil => ?_) column
  rw [trim_eq_nil_iff.1 hnil c hc] at hblank
  cases hblank

/-- A word of three pictographs, six cells wide, is cut behind the second one, and the word behind
it stands on the row of the third one. The word in front has a row of its own. -/
theorem wrap_fits_and_keeps_words_of_pictographs :
    let t := "e\u0301 👩‍🚀👩‍🚀👩‍🚀 hi du".toList
    (2 ≤ 5 ∧ 5 < width t ∧ ∃ c ∈ t, isBlank c = false) ∧
      wrap t 5 = ["e\u0301".toList, "👩‍🚀👩‍🚀".toList, "👩‍🚀 hi".toList, "du".toList] ∧
      (∀ row ∈ wrap t 5, row ≠ [] ∧ width row ≤ 5) ∧
      ["e\u0301".toList, "hi".toList, "du".toList].Sublist ((wrap t 5).flatMap words) := by
  intro t
  have hwide : 5 < width t := by decide +kernel
  have hletter : ∃ c ∈ t, isBlank c = false := ⟨'h', by decide, by decide⟩
  have hwords : ((words t).filter fun word => width word ≤ 5) =
      ["e\u0301".toList, "hi".toList, "du".toList] := by decide +kernel
  obtain ⟨hfits, -, hrows, -⟩ := wrap_fits_and_keeps_words (by decide : 2 ≤ 5) t
  obtain ⟨hfilled, hwhole⟩ := hrows hwide
  refine ⟨⟨by decide, hwide, hletter⟩, by decide +kernel,
    fun row hrow => ⟨hfilled row hrow, hfits row hrow⟩, ?_⟩
  rwa [hwords] at hwhole

end MarkedVerse.Text
