import MarkedVerse.Proofs.Cells
import MarkedVerse.Proofs.Runs
import MarkedVerse.Text.Wrap

/-!
# Wrapping keeps the text

A wrapped text says what the text says: up to blanks, its rows one after the other are the text
(`letters_flatten_wrap`). Blanks between words are lost where a row ends, and written as one space
elsewhere; inside a word nothing is put in.
-/

namespace MarkedVerse.Text

/-- The text without its blanks. -/
def letters (t : Text) : Text :=
  t.filter fun c => !isBlank c

@[simp]
theorem letters_append (t u : Text) : letters (t ++ u) = letters t ++ letters u :=
  List.filter_append t u

@[simp]
theorem letters_space_cons (t : Text) : letters (' ' :: t) = letters t :=
  rfl

/-- The words of a text are all that it says. -/
theorem letters_flatten_words (t : Text) : letters (words t).flatten = letters t := by
  rw [words, flatten_runsOutside, letters, List.filter_filter]
  simp [letters]

namespace Wrap.Rows

variable {column : Nat}

/-- What was put into the rows so far. -/
def text (r : Rows) : Text :=
  r.full.reverse.flatten ++ r.row

/-- Ending a row loses nothing. -/
@[simp]
theorem text_close (r : Rows) : r.close.text = r.text := by
  rw [close]
  split
  · rfl
  · simp [text]

/-- Behind it no row is open. -/
theorem row_close (r : Rows) : r.close.row = [] := by
  rw [close]
  split
  · next hempty => exact List.isEmpty_iff.1 hempty
  · rfl

theorem flatten_toList (r : Rows) : r.toList.flatten = r.text := by
  rw [toList, ← text_close, text, row_close, List.append_nil]

/-- A cluster is put behind what is there. -/
theorem text_addCluster (r : Rows) (cluster : Text) :
    (r.addCluster column cluster).text = r.text ++ cluster := by
  have hadd : ∀ r : Rows, r.full.reverse.flatten ++ (r.row ++ cluster) = r.text ++ cluster :=
    fun r => (List.append_assoc _ _ _).symm
  rw [addCluster]
  split
  · exact (hadd r.close).trans (by rw [text_close])
  · exact hadd r

theorem text_foldl_addCluster (r : Rows) (clusters : List Text) :
    (clusters.foldl (addCluster column) r).text = r.text ++ clusters.flatten := by
  induction clusters generalizing r with
  | nil => simp
  | cons cluster clusters ih => simp [ih, text_addCluster]

/-- A word is put behind what is there, up to a blank. -/
theorem letters_text_addWord (r : Rows) (word : Text) :
    letters (r.addWord column word).text = letters r.text ++ letters word := by
  have hbegin : ∀ r : Rows, r.row = [] → ∀ used,
      text ⟨r.full, word, used⟩ = r.text ++ word := by
    intro r hrow used
    simp [text, hrow]
  rw [addWord]
  split
  · next hfirst =>
      rw [Bool.and_eq_true, List.isEmpty_iff] at hfirst
      rw [hbegin r hfirst.1, letters_append]
  · split
    · simp [text]
    · simp only
      split
      · rw [hbegin _ (row_close r), letters_append, text_close]
      · rw [text_foldl_addCluster, flatten_clusters, letters_append, text_close]

theorem letters_text_foldl_addWord (r : Rows) (words : List Text) :
    letters (words.foldl (addWord column) r).text = letters r.text ++ letters words.flatten := by
  induction words generalizing r with
  | nil => simp [letters]
  | cons word words ih => simp [ih, letters_text_addWord]

end Wrap.Rows

/-- Up to blanks, the rows of a wrapped text are the text. -/
theorem letters_flatten_wrap (t : Text) (column : Nat) :
    letters (wrap t column).flatten = letters t := by
  rw [wrap]
  split
  · simp
  · rw [Wrap.Rows.flatten_toList, Wrap.Rows.letters_text_foldl_addWord, letters_flatten_words]
    rfl

/-- Up to blanks, the rows of several wrapped texts are the texts. -/
theorem letters_flatMap_wrap (lines : List Text) (column : Nat) :
    letters (lines.flatMap fun line => wrap line column).flatten = letters lines.flatten := by
  induction lines with
  | nil => rfl
  | cons line lines ih =>
      rw [List.flatMap_cons, List.flatten_append, letters_append, letters_flatten_wrap, ih,
        List.flatten_cons, letters_append]

end MarkedVerse.Text
