import MarkedVerse.Proofs.Gaps
import MarkedVerse.Proofs.Lexing

/-!
# Paragraphs and markers

A gap holds a line feed and no bar, so a marker stands in front of it or behind it. Cutting a text
at gaps therefore cuts no marker and makes none (`flatMap_markers_paragraphs`).
-/

namespace MarkedVerse

namespace Segment

/-- Trimming a text leaves its markers alone. -/
@[simp]
theorem markers_trim (t : Text) : markers (Text.trim t) = markers t := by
  obtain ⟨front, behind, hfront, hbehind, ht⟩ := Text.exists_trim t
  conv_rhs => rw [ht, markers_append_right _ (Text.bar_not_mem_of_blank hbehind),
    markers_append_left (Text.bar_not_mem_of_blank hfront)]

/-- The markers around a text without bars that holds a line feed are those in front of it and
those behind it. -/
theorem markers_append_gap {gap : Text} (hbar : '|' ∉ gap) (hline : '\n' ∈ gap) (t u : Text) :
    markers (t ++ gap ++ u) = markers t ++ markers u := by
  obtain ⟨first, second, rfl⟩ := List.append_of_mem hline
  have hfirst : '|' ∉ first := fun h => hbar (by simp [h])
  have hsecond : '|' ∉ second := fun h => hbar (by simp [h])
  calc markers (t ++ (first ++ '\n' :: second) ++ u)
      = markers ((t ++ first) ++ '\n' :: (second ++ u)) := by simp
    _ = markers (t ++ first) ++ markers (second ++ u) := markers_append_newline _ _
    _ = markers t ++ markers u := by
        rw [markers_append_right t hfirst, markers_append_left hsecond]

/-- Gaps without bars cut no marker. -/
theorem flatMap_markers_splitGaps {fill : Char → Bool} (hfill : fill '|' = false) (limit : Nat)
    (t : Text) : (Text.splitGaps fill limit t).flatMap markers = markers t := by
  refine Text.flatMap_splitGaps (fun {piece behind rest} hfound => ?_) t
  obtain ⟨gap, hgap, rfl⟩ := Text.exists_gap hfound
  have hbar : '|' ∉ gap := by
    intro h
    rcases hgap.chars _ h with h | h | h
    · rw [hfill] at h
      cases h
    · exact absurd h (by decide)
    · exact absurd h (by decide)
  rw [← List.append_assoc, markers_append_gap hbar hgap.newline]

/-- Pieces without text have no markers. -/
theorem flatMap_markers_filter (pieces : List Text) :
    (pieces.filter fun piece => !piece.isEmpty).flatMap markers = pieces.flatMap markers := by
  induction pieces with
  | nil => rfl
  | cons piece pieces ih =>
      cases piece with
      | nil => simpa [markers] using ih
      | cons c piece => simp [ih]

/-- The markers of a text are those of its paragraphs, in order. -/
theorem flatMap_markers_paragraphs (t : Text) :
    (Text.paragraphs t).flatMap markers = markers t := by
  rw [Text.paragraphs, flatMap_markers_filter, List.flatMap_map]
  simp only [markers_trim]
  exact flatMap_markers_splitGaps rfl 1 t

end Segment

end MarkedVerse
