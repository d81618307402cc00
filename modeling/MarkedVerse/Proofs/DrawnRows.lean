import Mathlib.Data.List.Basic
import Mathlib.Tactic.Common
import MarkedVerse.Screen

/-!
# Rows of the screen

What drawing does to the rows of a screen. Everything that is drawn changes a range of rows
(`getElem?_modifyRows`), so what stands above or below an area stays (`SameOutside`). Inside of the
area each row of the screen gets the row of text that belongs to it (`getElem?_drawRows`).
-/

namespace MarkedVerse

namespace Screen

variable {s s' s'' : Screen} {y height i : Nat} {a : Area} {rows : List Row}

/-! ## Ranges -/

/-- Changing a range of a list changes what stands in the range. -/
theorem getElem?_modifyRange {α : Type} (f : α → α) (start count : Nat) (cells : List α) (i : Nat) :
    (modifyRange f start count cells)[i]? =
      if start ≤ i ∧ i < start + count then cells[i]?.map f else cells[i]? := by
  simp only [modifyRange, List.getElem?_append, List.getElem?_take, List.getElem?_drop,
    List.getElem?_map, List.length_append, List.length_map, List.length_take, List.length_drop]
  grind

theorem getElem?_modifyRows (s : Screen) (y height : Nat) (f : List Cell → List Cell) (i : Nat) :
    (s.modifyRows y height f).rows[i]? =
      if y ≤ i ∧ i < y + height then s.rows[i]?.map f else s.rows[i]? :=
  getElem?_modifyRange f y height s.rows i

/-! ## Above and below -/

/-- The screens have the same rows above and below a range. -/
def SameOutside (y height : Nat) (s s' : Screen) : Prop :=
  ∀ i, ¬(y ≤ i ∧ i < y + height) → s'.rows[i]? = s.rows[i]?

theorem SameOutside.refl (y height : Nat) (s : Screen) : SameOutside y height s s :=
  fun _ _ => rfl

theorem SameOutside.trans (h : SameOutside y height s s') (h' : SameOutside y height s' s'') :
    SameOutside y height s s'' :=
  fun i hi => (h' i hi).trans (h i hi)

theorem sameOutside_fill (s : Screen) (a : Area) (style : Style) :
    SameOutside a.y a.height s (s.fill a style) := by
  intro i hi
  rw [fill, getElem?_modifyRows, if_neg hi]

/-! ## Rows of text -/

/-- Draws a row of text into the cells of a row of the screen, if there is one. -/
def drawRow? (anchor : Anchor) (x width : Nat) : Option Row → List Cell → List Cell
  | some row, cells => drawRow anchor x width row cells
  | none, cells => cells

/-- Each row of an area gets the row of text with its number. -/
theorem getElem?_drawRows (s : Screen) (anchor : Anchor) (a : Area) (rows : List Row) (i : Nat) :
    (s.drawRows anchor a rows).rows[i]? =
      if a.y ≤ i ∧ i < a.y + a.height then
        s.rows[i]?.map (drawRow? anchor a.x a.width rows[i - a.y]?)
      else s.rows[i]? := by
  induction rows generalizing s a with
  | nil =>
      have hnone : drawRow? anchor a.x a.width ([] : List Row)[i - a.y]? = id := by
        rw [List.getElem?_nil]
        rfl
      rw [drawRows, hnone, Option.map_id_fun, id, ite_self]
  | cons row rows ih =>
      rw [drawRows]
      by_cases hempty : a.height = 0
      · rw [if_pos hempty, if_neg (by omega)]
      · rw [if_neg hempty, ih, getElem?_modifyRows]
        by_cases hfirst : i = a.y
        · subst hfirst
          rw [if_neg (by simp only; omega), if_pos (by omega), if_pos (by omega), Nat.sub_self]
          rfl
        · by_cases hinside : a.y < i ∧ i < a.y + a.height
          · obtain ⟨k, hk⟩ := Nat.exists_eq_add_of_lt hinside.1
            have hthis : i - a.y = k + 1 := by omega
            have hnext : i - (a.y + 1) = k := by omega
            rw [if_pos (by simp only; omega), if_neg (by omega), if_pos (by omega), hthis,
              List.getElem?_cons_succ]
            simp only [hnext]
          · rw [if_neg (by simp only; omega), if_neg (by omega), if_neg (by omega)]

theorem sameOutside_drawRows (s : Screen) (anchor : Anchor) (a : Area) (rows : List Row) :
    SameOutside a.y a.height s (s.drawRows anchor a rows) := by
  intro i hi
  rw [getElem?_drawRows, if_neg hi]

/-- A paragraph stays in its area. -/
theorem sameOutside_paragraph (s : Screen) (a : Area) (style : Style) (anchor : Anchor)
    (rows : List Row) : SameOutside a.y a.height s (s.paragraph a style anchor rows) := by
  unfold paragraph
  split
  · exact SameOutside.refl _ _ _
  · exact (sameOutside_fill s a style).trans (sameOutside_drawRows _ anchor a rows)

/-! ## Edges -/

/-- A row of a framed area with nothing between its left and its right edge. -/
def emptyRow (width : Nat) (edge : Cell) : List Cell :=
  edge :: (List.replicate (width - 2) .blank ++ [edge])

/-- Edges that are drawn on a blank row stand at its ends. -/
theorem modifyRange_edges {width : Nat} (hwidth : 2 ≤ width) (f : Cell → Cell) :
    modifyRange f (width - 1) 1 (modifyRange f 0 1 (List.replicate width .blank)) =
      emptyRow width (f .blank) := by
  obtain ⟨n, rfl⟩ := Nat.exists_eq_add_of_le' hwidth
  have hlast : n + 2 - 1 = n + 1 := rfl
  have hrow : List.replicate (n + 2) Cell.blank =
      .blank :: (List.replicate n .blank ++ [.blank]) := by
    rw [List.replicate_succ, List.replicate_succ']
  simp [hrow, hlast, modifyRange, emptyRow, List.take_append, List.drop_append]

/-- Drawing its sides leaves an area empty between them. -/
theorem getElem?_drawSides {style : Style} (hwidth : 2 ≤ a.width) (hx : a.x = 0)
    (hi : a.y ≤ i ∧ i < a.y + a.height)
    (hblank : s.rows[i]? = some (List.replicate a.width .blank)) :
    (s.drawSides a style).rows[i]? =
      some (emptyRow a.width ⟨['│'], Style.plain.overlay style⟩) := by
  rw [drawSides, if_neg (by omega)]
  simp only [stamp, getElem?_modifyRows, if_pos hi, hblank, Option.map_some, hx, Nat.zero_add]
  exact congrArg some (modifyRange_edges hwidth _)

end Screen

end MarkedVerse
