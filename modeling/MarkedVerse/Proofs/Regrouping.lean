import Mathlib.Data.List.Basic

/-!
# Cutting the same lines in two ways

Where a text is cut into groups of lines in two ways, one of them can be finer than the other.
`Refines` says so by grouping the finer groups again, so that nothing of one coarse group can stand
in a fine group together with something of another. Two ways that refine each other are the same
(`Refines.antisymm`).
-/

namespace MarkedVerse

/-- The parts on the left, taken together in groups, are the parts on the right. -/
inductive Refines {α : Type} : List (List α) → List (List α) → Prop where
  | nil : Refines [] []
  | cons (group : List (List α)) {fine coarse : List (List α)} (h : Refines fine coarse) :
      Refines (group ++ fine) (group.flatten :: coarse)

namespace Refines

variable {α : Type} {a b c d : List (List α)}

theorem refl (a : List (List α)) : Refines a a := by
  induction a with
  | nil => exact .nil
  | cons x a ih => simpa using Refines.cons [x] ih

theorem append (hab : Refines a b) (hcd : Refines c d) : Refines (a ++ c) (b ++ d) := by
  induction hab with
  | nil => exact hcd
  | cons group _ ih =>
      rw [List.append_assoc, List.cons_append]
      exact .cons group ih

/-- What refines for each of some objects refines for all. -/
theorem flatMap {β : Type} {f g : β → List (List α)} (h : ∀ x, Refines (f x) (g x))
    (xs : List β) : Refines (xs.flatMap f) (xs.flatMap g) := by
  induction xs with
  | nil => exact .nil
  | cons x xs ih => exact (h x).append ih

/-- Parts whose elements are those of one part refine it. -/
theorem singleton (a : List (List α)) : Refines a [a.flatten] := by
  simpa using Refines.cons a .nil

/-- Groups of parts on the right are groups on the left. -/
theorem exists_append (h : Refines a (b ++ c)) :
    ∃ front behind, a = front ++ behind ∧ Refines front b ∧ Refines behind c := by
  induction b generalizing a with
  | nil => exact ⟨[], a, rfl, .nil, h⟩
  | cons x b ih =>
      cases h with
      | cons group hrest =>
          obtain ⟨front, behind, rfl, hfront, hbehind⟩ := ih hrest
          exact ⟨group ++ front, behind, by simp, .cons group hfront, hbehind⟩

/-- Both ways hold the same elements in the same order. -/
theorem flatten_eq (h : Refines a b) : a.flatten = b.flatten := by
  induction h with
  | nil => rfl
  | cons group _ ih => simp [ih]

theorem trans (hab : Refines a b) (hbc : Refines b c) : Refines a c := by
  induction hbc generalizing a with
  | nil => exact hab
  | cons group _ ih =>
      obtain ⟨front, behind, rfl, hfront, hbehind⟩ := exists_append hab
      rw [← hfront.flatten_eq]
      exact .cons front (ih hbehind)

/-- Where the parts on the left are those of some objects, these can be grouped instead. -/
theorem exists_groups {β : Type} {f : β → List α} {objects : List β}
    (h : Refines (objects.map f) b) :
    ∃ groups : List (List β), groups.flatten = objects ∧
      groups.map (fun group => group.flatMap f) = b := by
  generalize hparts : objects.map f = parts at h
  induction h generalizing objects with
  | nil => exact ⟨[], (List.map_eq_nil_iff.1 hparts).symm, rfl⟩
  | cons group _ ih =>
      obtain ⟨front, behind, rfl, hfront, hbehind⟩ := List.map_eq_append_iff.1 hparts
      obtain ⟨groups, rfl, hgroups⟩ := ih hbehind
      refine ⟨front :: groups, rfl, ?_⟩
      rw [List.map_cons, hgroups, ← hfront, List.flatMap_def]

/-- Parts that are not empty need at least one part each. -/
theorem length_le (h : Refines a b) (hne : ∀ part ∈ b, part ≠ []) : b.length ≤ a.length := by
  induction h with
  | nil => exact Nat.le_refl _
  | cons group _ ih =>
      have hgroup : group ≠ [] := by
        rintro rfl
        exact hne _ List.mem_cons_self rfl
      have hpos := List.length_pos_iff.2 hgroup
      have hrest := ih fun part hpart => hne part (List.mem_cons_of_mem _ hpart)
      rw [List.length_cons, List.length_append]
      omega

/-- Without more parts on the left, the two ways are the same. -/
theorem eq_of_length_le (h : Refines a b) (hne : ∀ part ∈ b, part ≠ [])
    (hlength : a.length ≤ b.length) : a = b := by
  induction h with
  | nil => rfl
  | @cons group fine coarse hrest ih =>
      have hcoarse : ∀ part ∈ coarse, part ≠ [] :=
        fun part hpart => hne part (List.mem_cons_of_mem _ hpart)
      have hgroup : group ≠ [] := by
        rintro rfl
        exact hne _ List.mem_cons_self rfl
      have hpos := List.length_pos_iff.2 hgroup
      have hle := hrest.length_le hcoarse
      rw [List.length_append, List.length_cons] at hlength
      obtain ⟨part, rfl⟩ := List.length_eq_one_iff.1 (by omega : group.length = 1)
      rw [ih hcoarse (by omega)]
      simp

/-- Two ways that refine each other are the same. -/
theorem antisymm (hab : Refines a b) (hba : Refines b a) (hne : ∀ part ∈ b, part ≠ [])
    (hne' : ∀ part ∈ a, part ≠ []) : a = b :=
  hab.eq_of_length_le hne (hba.length_le hne')

end Refines

/-- Objects that are cut into parts are the same as without cutting when none of them is cut. -/
theorem flatMap_eq_map_iff {α β : Type} {f : α → List (List β)} {g : α → List β} {xs : List α}
    (hflatten : ∀ x ∈ xs, (f x).flatten = g x) (hparts : ∀ x ∈ xs, ∀ part ∈ f x, part ≠ [])
    (hne : ∀ x ∈ xs, g x ≠ []) : xs.flatMap f = xs.map g ↔ ∀ x ∈ xs, f x = [g x] := by
  constructor
  · intro h
    induction xs with
    | nil => simp
    | cons x xs ih =>
        rw [List.forall_mem_cons] at hflatten hparts hne ⊢
        rw [List.flatMap_cons, List.map_cons] at h
        obtain ⟨part, parts, hfx⟩ := List.exists_cons_of_ne_nil fun hnil : f x = [] =>
          hne.1 (by rw [← hflatten.1, hnil, List.flatten_nil])
        rw [hfx, List.cons_append] at h
        obtain ⟨rfl, hrest⟩ := List.cons.inj h
        have hparts' : parts = [] := by
          have hcut := hflatten.1
          rw [hfx, List.flatten_cons, List.append_right_eq_self, List.flatten_eq_nil_iff] at hcut
          refine List.eq_nil_iff_forall_not_mem.2 fun part hpart => ?_
          exact hparts.1 part (hfx ▸ List.mem_cons_of_mem _ hpart) (hcut part hpart)
        rw [hparts', List.nil_append] at hrest
        exact ⟨by rw [hfx, hparts'], ih hflatten.2 hparts.2 hne.2 hrest⟩
  · intro h
    rw [List.flatMap_congr h, List.map_eq_flatMap]

/-- Cut at separators, two lists that are joined have one piece that reaches over the seam. -/
theorem splitOnP_append {α : Type} (p : α → Bool) (xs ys : List α) :
    ∃ front last first behind, xs.splitOnP p = front ++ [last] ∧ ys.splitOnP p = first :: behind ∧
      (xs ++ ys).splitOnP p = front ++ (last ++ first) :: behind := by
  obtain ⟨first, behind, hys⟩ := List.exists_cons_of_ne_nil (List.splitOnP_ne_nil p ys)
  induction xs with
  | nil => exact ⟨[], [], first, behind, List.splitOnP_nil, hys, hys⟩
  | cons x xs ih =>
      obtain ⟨front, last, first', behind', hxs, hys', happend⟩ := ih
      obtain ⟨rfl, rfl⟩ : first = first' ∧ behind = behind' := by
        rw [hys] at hys'
        exact List.cons.inj hys'
      rw [List.cons_append, List.splitOnP_cons_eq_if_modifyHead,
        List.splitOnP_cons_eq_if_modifyHead, hxs, happend]
      split
      · exact ⟨[] :: front, last, first, behind, rfl, hys, rfl⟩
      · cases front with
        | nil => exact ⟨[], x :: last, first, behind, rfl, hys, rfl⟩
        | cons piece front => exact ⟨(x :: piece) :: front, last, first, behind, rfl, hys, rfl⟩

end MarkedVerse
