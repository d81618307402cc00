import Mathlib.Tactic.IntervalCases
import MarkedVerse.Text.Field
import MarkedVerse.Text.Width

/-!
# Counting cells

The cells of a text can be counted from left to right, with the context of what was read and the
cells of the cluster that is still open (`cellsFrom`). What makes a cluster longer never makes a
text wider, so texts that are joined take at most the cells of both (`width_append_le`). The
exception are regional indicators, which are paired anew when an odd one stands in front of them.
-/

namespace MarkedVerse.Text

open Cluster

/-- A cluster takes the cells of its characters, but at most two. -/
theorem clusterWidth_eq (cluster : Text) :
    clusterWidth cluster = min (total charWidth cluster) 2 := by
  rw [clusterWidth]
  split
  · next hcontrol =>
      have hzero : total charWidth cluster = 0 := by
        induction cluster with
        | nil => rfl
        | cons c cluster ih =>
            rw [List.all_cons, Bool.and_eq_true] at hcontrol
            rw [total, ih hcontrol.2, charWidth, if_pos hcontrol.1]
      rw [hzero]
      rfl
  · rfl

/-- The cells of the open cluster, of which `held` are counted, and of the text behind it. -/
def cellsFrom (x : Context) (held : Nat) : Text → Nat
  | [] => min held 2
  | c :: t =>
    if x.joins c then cellsFrom (x.step c) (held + charWidth c) t
    else min held 2 + cellsFrom (x.step c) (charWidth c) t

/-- The count is that of the open cluster and the others. -/
theorem cellsFrom_eq (x : Context) (held : Nat) (t : Text) :
    ∃ piece pieces, after x t = piece :: pieces ∧
      cellsFrom x held t = min (held + total charWidth piece) 2 + total clusterWidth pieces := by
  induction t generalizing x held with
  | nil => exact ⟨[], [], rfl, rfl⟩
  | cons c t ih =>
      rw [after, cellsFrom]
      split
      · obtain ⟨piece, pieces, hafter, hcells⟩ := ih (x.step c) (held + charWidth c)
        refine ⟨c :: piece, pieces, by rw [hafter]; rfl, ?_⟩
        rw [hcells, total, Nat.add_assoc]
      · obtain ⟨piece, pieces, hafter, hcells⟩ := ih (x.step c) (charWidth c)
        refine ⟨[], (c :: piece) :: pieces, by rw [hafter]; rfl, ?_⟩
        rw [hcells, total, total, clusterWidth_eq, total]
        omega

/-- The first character opens a cluster. -/
theorem width_cons (c : Char) (t : Text) :
    width (c :: t) = cellsFrom (Context.start.step c) (charWidth c) t := by
  obtain ⟨piece, pieces, hafter, hcells⟩ := cellsFrom_eq (Context.start.step c) (charWidth c) t
  rw [width, clusters, hafter, hcells, consHead, total, clusterWidth_eq, total]

/-! ## Contexts that join more -/

/-- What joins behind the second context joins behind the first one. -/
structure Subsumes (x y : Context) : Prop where
  last : x.last = y.last
  oddRegional : x.oddRegional = y.oddRegional
  emoji : y.emoji = .none ∨ x.emoji = y.emoji
  conjunct : y.conjunct = .none ∨ x.conjunct = y.conjunct ∨ x.conjunct = .linked

namespace Subsumes

variable {x y : Context}

theorem step (h : Subsumes x y) (c : Char) : Subsumes (x.step c) (y.step c) := by
  obtain ⟨hlast, hodd, hemoji, hconjunct⟩ := h
  refine ⟨rfl, ?_, ?_, ?_⟩
  · simp only [Context.step, hodd]
  · simp only [Context.step]
    grind
  · simp only [Context.step]
    grind

theorem joins (h : Subsumes x y) {c : Char} (hjoins : y.joins c = true) : x.joins c = true := by
  obtain ⟨hlast, hodd, hemoji, hconjunct⟩ := h
  simp only [Context.joins, hlast, hodd] at hjoins ⊢
  grind

/-- Behind its first character, a text joins at least what it joins when it stands alone. -/
theorem step_start {c : Char} (h : role c = .regional → x.oddRegional = false) :
    Subsumes (x.step c) (Context.start.step c) := by
  refine ⟨rfl, ?_, ?_, ?_⟩
  · simp only [Context.step, Context.start]
    grind
  · simp only [Context.step, Context.start]
    grind
  · simp only [Context.step, Context.start]
    grind

end Subsumes

/-! ## Cells of joined texts -/

/-- Cells that are held in front are counted at most once. -/
theorem cellsFrom_add_le (x : Context) (more held : Nat) (t : Text) :
    cellsFrom x (more + held) t ≤ min more 2 + cellsFrom x held t := by
  induction t generalizing x held with
  | nil =>
      rw [cellsFrom, cellsFrom]
      omega
  | cons c t ih =>
      rw [cellsFrom, cellsFrom]
      split
      · rw [Nat.add_assoc]
        exact ih (x.step c) (held + charWidth c)
      · omega

/-- A cluster may as well end before a character. -/
theorem cellsFrom_cons_le (x : Context) (held : Nat) (c : Char) (t : Text) :
    cellsFrom x held (c :: t) ≤ min held 2 + cellsFrom (x.step c) (charWidth c) t := by
  rw [cellsFrom]
  split
  · exact cellsFrom_add_le _ _ _ _
  · exact Nat.le_refl _

/-- A character that joins goes into the open cluster. -/
theorem cellsFrom_cons_of_joins {x : Context} {c : Char} (h : x.joins c = true) (held : Nat)
    (t : Text) :
    cellsFrom x held (c :: t) = cellsFrom (x.step c) (held + charWidth c) t := by
  rw [cellsFrom, if_pos h]

/-- A character that does not join opens the next cluster. -/
theorem cellsFrom_cons_of_not_joins {x : Context} {c : Char} (h : x.joins c = false) (held : Nat)
    (t : Text) :
    cellsFrom x held (c :: t) = min held 2 + cellsFrom (x.step c) (charWidth c) t := by
  rw [cellsFrom, if_neg (by simp [h])]

/-- Where more is joined, there are no more cells. -/
theorem cellsFrom_le_of_subsumes {x y : Context} (h : Subsumes x y) (held : Nat) (t : Text) :
    cellsFrom x held t ≤ cellsFrom y held t := by
  induction t generalizing x y held with
  | nil => exact Nat.le_refl _
  | cons c t ih =>
      have hrest := ih (h.step c)
      cases hjoins : y.joins c with
      | true =>
          rw [cellsFrom_cons_of_joins hjoins, cellsFrom_cons_of_joins (h.joins hjoins)]
          exact hrest _
      | false =>
          have hcons := cellsFrom_cons_le x held c t
          have hrest' := hrest (charWidth c)
          rw [cellsFrom_cons_of_not_joins hjoins]
          omega

/-- The context behind a text. -/
def contextAfter (x : Context) (t : Text) : Context :=
  t.foldl Context.step x

theorem contextAfter_cons (x : Context) (c : Char) (t : Text) :
    contextAfter x (c :: t) = contextAfter (x.step c) t :=
  rfl

theorem contextAfter_append (x : Context) (t u : Text) :
    contextAfter x (t ++ u) = contextAfter (contextAfter x t) u :=
  List.foldl_append

/-- No regional indicator at the front of the second text is paired with one in front of it. -/
def PairsApart (x : Context) (t : Text) : Prop :=
  ∀ c rest, t = c :: rest → role c = .regional → x.oddRegional = false

/-- A cluster may as well end between two texts. -/
theorem cellsFrom_append_cons_le (x : Context) (held : Nat) (t : Text) (c : Char) (u : Text) :
    cellsFrom x held (t ++ c :: u) ≤
      cellsFrom x held t + cellsFrom ((contextAfter x t).step c) (charWidth c) u := by
  induction t generalizing x held with
  | nil => exact cellsFrom_cons_le x held c u
  | cons d t ih =>
      have hrest := ih (x.step d)
      rw [List.cons_append, cellsFrom, cellsFrom]
      split
      · exact hrest _
      · have hmore := hrest (charWidth d)
        rw [contextAfter_cons]
        omega

/-- Behind a text, another one takes at most the cells that are counted with that context. -/
theorem width_append_cons_le (t : Text) (c : Char) (u : Text) :
    width (t ++ c :: u) ≤
      width t + cellsFrom ((contextAfter .start t).step c) (charWidth c) u := by
  cases t with
  | nil =>
      rw [List.nil_append, width_cons]
      exact Nat.le_add_left _ _
  | cons d t =>
      rw [List.cons_append, width_cons, width_cons]
      exact cellsFrom_append_cons_le _ _ t c u

/-- Texts that are joined take at most the cells of both, unless regional indicators are paired
anew. -/
theorem width_append_le {t u : Text} (h : PairsApart (contextAfter .start t) u) :
    width (t ++ u) ≤ width t + width u := by
  cases u with
  | nil => exact (List.append_nil t).symm ▸ Nat.le_add_right _ _
  | cons c u =>
      have hbehind := width_append_cons_le t c u
      have hstart :
          cellsFrom ((contextAfter .start t).step c) (charWidth c) u ≤ width (c :: u) := by
        rw [width_cons]
        exact cellsFrom_le_of_subsumes (Subsumes.step_start (h c u rfl)) _ _
      omega

/-! ## Plain characters -/

/-- A character of one cell that never joins and is never joined to anything but a mark. -/
structure IsPlain (c : Char) : Prop where
  role_eq : role c = .other
  width_eq : charWidth c = 1
  pictograph : inRanges c.toNat pictographRanges = false
  consonant : inRanges c.toNat consonantRanges = false
  linker : inRanges c.toNat linkerRanges = false

theorem isPlain_space : IsPlain ' ' := by
  constructor <;> decide +kernel

theorem isPlain_of_isDigit {c : Char} (h : c.isDigit = true) : IsPlain c := by
  have hrange : 48 ≤ c.toNat ∧ c.toNat ≤ 57 := by
    rw [Char.isDigit, Bool.and_eq_true, decide_eq_true_eq, decide_eq_true_eq] at h
    exact ⟨UInt32.le_iff_toNat_le.1 h.1, UInt32.le_iff_toNat_le.1 h.2⟩
  have hdigit : ∀ n, 48 ≤ n → n ≤ 57 → IsPlain (Char.ofNat n) := by
    intro n hlow hhigh
    interval_cases n <;> constructor <;> decide +kernel
  rw [← Char.ofNat_toNat c]
  exact hdigit _ hrange.1 hrange.2

/-- Behind a plain character, everything starts anew. -/
theorem IsPlain.step_eq {c : Char} (h : IsPlain c) (x : Context) : x.step c = .start := by
  simp [Context.step, Context.start, h.role_eq, h.pictograph, h.consonant, h.linker]

/-- At the start, a plain character joins nothing. -/
theorem IsPlain.joins_start {c : Char} (h : IsPlain c) : Context.start.joins c = false := by
  simp [Context.joins, Context.sameSyllable, Context.start, h.role_eq]

/-- Plain characters take one cell each. -/
theorem width_of_isPlain {t : Text} (h : ∀ c ∈ t, IsPlain c) : width t = t.length := by
  have hcells : ∀ held, cellsFrom .start held t = min held 2 + t.length := by
    intro held
    induction t generalizing held with
    | nil => rfl
    | cons c t ih =>
        have hc := h c List.mem_cons_self
        rw [cellsFrom_cons_of_not_joins hc.joins_start, hc.step_eq, hc.width_eq,
          ih fun d hd => h d (List.mem_cons_of_mem _ hd), List.length_cons]
        omega
  cases t with
  | nil => rfl
  | cons c t =>
      have hc := h c List.mem_cons_self
      have hrest := hcells 0
      rw [cellsFrom_cons_of_not_joins hc.joins_start, hc.step_eq, hc.width_eq] at hrest
      rw [width_cons, hc.step_eq, hc.width_eq]
      omega

@[simp]
theorem width_spaces (count : Nat) : width (spaces count) = count := by
  have hplain : ∀ c ∈ spaces count, IsPlain c := by
    intro c hc
    rw [List.eq_of_mem_replicate hc]
    exact isPlain_space
  rw [width_of_isPlain hplain, spaces, List.length_replicate]

/-- Texts with a space between them take at most one cell more than both. -/
theorem width_append_space_le (t u : Text) : width (t ++ ' ' :: u) ≤ width t + 1 + width u := by
  have hfront : width (t ++ ' ' :: u) ≤ width t + width (' ' :: u) := by
    refine width_append_le fun c rest heq hrole => ?_
    obtain ⟨rfl, -⟩ := List.cons.inj heq
    rw [isPlain_space.role_eq] at hrole
    cases hrole
  have hspace : width ([' '] ++ u) ≤ width [' '] + width u := by
    refine width_append_le fun _ _ _ _ => ?_
    rw [contextAfter, List.foldl_cons, isPlain_space.step_eq]
    rfl
  have hone : width [' '] = 1 := width_spaces 1
  rw [hone] at hspace
  have hcons : width (' ' :: u) ≤ 1 + width u := hspace
  omega

end MarkedVerse.Text
