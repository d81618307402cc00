import MarkedVerse.Proofs.Cells

/-!
# Where clusters end

Where a cluster ends, the next one starts as a text of its own would: nothing of the context
matters any more (`Sound.step_eq_start`). So the clusters of a word can be put into rows one by one,
and a row takes at most the cells of its clusters (`width_append_cluster_le`).
-/

namespace MarkedVerse.Text

open Cluster

namespace Cluster

/-- The roles that end every cluster. -/
def Role.endsCluster (r : Role) : Bool :=
  r == .control || r == .carriageReturn || r == .lineFeed

/-! ## Tables -/

/-- No code point lies in both tables. -/
def disjoint (a b : List (Nat × Nat)) : Bool :=
  a.all fun (lo, hi) => b.all fun (lo', hi') => decide (hi < lo') || decide (hi' < lo)

/-- A code point in a table lies in one of its ranges. -/
theorem exists_mem_of_inRanges {n : Nat} {ranges : List (Nat × Nat)}
    (h : inRanges n ranges = true) : ∃ range ∈ ranges, range.1 ≤ n ∧ n ≤ range.2 := by
  induction ranges with
  | nil => cases h
  | cons range ranges ih =>
      obtain ⟨lo, hi⟩ := range
      rw [inRanges, Bool.and_eq_true, Bool.or_eq_true, decide_eq_true_eq, decide_eq_true_eq] at h
      rcases h.2 with hhi | hrest
      · exact ⟨(lo, hi), List.mem_cons_self, h.1, hhi⟩
      · obtain ⟨range, hrange, hin⟩ := ih hrest
        exact ⟨range, List.mem_cons_of_mem _ hrange, hin⟩

/-- Letters and syllables of the Hangul kind end no cluster. -/
theorem endsCluster_hangulRole? (n : Nat) :
    ((hangulRole? n).getD .other).endsCluster = false := by
  unfold hangulRole?
  split_ifs <;> rfl

/-- The code points of the characters that end every cluster. -/
def endRanges : List (Nat × Nat) :=
  (0x0A, 0x0A) :: (0x0D, 0x0D) :: controlRanges

/-- A character that is not among these ends no cluster. -/
theorem endsCluster_role_eq_false {c : Char}
    (h : ∀ range ∈ endRanges, ¬(range.1 ≤ c.toNat ∧ c.toNat ≤ range.2)) :
    (role c).endsCluster = false := by
  have hfeed : (c.toNat == 0x0A) = false := by
    have := h (0x0A, 0x0A) (by simp [endRanges])
    simp only [beq_eq_false_iff_ne]
    omega
  have hreturn : (c.toNat == 0x0D) = false := by
    have := h (0x0D, 0x0D) (by simp [endRanges])
    simp only [beq_eq_false_iff_ne]
    omega
  have hcontrol : inRanges c.toNat controlRanges = false := by
    by_contra hin
    obtain ⟨range, hrange, hbounds⟩ := exists_mem_of_inRanges (by simpa using hin)
    exact h range (by simp [endRanges, hrange]) hbounds
  simp only [role, hfeed, hreturn, hcontrol, Bool.false_eq_true, if_false]
  split_ifs
  all_goals first
    | rfl
    | exact endsCluster_hangulRole? _

/-- The characters of a table without these end no cluster. -/
theorem endsCluster_role_of_disjoint {c : Char} {ranges : List (Nat × Nat)}
    (hdisjoint : disjoint ranges endRanges = true) (h : inRanges c.toNat ranges = true) :
    (role c).endsCluster = false := by
  obtain ⟨range, hrange, hin⟩ := exists_mem_of_inRanges h
  refine endsCluster_role_eq_false fun range' hrange' hin' => ?_
  have hapart := List.all_eq_true.1 (List.all_eq_true.1 hdisjoint _ hrange) _ hrange'
  rw [Bool.or_eq_true, decide_eq_true_eq, decide_eq_true_eq] at hapart
  omega

theorem endsCluster_of_pictograph {c : Char} (h : inRanges c.toNat pictographRanges = true) :
    (role c).endsCluster = false :=
  endsCluster_role_of_disjoint (by decide +kernel) h

theorem endsCluster_of_consonant {c : Char} (h : inRanges c.toNat consonantRanges = true) :
    (role c).endsCluster = false :=
  endsCluster_role_of_disjoint (by decide +kernel) h

/-- Linkers are marks. -/
theorem role_of_linker {c : Char} (h : inRanges c.toNat linkerRanges = true) :
    role c = .extend := by
  have htable : ∀ range ∈ linkerRanges, range.1 = range.2 ∧
      role (Char.ofNat range.1) = .extend := by decide +kernel
  obtain ⟨range, hrange, hlow, hhigh⟩ := exists_mem_of_inRanges h
  obtain ⟨hone, hrole⟩ := htable range hrange
  rwa [show range.1 = c.toNat by omega, Char.ofNat_toNat] at hrole

/-! ## Contexts of texts -/

/-- What holds of the context behind any text. -/
structure Sound (x : Context) : Prop where
  oddRegional : x.oddRegional = true → x.last = .regional
  emoji : x.emoji ≠ .none → x.last.endsCluster = false
  conjunct : x.conjunct ≠ .none → x.last.endsCluster = false

namespace Sound

theorem start : Sound .start where
  oddRegional h := by cases h
  emoji h := absurd rfl h
  conjunct h := absurd rfl h

variable {x : Context}

theorem step (x : Context) (c : Char) : Sound (x.step c) where
  oddRegional h := by
    show role c = .regional
    simp only [Context.step] at h
    grind
  emoji h := by
    have hpictograph := endsCluster_of_pictograph (c := c)
    show (role c).endsCluster = false
    simp only [Context.step] at h
    grind [Role.endsCluster]
  conjunct h := by
    have hconsonant := endsCluster_of_consonant (c := c)
    have hlinker := role_of_linker (c := c)
    show (role c).endsCluster = false
    simp only [Context.step] at h
    grind [Role.endsCluster]

/-- Where a cluster ends, nothing in front of it matters any more. -/
theorem step_eq_start (h : Sound x) {c : Char} (hjoins : x.joins c = false) :
    x.step c = Context.start.step c := by
  obtain ⟨hodd, hemoji, hconjunct⟩ := h
  have hlinker := role_of_linker (c := c)
  simp only [Context.joins] at hjoins
  simp only [Context.step, Context.start, Context.mk.injEq, true_and]
  refine ⟨?_, ?_, ?_⟩
  · grind [Role.endsCluster]
  · grind [Role.endsCluster]
  · grind [Role.endsCluster]

end Sound

end Cluster

/-! ## Cuts -/

/-- Every character of the text joins what stands in front of it. -/
def IsJoined (x : Context) : Text → Prop
  | [] => True
  | c :: t => x.joins c = true ∧ IsJoined (x.step c) t

/-- Every piece starts as it would at the start of a text, and is joined from there on. -/
def IsCut (x : Context) : List Text → Prop
  | [] => True
  | piece :: pieces =>
    (∃ c t, piece = c :: t ∧ x.step c = Context.start.step c ∧ IsJoined (x.step c) t) ∧
      IsCut (contextAfter x piece) pieces

/-- Joined characters are in the open cluster. -/
theorem cellsFrom_of_isJoined {x : Context} {t : Text} (h : IsJoined x t) (held : Nat) :
    cellsFrom x held t = min (held + total charWidth t) 2 := by
  induction t generalizing x held with
  | nil => rfl
  | cons c t ih => rw [cellsFrom_cons_of_joins h.1, ih h.2, total, Nat.add_assoc]

/-- The pieces behind a context are a cut, and the first one is joined to what stands there. -/
theorem exists_isCut_after {x : Context} (h : Sound x) (t : Text) :
    ∃ piece pieces, after x t = piece :: pieces ∧ IsJoined x piece ∧
      IsCut (contextAfter x piece) pieces := by
  induction t generalizing x with
  | nil => exact ⟨[], [], rfl, trivial, trivial⟩
  | cons c t ih =>
      obtain ⟨piece, pieces, hafter, hjoined, hcut⟩ := ih (Sound.step x c)
      rw [after, hafter]
      cases hjoins : x.joins c with
      | true => exact ⟨c :: piece, pieces, rfl, ⟨hjoins, hjoined⟩, hcut⟩
      | false =>
          exact ⟨[], (c :: piece) :: pieces, rfl, trivial,
            ⟨c, piece, rfl, h.step_eq_start hjoins, hjoined⟩, hcut⟩

/-- The clusters of a text are a cut. -/
theorem isCut_clusters (t : Text) : IsCut .start (clusters t) := by
  cases t with
  | nil => trivial
  | cons c t =>
      obtain ⟨piece, pieces, hafter, hjoined, hcut⟩ :=
        exists_isCut_after (Sound.step .start c) t
      rw [clusters, hafter]
      exact ⟨⟨c, piece, rfl, rfl, hjoined⟩, hcut⟩

/-- A cluster at the end of a row takes at most its own cells. -/
theorem width_append_cluster_le {row : Text} {c : Char} {t : Text}
    (hstart : (contextAfter .start row).step c = Context.start.step c)
    (hjoined : IsJoined (Context.start.step c) t) :
    width (row ++ c :: t) ≤ width row + clusterWidth (c :: t) := by
  have hbehind := width_append_cons_le row c t
  rw [hstart, cellsFrom_of_isJoined hjoined] at hbehind
  rw [clusterWidth_eq, total]
  exact hbehind

end MarkedVerse.Text
