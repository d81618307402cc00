import Mathlib.Data.List.Nodup
import MarkedVerse.Template.Edit

/-!
# The order of edits

Edits are carried out from the greatest start down. For edits that are listed by rising start this
is the listed order backwards (`applyAll_eq_foldr`), so every edit is carried out on a text whose
front is still untouched.
-/

namespace MarkedVerse

/-- Replacing what stands between two texts leaves both alone. -/
theorem Text.replaceRange_append (front old behind replacement : Text) :
    replaceRange (front ++ old ++ behind) front.length (front.length + old.length) replacement =
      front ++ replacement ++ behind := by
  rw [replaceRange, List.append_assoc front old behind, List.take_left,
    ← List.append_assoc front old behind, ← List.length_append, List.drop_left]

namespace Edit

/-- An edit that starts behind a text and covers all of the next one puts its own text there. -/
theorem apply_append (front old behind newText : Text) :
    apply ⟨front.length, front.length + old.length, newText⟩ (front ++ old ++ behind) =
      front ++ newText ++ behind :=
  Text.replaceRange_append front old behind newText

/-- Edits that are listed by rising start are sorted by turning the list round, in whatever order they
came. -/
theorem mergeSort_eq_reverse {edits listed : List Edit} (hlisted : edits.Perm listed)
    (h : listed.Pairwise fun a b => a.start < b.start) :
    (edits.mergeSort fun a b => decide (b.start ≤ a.start)) = listed.reverse := by
  have hsorted : (edits.mergeSort fun a b => decide (b.start ≤ a.start)).Pairwise
      fun a b => decide (b.start ≤ a.start) = true :=
    List.pairwise_mergeSort (by simp only [decide_eq_true_eq]; omega)
      (by simp only [Bool.or_eq_true, decide_eq_true_eq]; omega) edits
  have hreverse : listed.reverse.Pairwise fun a b => decide (b.start ≤ a.start) = true := by
    rw [List.pairwise_reverse]
    exact h.imp fun hlt => decide_eq_true (Nat.le_of_lt hlt)
  have hperm : (edits.mergeSort fun a b => decide (b.start ≤ a.start)).Perm listed.reverse :=
    ((List.mergeSort_perm edits _).trans hlisted).trans listed.reverse_perm.symm
  have hnodup : (listed.map start).Nodup :=
    (List.pairwise_map.2 h).imp fun hlt => Nat.ne_of_lt hlt
  refine hperm.eq_of_pairwise (fun a b ha hb hba hab => ?_) hsorted hreverse
  have hstart : a.start = b.start :=
    Nat.le_antisymm (of_decide_eq_true hab) (of_decide_eq_true hba)
  exact List.inj_on_of_nodup_map hnodup (hlisted.mem_iff.1 (List.mem_mergeSort.1 ha))
    (List.mem_reverse.1 hb) hstart

/-- Edits that are listed by rising start are carried out from the last to the first. -/
theorem applyAll_eq_foldr {edits : List Edit}
    (h : edits.Pairwise fun a b => a.start < b.start) (t : Text) :
    applyAll edits t = edits.foldr apply t := by
  rw [applyAll, mergeSort_eq_reverse (.refl edits) h, List.foldl_reverse]

end Edit

end MarkedVerse
