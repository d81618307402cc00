import MarkedVerse.Proofs.ClusterCuts
import MarkedVerse.Proofs.Runs
import MarkedVerse.Proofs.VerseLines
import MarkedVerse.Text.Wrap

/-!
# Rows fit

Rows are filled word by word and, where a word is too wide, cluster by cluster. `Fits` says that no
row takes more cells than the column has; every step keeps it, so all rows of a wrapped text fit
(`width_le_of_mem_wrap`). The column needs two cells, as many as a cluster may take.
-/

namespace MarkedVerse.Text

open Cluster

namespace Wrap

/-- No row is wider than the column, and the cells of the open row are counted. -/
structure Fits (column : Nat) (r : Rows) : Prop where
  full : ∀ row ∈ r.full, width row ≤ column
  row : width r.row ≤ r.used
  used : r.used ≤ column
  empty : r.row = [] → r.used = 0

namespace Fits

variable {column : Nat} {r : Rows}

theorem start (column : Nat) : Fits column .empty where
  full row h := by cases h
  row := Nat.le_refl 0
  used := Nat.zero_le _
  empty _ := rfl

/-- Ending the open row leaves none open. -/
theorem close (h : Fits column r) :
    Fits column r.close ∧ r.close.row = [] ∧ r.close.used = 0 := by
  cases hrow : r.row with
  | nil =>
      have hclose : r.close = r := by simp [Rows.close, hrow]
      rw [hclose]
      exact ⟨h, hrow, h.empty hrow⟩
  | cons c row =>
      have hclose : r.close = ⟨r.row :: r.full, [], 0⟩ := by simp [Rows.close, hrow]
      rw [hclose]
      refine ⟨⟨?_, Nat.le_refl 0, Nat.zero_le _, fun _ => rfl⟩, rfl, rfl⟩
      intro row' hmem
      rcases List.mem_cons.1 hmem with rfl | hmem
      · exact Nat.le_trans h.row h.used
      · exact h.full row' hmem

/-- A row that is begun behind the full ones, and fits. -/
theorem begin (h : Fits column r) {row : Text} {used : Nat} (hrow : width row ≤ used)
    (hused : used ≤ column) (hne : row ≠ []) : Fits column ⟨r.full, row, used⟩ where
  full := h.full
  row := hrow
  used := hused
  empty hnil := absurd hnil hne

/-- A cluster of a word is put at the end of a row with room for it, when the row is empty or ends
with what the word has in front of the cluster. -/
theorem append (h : Fits column r) {x : Context} {c : Char} {t : Text}
    (hstep : x.step c = Context.start.step c) (hjoined : IsJoined (x.step c) t)
    (hrow : r.row = [] ∨ contextAfter .start r.row = x)
    (hroom : r.used + clusterWidth (c :: t) ≤ column) :
    Fits column ⟨r.full, r.row ++ c :: t, r.used + clusterWidth (c :: t)⟩ ∧
      contextAfter .start (r.row ++ c :: t) = contextAfter x (c :: t) := by
  have hfront : (contextAfter .start r.row).step c = Context.start.step c := by
    rcases hrow with hnil | hcontext
    · rw [hnil]
      rfl
    · rw [hcontext, hstep]
  constructor
  · refine h.begin ?_ hroom (by simp)
    have hwidth := width_append_cluster_le hfront (hstep ▸ hjoined)
    have hused := h.row
    omega
  · rw [contextAfter_append, contextAfter_cons, hfront, contextAfter_cons, hstep]

/-- A cluster of a word is added to the open row or to a new one. -/
theorem addCluster (hcolumn : 2 ≤ column) (h : Fits column r) {x : Context} {c : Char} {t : Text}
    (hstep : x.step c = Context.start.step c) (hjoined : IsJoined (x.step c) t)
    (hrow : r.row = [] ∨ contextAfter .start r.row = x) :
    Fits column (r.addCluster column (c :: t)) ∧
      contextAfter .start (r.addCluster column (c :: t)).row = contextAfter x (c :: t) := by
  rw [Rows.addCluster]
  split
  · obtain ⟨hclose, hnil, hzero⟩ := h.close
    have hcells : clusterWidth (c :: t) ≤ 2 := by
      rw [clusterWidth_eq]
      exact Nat.min_le_right _ _
    exact hclose.append hstep hjoined (.inl hnil) (by omega)
  · next hroom => exact h.append hstep hjoined hrow (Nat.le_of_not_lt hroom)

/-- The clusters of a word are added one after the other. -/
theorem foldl_addCluster (hcolumn : 2 ≤ column) (h : Fits column r) {x : Context}
    {pieces : List Text} (hcut : IsCut x pieces)
    (hrow : r.row = [] ∨ contextAfter .start r.row = x) :
    Fits column (pieces.foldl (Rows.addCluster column) r) := by
  induction pieces generalizing r x with
  | nil => exact h
  | cons piece pieces ih =>
      obtain ⟨⟨c, t, rfl, hstep, hjoined⟩, hrest⟩ := hcut
      obtain ⟨hadded, hcontext⟩ := h.addCluster hcolumn hstep hjoined hrow
      exact ih hadded hrest (.inr hcontext)

/-- A word is added to the open row, to a new one, or to several. -/
theorem addWord (hcolumn : 2 ≤ column) (h : Fits column r) {word : Text} (hword : word ≠ []) :
    Fits column (r.addWord column word) := by
  rw [Rows.addWord]
  split
  · next hfirst =>
      rw [Bool.and_eq_true, decide_eq_true_eq] at hfirst
      exact h.begin (Nat.le_refl _) hfirst.2 hword
  · split
    · next hroom =>
        rw [Bool.and_eq_true, decide_eq_true_eq] at hroom
        have hwidth := width_append_space_le r.row word
        have hused := h.row
        exact h.begin (by omega) hroom.2 (by simp)
    · obtain ⟨hclose, hnil, -⟩ := h.close
      simp only
      split
      · next hfits => exact hclose.begin (Nat.le_refl _) hfits hword
      · exact hclose.foldl_addCluster hcolumn (isCut_clusters word) (.inl hnil)

/-- Words are added one after the other. -/
theorem foldl_addWord (hcolumn : 2 ≤ column) (h : Fits column r) {words : List Text}
    (hwords : ∀ word ∈ words, word ≠ []) :
    Fits column (words.foldl (Rows.addWord column) r) := by
  induction words generalizing r with
  | nil => exact h
  | cons word words ih =>
      exact ih (h.addWord hcolumn (hwords word List.mem_cons_self))
        fun later hlater => hwords later (List.mem_cons_of_mem _ hlater)

/-- All rows fit. -/
theorem width_le_of_mem_toList (h : Fits column r) {row : Text} (hrow : row ∈ r.toList) :
    width row ≤ column :=
  h.close.1.full row (List.mem_reverse.1 hrow)

end Fits

end Wrap

/-- Every row of a wrapped text fits into a column of two cells or more. -/
theorem width_le_of_mem_wrap {column : Nat} (hcolumn : 2 ≤ column) {t row : Text}
    (h : row ∈ wrap t column) : width row ≤ column := by
  rw [wrap] at h
  split at h
  · next hone =>
      rw [List.mem_singleton.1 h]
      omega
  · have hwords : ∀ word ∈ words t, word ≠ [] := fun word => ne_nil_of_mem_runsOutside
    exact ((Wrap.Fits.start column).foldl_addWord hcolumn hwords).width_le_of_mem_toList h

/-! ## There is a row -/

/-- A cluster is not empty. -/
theorem ne_nil_of_isCut {x : Context} {pieces : List Text} (h : IsCut x pieces) :
    ∀ piece ∈ pieces, piece ≠ [] := by
  induction pieces generalizing x with
  | nil => simp
  | cons piece pieces ih =>
      obtain ⟨⟨c, t, rfl, -⟩, hrest⟩ := h
      rw [List.forall_mem_cons]
      exact ⟨List.cons_ne_nil _ _, ih hrest⟩

namespace Wrap

variable {column : Nat}

/-- What was added last is in the open row. -/
theorem row_foldl_ne_nil {f : Rows → Text → Rows} {texts : List Text} (htexts : texts ≠ [])
    (h : ∀ t ∈ texts, ∀ r, (f r t).row ≠ []) (r : Rows) : (texts.foldl f r).row ≠ [] := by
  obtain ⟨front, last, rfl⟩ := (List.eq_nil_or_concat' texts).resolve_left htexts
  rw [List.foldl_append]
  exact h last (by simp) _

theorem row_addCluster_ne_nil {cluster : Text} (h : cluster ≠ []) (r : Rows) :
    (r.addCluster column cluster).row ≠ [] := by
  rw [Rows.addCluster]
  simp [h]

theorem row_addWord_ne_nil {word : Text} (h : word ≠ []) (r : Rows) :
    (r.addWord column word).row ≠ [] := by
  rw [Rows.addWord]
  split
  · exact h
  · split
    · simp
    · simp only
      split
      · exact h
      · have hclusters : clusters word ≠ [] := by
          intro hnil
          rw [← flatten_clusters word, hnil] at h
          exact h rfl
        exact row_foldl_ne_nil hclusters
          (fun cluster hcluster => row_addCluster_ne_nil (ne_nil_of_isCut (isCut_clusters word)
            cluster hcluster)) _

/-- An open row is among the rows. -/
theorem toList_ne_nil {r : Rows} (h : r.row ≠ []) : r.toList ≠ [] := by
  simp [Rows.toList, Rows.close, h]

end Wrap

/-- A line of verse has a row. -/
theorem wrap_ne_nil {t : Text} (h : trim t ≠ []) (column : Nat) : wrap t column ≠ [] := by
  rw [wrap]
  split
  · exact List.cons_ne_nil _ _
  · rw [ne_eq, trim_eq_nil_iff] at h
    push Not at h
    obtain ⟨c, hc, hblank⟩ := h
    exact Wrap.toList_ne_nil (Wrap.row_foldl_ne_nil
      (runsOutside_ne_nil hc (by simpa using hblank))
      (fun word hword => Wrap.row_addWord_ne_nil (ne_nil_of_mem_runsOutside hword)) _)

end MarkedVerse.Text
