import Mathlib.Order.Nat
import MarkedVerse.Html.Sanitize

/-!
# Growing trees

Markup that is read below a node adds nodes to the tree and children to this one node, and changes
nothing else. `Tree.Adds` says so, together with what the new children are written as when the tree
is cleaned; it looks at the new nodes only, so it holds in every tree that has them. Texts and
elements are added (`Adds.text`, `Adds.void`), what is added below a new element is added as the
content of that element (`Adds.element`), and one addition follows another (`Adds.trans`).
-/

namespace MarkedVerse.Html

/-- An element that stays in clean markup as it is. -/
structure Element.Stays (e : Element) : Prop where
  dropped : isDropped e = false
  kept : isKept e = true
  attributes : (keptAttributes e).map escapeAttribute = e.attributes

namespace Tree

variable {t t₁ t₂ : Tree} {parent : Nat} {ids ids₁ ids₂ : List Nat}
  {pieces pieces₁ pieces₂ : List Piece}

/-- The tree with a new node as the last child of a node. -/
def grow (t : Tree) (parent : Nat) (content : NodeContent) : Tree :=
  (t.add content).append parent t.size

theorem size_grow (t : Tree) (parent : Nat) (content : NodeContent) :
    (t.grow parent content).size = t.size + 1 := by
  simp [grow, append, change, add, size]

/-- The nodes of the tree: the new one is a child of its parent, and no other node changes. -/
theorem nodes_grow (hparent : parent < t.size) (content : NodeContent) (j : Nat) :
    (t.grow parent content).nodes[j]? =
      if j = t.size then some ⟨content, some parent, []⟩
      else if j = parent then
        t.nodes[parent]?.map fun n => { n with children := t.size :: n.children }
      else t.nodes[j]? := by
  have hne : parent ≠ t.size := hparent.ne
  rw [grow, append, change, change, add, Array.getElem?_modify, Array.getElem?_modify,
    Array.getElem?_push]
  rw [size] at hne ⊢
  by_cases hj : j = t.nodes.size
  · subst hj
    simp [hne]
  · rw [if_neg (Ne.symm hj), if_neg hj, if_neg hj]
    by_cases hp : j = parent
    · subst hp
      rw [if_pos rfl]
    · rw [if_neg (Ne.symm hp), if_neg hp]

/-! ## Elements -/

theorem element?_eq_some_iff {j : Nat} {e : Element} :
    t.element? j = some e ↔ ∃ node, t.nodes[j]? = some node ∧ node.content = .element e := by
  rw [element?]
  constructor
  · intro h
    split at h
    · next e' p cs hnode =>
        cases h
        exact ⟨_, hnode, rfl⟩
    · cases h
  · rintro ⟨⟨content, p, cs⟩, hnode, rfl⟩
    rw [hnode]

theorem lt_size_of_element? {j : Nat} {e : Element} (h : t.element? j = some e) : j < t.size := by
  obtain ⟨node, hnode, -⟩ := element?_eq_some_iff.1 h
  exact (Array.getElem?_eq_some_iff.1 hnode).1

/-- Every element of the one tree is an element of the other. -/
def Extends (t t₁ : Tree) : Prop :=
  ∀ j e, t.element? j = some e → t₁.element? j = some e

/-- A node that gets a child stays the element that it is. -/
theorem extends_of_nodes {more : List Nat}
    (hparent : t₁.nodes[parent]? =
      t.nodes[parent]?.map fun n => { n with children := more ++ n.children })
    (hothers : ∀ j, j < t.size → j ≠ parent → t₁.nodes[j]? = t.nodes[j]?) : Extends t t₁ := by
  intro j e he
  have hj := lt_size_of_element? he
  obtain ⟨node, hnode, hcontent⟩ := element?_eq_some_iff.1 he
  rw [element?_eq_some_iff]
  by_cases hp : j = parent
  · subst hp
    rw [hnode, Option.map_some] at hparent
    exact ⟨_, hparent, hcontent⟩
  · exact ⟨node, (hothers j hj hp).trans hnode, hcontent⟩

theorem extends_grow (hparent : parent < t.size) (content : NodeContent) :
    Extends t (t.grow parent content) := by
  have hchild : (t.grow parent content).nodes[parent]? =
      t.nodes[parent]?.map fun n => { n with children := [t.size] ++ n.children } := by
    rw [nodes_grow hparent, if_neg hparent.ne, if_pos rfl]
    rfl
  exact extends_of_nodes hchild fun j hj hp => by rw [nodes_grow hparent, if_neg hj.ne, if_neg hp]

theorem element?_grow_new (hparent : parent < t.size) (e : Element) :
    (t.grow parent (.element e)).element? t.size = some e := by
  rw [element?_eq_some_iff]
  exact ⟨_, by rw [nodes_grow hparent, if_pos rfl], rfl⟩

/-! ## Additions -/

/-- The tree `t₁` has more nodes than `t` and these more children of one node, which are written as
these pieces in any tree that has the nodes. -/
structure Adds (parent : Nat) (t t₁ : Tree) (ids : List Nat) (pieces : List Piece) : Prop where
  size_le : t.size ≤ t₁.size
  children : t₁.nodes[parent]? =
    t.nodes[parent]?.map fun n => { n with children := ids.reverse ++ n.children }
  others : ∀ j, j < t.size → j ≠ parent → t₁.nodes[j]? = t.nodes[j]?
  written : ∀ later : Tree,
    (∀ j, t.size ≤ j → j < t₁.size → later.nodes[j]? = t₁.nodes[j]?) →
      ∀ depth, t₁.size - t.size ≤ depth → ids.flatMap (cleanNode later depth) = pieces

namespace Adds

theorem extends_tree (h : Adds parent t t₁ ids pieces) : Extends t t₁ :=
  extends_of_nodes h.children h.others

/-- Nothing is added. -/
theorem refl (parent : Nat) (t : Tree) : Adds parent t t [] [] where
  size_le := Nat.le_refl _
  children := by cases t.nodes[parent]? <;> rfl
  others _ _ _ := rfl
  written _ _ _ _ := rfl

/-- One addition follows another. -/
theorem trans (hparent : parent < t.size) (h₁ : Adds parent t t₁ ids₁ pieces₁)
    (h₂ : Adds parent t₁ t₂ ids₂ pieces₂) :
    Adds parent t t₂ (ids₁ ++ ids₂) (pieces₁ ++ pieces₂) where
  size_le := h₁.size_le.trans h₂.size_le
  children := by
    rw [h₂.children, h₁.children, Option.map_map, List.reverse_append]
    congr 1
    funext n
    exact congrArg (Node.mk n.content n.parent) (List.append_assoc _ _ _).symm
  others j hj hne := by
    rw [h₂.others j (hj.trans_le h₁.size_le) hne, h₁.others j hj hne]
  written later hlater depth hdepth := by
    have hfirst := h₁.size_le
    have hsecond := h₂.size_le
    rw [List.flatMap_append]
    congr 1
    · refine h₁.written later (fun j hle hlt => ?_) depth (by omega)
      rw [hlater j hle (by omega), h₂.others j hlt (by omega)]
    · exact h₂.written later (fun j hle hlt => hlater j (by omega) hlt) depth (by omega)

/-- A new node by itself is the only child that is added. -/
theorem grow (hparent : parent < t.size) {content : NodeContent}
    (hwritten : ∀ later : Tree, later.nodes[t.size]? = some ⟨content, some parent, []⟩ →
      ∀ depth, cleanNode later (depth + 1) t.size = pieces) :
    Adds parent t (t.grow parent content) [t.size] pieces where
  size_le := by
    rw [size_grow]
    exact Nat.le_succ _
  children := by
    rw [nodes_grow hparent, if_neg hparent.ne, if_pos rfl]
    rfl
  others j hj hne := by rw [nodes_grow hparent, if_neg hj.ne, if_neg hne]
  written later hlater depth hdepth := by
    rw [size_grow] at hlater hdepth
    obtain ⟨depth, rfl⟩ : ∃ d, depth = d + 1 := ⟨depth - 1, by omega⟩
    have hnode := hlater t.size (Nat.le_refl _) (Nat.lt_succ_self _)
    rw [nodes_grow hparent, if_pos rfl] at hnode
    rw [List.flatMap_singleton, hwritten later hnode depth]

/-- A new text. -/
theorem text (hparent : parent < t.size) (u : Text) :
    Adds parent t (t.grow parent (.text u)) [t.size] [.line u] := by
  refine grow hparent fun later hnode depth => ?_
  rw [cleanNode, hnode]

/-- A new element that nothing can stand in. -/
theorem void (hparent : parent < t.size) {e : Element} (he : e.Stays)
    (hvoid : e.name ∈ voidElements) :
    Adds parent t (t.grow parent (.element e)) [t.size] [.opening e.name e.attributes] := by
  refine grow hparent fun later hnode depth => ?_
  rw [cleanNode, hnode]
  simp [he.dropped, he.kept, he.attributes, hvoid]

/-- A new element together with what is added inside it. -/
theorem element (hparent : parent < t.size) {e : Element} (he : e.Stays)
    (hvoid : e.name ∉ voidElements)
    (hinside : Adds t.size (t.grow parent (.element e)) t₁ ids pieces) :
    Adds parent t t₁ [t.size] (.opening e.name e.attributes :: pieces ++ [.closing e.name]) where
  size_le := by
    have hle := hinside.size_le
    rw [size_grow] at hle
    omega
  children := by
    rw [hinside.others parent (by rw [size_grow]; omega) hparent.ne, nodes_grow hparent,
      if_neg hparent.ne, if_pos rfl]
    rfl
  others j hj hne := by
    rw [hinside.others j (by rw [size_grow]; omega) hj.ne, nodes_grow hparent, if_neg hj.ne,
      if_neg hne]
  written later hlater depth hdepth := by
    have hle := hinside.size_le
    rw [size_grow] at hle
    -- Every level below the element costs one step, and has a new node of its own.
    obtain ⟨depth, rfl⟩ : ∃ d, depth = d + 1 := ⟨depth - 1, by omega⟩
    have hnode : later.nodes[t.size]? = some ⟨.element e, some parent, ids.reverse⟩ := by
      rw [hlater t.size (Nat.le_refl _) (by omega), hinside.children, nodes_grow hparent,
        if_pos rfl, Option.map_some, List.append_nil]
    have hchildren : later.children t.size = ids := by
      rw [Tree.children, hnode, Option.map_some, Option.getD_some, List.reverse_reverse]
    have hpieces : ids.flatMap (cleanNode later depth) = pieces := by
      refine hinside.written later (fun j hj hlt => hlater j ?_ hlt) depth ?_
      · rw [size_grow] at hj
        omega
      · rw [size_grow]
        omega
    rw [List.flatMap_singleton, cleanNode, hnode]
    simp [he.dropped, he.kept, he.attributes, hvoid, hchildren, hpieces]

end Adds

end Tree

end MarkedVerse.Html
