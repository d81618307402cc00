import MarkedVerse.Html.Markup

/-!
# Trees of elements

A tree is kept as a table of nodes, because reading markup moves parts of it that have been read
already. A node knows its parent and its children, in order; the node at zero is the root.
-/

namespace MarkedVerse.Html

/-- The vocabulary that an element belongs to. -/
inductive Vocabulary where
  | html
  | svg
  | math
  deriving DecidableEq, Repr

/-- An element without what is in it. -/
structure Element where
  vocabulary : Vocabulary
  name : String
  attributes : List Attribute
  deriving DecidableEq, Repr

namespace Element

/-- An element of HTML whose name is among these. -/
def isOneOf (e : Element) (names : List String) : Bool :=
  e.vocabulary == .html && names.contains e.name

/-- The element is of HTML and has this name. -/
def isNamed (e : Element) (name : String) : Bool :=
  e.vocabulary == .html && e.name == name

end Element

/-- What stands at a node. -/
inductive NodeContent where
  | element (e : Element)
  | text (t : Text)
  deriving DecidableEq, Repr

/-- A node with its place in the tree. -/
structure Node where
  content : NodeContent
  parent : Option Nat
  /-- The children, the last one first. -/
  children : List Nat
  deriving DecidableEq, Repr

/-- A tree, as the table of its nodes. -/
structure Tree where
  nodes : Array Node

namespace Tree

/-- The tree that has only a root. -/
def empty : Tree :=
  ⟨#[⟨.element ⟨.html, "html", []⟩, none, []⟩]⟩

/-- The element at a node. -/
def element? (tree : Tree) (id : Nat) : Option Element :=
  match tree.nodes[id]? with
  | some ⟨.element e, _, _⟩ => some e
  | _ => none

/-- The parent of a node. -/
def parent? (tree : Tree) (id : Nat) : Option Nat :=
  tree.nodes[id]?.bind Node.parent

/-- The children of a node, in order. -/
def children (tree : Tree) (id : Nat) : List Nat :=
  ((tree.nodes[id]?.map Node.children).getD []).reverse

/-- The number of nodes, which is the number of the next one. -/
def size (tree : Tree) : Nat :=
  tree.nodes.size

/-- The tree with one more node, which stands nowhere yet. -/
def add (tree : Tree) (content : NodeContent) : Tree :=
  ⟨tree.nodes.push ⟨content, none, []⟩⟩

/-- Changes a node. -/
def change (tree : Tree) (id : Nat) (f : Node → Node) : Tree :=
  ⟨tree.nodes.modify id f⟩

/-- Takes a node, with all that is in it, from its place. -/
def detach (tree : Tree) (id : Nat) : Tree :=
  match tree.parent? id with
  | none => tree
  | some parent =>
    (tree.change parent fun n => { n with children := n.children.filter (· != id) }).change id
      fun n => { n with parent := none }

/-- Puts a node behind the children of another one. -/
def append (tree : Tree) (parent id : Nat) : Tree :=
  (tree.change parent fun n => { n with children := id :: n.children }).change id
    fun n => { n with parent := some parent }

/-- The list with one more number behind `mark`. -/
def insertBehind (mark id : Nat) : List Nat → List Nat
  | [] => [id]
  | x :: xs => if x = mark then x :: id :: xs else x :: insertBehind mark id xs

/-- Puts a node in front of another one that is a child of `parent`. -/
def insertBefore (tree : Tree) (parent sibling id : Nat) : Tree :=
  (tree.change parent fun n => { n with children := insertBehind sibling id n.children }).change id
    fun n => { n with parent := some parent }

/-- Moves the children of a node behind those of another one. -/
def moveChildren (tree : Tree) (source target : Nat) : Tree :=
  (tree.children source).foldl (fun tree id => (tree.detach id).append target id) tree

end Tree

end MarkedVerse.Html
