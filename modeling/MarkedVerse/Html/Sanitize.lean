import MarkedVerse.Html.Builder.Run
import MarkedVerse.Html.Url
import MarkedVerse.Html.Vocabulary

/-!
# Clean markup

Markup is cleaned by reading it as a tree and writing the tree again with only those elements and
attributes that may stay. An element that may not stay is replaced by what is in it, except scripts,
styles and what belongs to a drawing or a formula: those go with all that is in them.
-/

namespace MarkedVerse.Html

/-- The element goes together with its content. The frame of a drawing or formula leaves its text,
but nothing inside it stays, nor what is only named like a part of one. -/
def isDropped (e : Element) : Bool :=
  match e.vocabulary with
  | .html =>
    ["script", "style", "template"].contains e.name || drawingNames.contains e.name ||
      mathNames.contains e.name
  | .svg => e.name != "svg"
  | .math => e.name != "math"

/-- The element stays. -/
def isKept (e : Element) : Bool :=
  e.vocabulary == .html && allowedElements.contains e.name

/-- An attribute whose value is an address. -/
def isAddress (name : String) : Bool :=
  name == "href" || name == "src"

/-- The classes of a value that are among these, in order. -/
def keepClasses (allowed : List String) (value : Text) : Text :=
  Text.join [' '] ((Text.runsOutside isBlank value).filter fun name =>
    allowed.contains (String.ofList name))

/-- An attribute as it stays on an element of this name. -/
def keepAttribute? (element : String) (a : Attribute) : Option Attribute :=
  if a.name = "class" then
    (ownClasses? element).map fun allowed => { a with value := keepClasses allowed a.value }
  else if !commonAttributes.contains a.name && !(ownAttributes element).contains a.name then none
  else if isAddress a.name && !Url.isAllowed a.value then none
  else some a

/-- What every link tells about its target. -/
def linkAttribute : Attribute :=
  ⟨"rel", "noopener noreferrer".toList⟩

/-- The attributes that stay on an element, in order. -/
def keptAttributes (e : Element) : List Attribute :=
  e.attributes.filterMap (keepAttribute? e.name) ++
    (if e.name = "a" then [linkAttribute] else [])

/-- An attribute with its value escaped. -/
def escapeAttribute (a : Attribute) : Attribute :=
  { a with value := escapeValue a.value }

/-- The clean markup of a node, at most `depth` elements deep. -/
def cleanNode (tree : Tree) : (depth : Nat) → Nat → List Piece
  | 0, _ => []
  | depth + 1, id =>
    match tree.nodes[id]? with
    | none => []
    | some node =>
      match node.content with
      | .text t => [.line t]
      | .element e =>
        if isDropped e then []
        else
          let inside := (tree.children id).flatMap (cleanNode tree depth)
          if !isKept e then inside
          else
            let tag := Piece.opening e.name ((keptAttributes e).map escapeAttribute)
            if voidElements.contains e.name then [tag] else tag :: inside ++ [.closing e.name]

/-- The clean markup of a tree. No element is deeper than there are nodes. -/
def cleanTree (tree : Tree) : List Piece :=
  (tree.children 0).flatMap (cleanNode tree tree.size)

/-- Cleans markup. -/
def sanitize (t : Text) : Text :=
  (cleanTree (Tree.ofMarkup t)).flatMap (Piece.print escapeText)

end MarkedVerse.Html
