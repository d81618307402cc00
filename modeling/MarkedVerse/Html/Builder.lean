import MarkedVerse.Html.Token
import MarkedVerse.Html.Tree

/-!
# Building a tree

A tree grows from tokens. The builder holds the elements that are open, innermost first, and the
formatting elements that go on in the next block; the mode says which rules the next token
follows. The module holds what the rules share: opening and closing elements, the scopes in which
an element is looked for, and where a new node belongs.
-/

namespace MarkedVerse.Html

/-- The element of a tag. -/
def Tag.element (tag : Tag) : Element :=
  ⟨.html, tag.name, tag.attributes⟩

/-- The rules that a token follows. -/
inductive Mode where
  | body
  /-- In an element that holds only text. -/
  | text
  | table
  /-- In text that stands in a table. -/
  | tableText
  | caption
  | columns
  | tableBody
  | row
  | cell
  | select
  | selectInTable
  | template
  deriving DecidableEq, Repr

/-- An entry in the list of formatting elements. -/
inductive Formatting where
  /-- Formatting from here on stays inside an element. -/
  | marker
  | element (id : Nat) (tag : Tag)
  deriving DecidableEq, Repr

namespace Formatting

/-- The entry is of this node. -/
def isAt (id : Nat) : Formatting → Bool
  | marker => false
  | element other _ => other == id

/-- The entry is of an element. -/
def isElement : Formatting → Bool
  | marker => false
  | element _ _ => true

end Formatting

/-- A tree while it is built. -/
structure Builder where
  tree : Tree
  /-- The open elements, innermost first. -/
  stack : List Nat
  /-- The formatting elements, latest first. -/
  formatting : List Formatting
  mode : Mode
  /-- The mode behind text. -/
  outerMode : Mode
  /-- The modes inside templates, innermost first. -/
  templates : List Mode
  /-- The open form. -/
  form : Option Nat
  /-- The runs of text that stand in a table, latest first. -/
  pending : List Text
  /-- What may not stand in a table goes in front of it. -/
  fostering : Bool
  /-- A line end that comes next is dropped. -/
  skipLineEnd : Bool
  /-- Everything that follows is text. -/
  plain : Bool

namespace Builder

/-- Before the first token. -/
def start : Builder :=
  { tree := Tree.empty, stack := [0], formatting := [], mode := .body, outerMode := .body,
    templates := [], form := none, pending := [], fostering := false, skipLineEnd := false,
    plain := false }

/-- The open elements with their nodes, innermost first. -/
def openElements (b : Builder) : List (Nat × Element) :=
  b.stack.filterMap fun id => (b.tree.element? id).map fun e => (id, e)

/-- The innermost open element. -/
def current? (b : Builder) : Option Element :=
  b.stack.head?.bind b.tree.element?

/-- The innermost open element is one of these. -/
def currentIs (b : Builder) (names : List String) : Bool :=
  b.current?.any (·.isOneOf names)

/-- An element of this name is open. -/
def hasOpen (b : Builder) (name : String) : Bool :=
  b.openElements.any fun (_, e) => e.isNamed name

/-! ## Scopes -/

/-- Text in this element of mathematics follows the rules of HTML. -/
def isMathText (e : Element) : Bool :=
  e.vocabulary == .math && ["mi", "mo", "mn", "ms", "mtext"].contains e.name

/-- The content of this element of a drawing follows the rules of HTML. -/
def isHtmlPoint (e : Element) : Bool :=
  e.vocabulary == .svg && ["foreignObject", "desc", "title"].contains e.name

/-- Elements that no search goes past. -/
def defaultScope (e : Element) : Bool :=
  e.isOneOf
    ["applet", "caption", "html", "table", "td", "th", "marquee", "object", "template"] ||
    isMathText e || isHtmlPoint e

/-- The scope in which an item is looked for. -/
def listScope (e : Element) : Bool :=
  defaultScope e || e.isOneOf ["ol", "ul"]

/-- The scope in which a paragraph is looked for. -/
def buttonScope (e : Element) : Bool :=
  defaultScope e || e.isNamed "button"

/-- The scope in which the parts of a table are looked for. -/
def tableScope (e : Element) : Bool :=
  e.isOneOf ["html", "table", "template"]

/-- The scope in which a choice is looked for. -/
def selectScope (e : Element) : Bool :=
  !e.isOneOf ["optgroup", "option"]

/-- A node that fits is open, and no element that bounds the scope is inside it. -/
def inScope (b : Builder) (bounds : Element → Bool) (fits : Nat × Element → Bool) : Bool :=
  (b.openElements.find? fun x => fits x || bounds x.2).any fits

/-- An element of one of these names is in scope. -/
def inScopeNamed (b : Builder) (bounds : Element → Bool) (names : List String) : Bool :=
  b.inScope bounds fun x => x.2.isOneOf names

/-! ## Closing elements -/

/-- Closes the innermost element. -/
def pop (b : Builder) : Builder :=
  { b with stack := b.stack.drop 1 }

/-- Closes elements as long as they fit. -/
def popWhile (b : Builder) (fits : Element → Bool) : Builder :=
  { b with stack := b.stack.dropWhile fun id => (b.tree.element? id).any fits }

/-- Closes elements until one of these is the innermost. -/
def popTo (b : Builder) (names : List String) : Builder :=
  b.popWhile fun e => !e.isOneOf names

/-- Closes elements up to one of these, and closes it. -/
def popThrough (b : Builder) (names : List String) : Builder :=
  (b.popTo names).pop

/-- Elements whose end may be left out. -/
def impliedEnds : List String :=
  ["dd", "dt", "li", "option", "optgroup", "p", "rb", "rp", "rt", "rtc"]

/-- Closes elements whose end may be left out. -/
def closeImplied (b : Builder) : Builder :=
  b.popWhile (·.isOneOf impliedEnds)

/-- Closes elements whose end may be left out, except those of this name. -/
def closeImpliedExcept (b : Builder) (name : String) : Builder :=
  b.popWhile fun e => e.isOneOf impliedEnds && e.name != name

/-- Closes the paragraph that a block would stand in. -/
def closeParagraph (b : Builder) : Builder :=
  if b.inScopeNamed buttonScope ["p"] then b.popThrough ["p"] else b

/-- Takes a node from the open elements. -/
def removeOpen (b : Builder) (id : Nat) : Builder :=
  { b with stack := b.stack.erase id }

/-- Forgets the formatting since the last marker. -/
def clearFormatting (b : Builder) : Builder :=
  { b with formatting := (b.formatting.dropWhile Formatting.isElement).drop 1 }

/-- Formatting from here on stays inside the innermost element. -/
def pushMarker (b : Builder) : Builder :=
  { b with formatting := .marker :: b.formatting }

/-! ## Opening elements -/

/-- Where a new node belongs. -/
inductive Slot where
  | inside (parent : Nat)
  /-- In front of a table, or in the element that the table was opened in. -/
  | beforeTable (table outer : Nat)

/-- Elements that take nothing but parts of a table. -/
def tableParts : List String :=
  ["table", "tbody", "tfoot", "thead", "tr"]

/-- The place for what may not stand in a table. -/
def fosterSlot (b : Builder) : List (Nat × Element) → Slot
  | [] => .inside 0
  | (id, e) :: rest =>
    if e.isNamed "template" then .inside id
    else if e.isNamed "table" then .beforeTable id ((rest.head?.map Prod.fst).getD 0)
    else b.fosterSlot rest

/-- The place for a node in the element at `target`. -/
def slot (b : Builder) (target : Nat) : Slot :=
  if b.fostering && (b.tree.element? target).any (·.isOneOf tableParts) then
    b.fosterSlot b.openElements
  else .inside target

/-- Puts a node in its place. -/
def place (tree : Tree) (slot : Slot) (id : Nat) : Tree :=
  match slot with
  | .inside parent => tree.append parent id
  | .beforeTable table outer =>
    match tree.parent? table with
    | some parent => tree.insertBefore parent table id
    | none => tree.append outer id

/-- Adds a node to the innermost element. -/
def addNode (b : Builder) (content : NodeContent) : Builder × Nat :=
  let slot := b.slot (b.stack.head?.getD 0)
  let id := b.tree.size
  ({ b with tree := place (b.tree.add content) slot id }, id)

/-- Adds text to the innermost element. -/
def addText (b : Builder) (t : Text) : Builder :=
  (b.addNode (.text t)).1

/-- Opens an element, and gives its node. -/
def openElement (b : Builder) (e : Element) : Builder × Nat :=
  let (b, id) := b.addNode (.element e)
  ({ b with stack := id :: b.stack }, id)

/-- Opens the element of a tag. -/
def openTag (b : Builder) (tag : Tag) : Builder :=
  (b.openElement tag.element).1

/-- Opens an element of this name without a tag. -/
def openNamed (b : Builder) (name : String) : Builder :=
  b.openTag ⟨name, [], false⟩

/-- Adds an element that nothing can stand in. -/
def addEmpty (b : Builder) (tag : Tag) : Builder :=
  (b.addNode (.element tag.element)).1

/-- Opens an element that holds only text. -/
def openText (b : Builder) (tag : Tag) : Builder :=
  { b.openTag tag with mode := .text, outerMode := b.mode }

/-- The mode that the open elements call for. -/
def modeOf (b : Builder) : List (Nat × Element) → Mode
  | [] => .body
  | [_] => .body
  | (_, e) :: rest =>
    if e.isNamed "select" then
      match rest.find? fun (_, e) => e.isOneOf ["template", "table"] with
      | some (_, e) => if e.name = "table" then .selectInTable else .select
      | none => .select
    else if e.isOneOf ["td", "th"] then .cell
    else if e.isNamed "tr" then .row
    else if e.isOneOf ["tbody", "thead", "tfoot"] then .tableBody
    else if e.isNamed "caption" then .caption
    else if e.isNamed "colgroup" then .columns
    else if e.isNamed "table" then .table
    else if e.isNamed "template" then b.templates.head?.getD .body
    else b.modeOf rest

/-- Chooses the mode by the open elements. -/
def resetMode (b : Builder) : Builder :=
  { b with mode := b.modeOf b.openElements }

end Builder

end MarkedVerse.Html
