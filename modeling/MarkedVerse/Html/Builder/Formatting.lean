import MarkedVerse.Html.Builder

/-!
# Formatting elements

Bold, links and their like go on behind the block in which they were opened: the builder keeps a
list of them and opens them again where text follows. When the closing tag of one comes inside a
later block, the block is taken out of the formatting element and gets a copy of it.
-/

namespace MarkedVerse.Html

namespace Builder

/-- The formatting elements since the last marker, latest first. -/
def sinceMarker (b : Builder) : List Formatting :=
  b.formatting.takeWhile Formatting.isElement

/-- The entry needs no reopening. -/
def isSettled (b : Builder) : Formatting → Bool
  | .marker => true
  | .element id _ => b.stack.contains id

/-- Opens the element of an entry again, and gives the entry of the new element. -/
def reopen (b : Builder) : Formatting → Builder × Formatting
  | .marker => (b, .marker)
  | .element _ tag =>
    let (b, id) := b.openElement tag.element
    (b, .element id tag)

/-- Opens formatting elements again, oldest first; `entries` has the latest first. -/
def reopenAll (b : Builder) : List Formatting → Builder × List Formatting
  | [] => (b, [])
  | entry :: older =>
    let (b, older) := b.reopenAll older
    let (b, entry) := b.reopen entry
    (b, entry :: older)

/-- Opens the formatting elements again that were closed together with a block. -/
def reconstruct (b : Builder) : Builder :=
  let entries := b.formatting.takeWhile fun entry => !b.isSettled entry
  let settled := b.formatting.drop entries.length
  let (b, entries) := b.reopenAll entries
  { b with formatting := entries ++ settled }

/-- Two tags say the same, in whatever order their attributes stand. -/
def sameTag (a b : Tag) : Bool :=
  a.name == b.name && a.attributes.length == b.attributes.length &&
    a.attributes.all b.attributes.contains

/-- The entry is of a tag that says the same. -/
def isEntryOf (tag : Tag) : Formatting → Bool
  | .marker => false
  | .element _ other => sameTag tag other

/-- Drops the oldest of three or more entries that say the same as a tag. -/
def dropThird (b : Builder) (tag : Tag) : List Formatting :=
  let recent := b.sinceMarker
  if 3 ≤ recent.countP (isEntryOf tag) then
    let oldest := recent.reverse.eraseP (isEntryOf tag)
    oldest.reverse ++ b.formatting.drop recent.length
  else b.formatting

/-- Opens a formatting element. -/
def openFormatting (b : Builder) (tag : Tag) : Builder :=
  let formatting := b.dropThird tag
  let (b, id) := b.openElement tag.element
  { b with formatting := .element id tag :: formatting }

/-- The node of the latest formatting element of this name, with its tag. -/
def latest? (b : Builder) (name : String) : Option (Nat × Tag) :=
  b.sinceMarker.findSome? fun
    | .marker => none
    | .element id tag => if tag.name = name then some (id, tag) else none

/-- Takes the entry of a node from the formatting elements. -/
def removeEntry (b : Builder) (id : Nat) : Builder :=
  { b with formatting := b.formatting.eraseP (Formatting.isAt id) }

/-- Elements that belong to no text. -/
def specialNames : List String :=
  ["address", "applet", "area", "article", "aside", "base", "basefont", "bgsound", "blockquote",
   "body", "br", "button", "caption", "center", "col", "colgroup", "dd", "details", "dir", "div",
   "dl", "dt", "embed", "fieldset", "figcaption", "figure", "footer", "form", "frame", "frameset",
   "h1", "h2", "h3", "h4", "h5", "h6", "head", "header", "hgroup", "hr", "html", "iframe", "img",
   "input", "isindex", "li", "link", "listing", "main", "marquee", "menu", "meta", "nav",
   "noembed", "noframes", "noscript", "object", "ol", "p", "param", "plaintext", "pre", "script",
   "section", "select", "source", "style", "summary", "table", "tbody", "td", "template",
   "textarea", "tfoot", "th", "thead", "title", "tr", "track", "ul", "wbr", "xmp"]

/-- The open elements from the innermost one of this name outwards; an element that belongs to no
text hides those outside it. -/
def closeThrough? (name : String) : List (Nat × Element) → Option (List Nat)
  | [] => none
  | (_, e) :: rest =>
    if e.isNamed name then some (rest.map Prod.fst)
    else if e.isOneOf specialNames then none
    else closeThrough? name rest

/-- A closing tag that no other rule is about. -/
def closeOther (b : Builder) (name : String) : Builder :=
  match closeThrough? name b.openElements with
  | some stack => { b with stack }
  | none => b

/-! ## Closing a formatting element inside a block -/

/-- Where the entry of the copy belongs. -/
inductive Bookmark where
  | atEntry (id : Nat)
  | behind (id : Nat)

/-- The state of the walk from a block out to the formatting element that is closed. -/
structure Adoption where
  tree : Tree
  formatting : List Formatting
  /-- The elements passed that stay open, outermost first. -/
  kept : List Nat
  /-- What goes into the next element. -/
  last : Nat
  bookmark : Bookmark
  steps : Nat

/-- Puts a copy of a passed element around what has been walked. An element stays open when it is a
formatting element and at most two have been passed before it. -/
def adoptStep (block : Nat) (s : Adoption) (id : Nat) : Adoption :=
  let steps := s.steps + 1
  match s.formatting.find? (Formatting.isAt id) with
  | some (.element _ tag) =>
    if 3 < steps then
      { s with formatting := s.formatting.eraseP (Formatting.isAt id), steps }
    else
      let copy := s.tree.size
      { tree := ((s.tree.add (.element tag.element)).detach s.last).append copy s.last
        formatting := s.formatting.map fun entry =>
          if entry.isAt id then .element copy tag else entry
        kept := copy :: s.kept
        last := copy
        bookmark := if s.last = block then .behind copy else s.bookmark
        steps }
  | _ => { s with steps }

/-- The list of formatting elements with the copy in place of the element that is closed. -/
def replaceEntry (id : Nat) (entry : Formatting) (bookmark : Bookmark)
    (formatting : List Formatting) : List Formatting :=
  match bookmark with
  | .atEntry id => formatting.map fun other => if other.isAt id then entry else other
  | .behind previous =>
    (formatting.flatMap fun other => if other.isAt previous then [entry, other] else [other]).eraseP
      (Formatting.isAt id)

/-- Takes a block out of the formatting element `id` that it stands in. The block is the innermost
but `inner`; `passed` lies between the two, and `outer` outside the formatting element. -/
def adopt (b : Builder) (id : Nat) (tag : Tag) (inner : List Nat) (block : Nat)
    (passed outer : List Nat) : Builder :=
  let s := passed.foldl (adoptStep block) ⟨b.tree, b.formatting, [], block, .atEntry id, 0⟩
  let tree := s.tree.detach s.last
  let moved := place tree ({ b with tree }.slot (outer.head?.getD 0)) s.last
  let copy := moved.size
  { b with
    tree := ((moved.add (.element tag.element)).moveChildren block copy).append block copy
    stack := inner ++ copy :: block :: s.kept.reverse ++ outer
    formatting := replaceEntry id (.element copy tag) s.bookmark s.formatting }

/-- One round of closing the formatting element of this name. The flag tells that another round
may have something to do. -/
def adoptRound (b : Builder) (name : String) : Builder × Bool :=
  match b.latest? name with
  | none => (b.closeOther name, false)
  | some (id, tag) =>
    if !b.stack.contains id then (b.removeEntry id, false)
    else if !b.inScope defaultScope fun x => x.1 == id then (b, false)
    else
      let above := b.stack.takeWhile (· != id)
      let outer := b.stack.drop (above.length + 1)
      let isBlock := fun id => (b.tree.element? id).any (·.isOneOf specialNames)
      match above.reverse.find? isBlock with
      | none => ({ b with stack := outer }.removeEntry id, false)
      | some block =>
        let inner := above.takeWhile (· != block)
        let passed := above.drop (inner.length + 1)
        (b.adopt id tag inner block passed outer, true)

/-- Rounds of closing a formatting element. -/
def adoptRounds (name : String) : (rounds : Nat) → Builder → Builder
  | 0, b => b
  | rounds + 1, b =>
    match b.adoptRound name with
    | (b, true) => adoptRounds name rounds b
    | (b, false) => b

/-- Closes a formatting element. -/
def closeFormatting (b : Builder) (name : String) : Builder :=
  let listed := (b.stack.head?.map fun id => b.formatting.any (Formatting.isAt id)).getD false
  if b.currentIs [name] && !listed then b.pop else adoptRounds name 8 b

/-- Closes a link that is still open when another one begins. -/
def closeLink (b : Builder) : Builder :=
  match b.latest? "a" with
  | none => b
  | some (id, _) => ((b.closeFormatting "a").removeEntry id).removeOpen id

end Builder

end MarkedVerse.Html
