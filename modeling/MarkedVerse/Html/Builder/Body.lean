import MarkedVerse.Html.Builder.Formatting

/-!
# Tags among text

The rules for tags and text outside tables and choices. Each name belongs to one kind of tag, and
each kind has its rule: a block closes the paragraph before it, a formatting element is kept for
later blocks, an item closes the item before it, and so on.
-/

namespace MarkedVerse.Html

/-- The kinds of opening tags. -/
inductive Opening where
  /-- Means nothing here. -/
  | ignored
  | block
  | heading
  /-- A block whose first line end is dropped. -/
  | preformatted
  | form
  | item
  | plaintext
  | button
  | link
  | formatting
  | unbroken
  /-- Formatting inside goes on inside only. -/
  | embedded
  | table
  /-- Stands in text and holds nothing. -/
  | empty
  /-- Stands anywhere and holds nothing. -/
  | part
  | rule
  | textArea
  /-- Holds text only, and stands in text. -/
  | example
  /-- Holds text only. -/
  | verbatim
  | template
  | select
  | choice
  | rubyBase
  | rubyText
  | math
  | svg
  | ordinary
  deriving DecidableEq, Repr

/-- The names of blocks. -/
def blockNames : List String :=
  ["address", "article", "aside", "blockquote", "center", "details", "dialog", "dir", "div", "dl",
   "fieldset", "figcaption", "figure", "footer", "header", "hgroup", "main", "menu", "nav", "ol",
   "p", "search", "section", "summary", "ul"]

/-- The names of headings. -/
def headingNames : List String :=
  ["h1", "h2", "h3", "h4", "h5", "h6"]

/-- The names of formatting elements other than links. -/
def formattingNames : List String :=
  ["b", "big", "code", "em", "font", "i", "s", "small", "strike", "strong", "tt", "u"]

/-- The names whose tags mean nothing here. -/
def ignoredNames : List String :=
  ["html", "head", "body", "frameset", "frame", "caption", "col", "colgroup", "tbody", "td",
   "tfoot", "th", "thead", "tr"]

/-- The kinds with their names; a name that is missing is ordinary. -/
def openings : List (Opening × List String) :=
  [(.block, blockNames), (.heading, headingNames), (.formatting, formattingNames),
   (.empty, ["area", "br", "embed", "img", "image", "keygen", "wbr", "input"]), (.link, ["a"]),
   (.item, ["li", "dd", "dt"]), (.rule, ["hr"]), (.preformatted, ["pre", "listing"]),
   (.form, ["form"]), (.plaintext, ["plaintext"]), (.button, ["button"]), (.unbroken, ["nobr"]),
   (.embedded, ["applet", "marquee", "object"]), (.table, ["table"]),
   (.part, ["param", "source", "track", "base", "basefont", "bgsound", "link", "meta"]),
   (.textArea, ["textarea"]), (.example, ["xmp"]),
   (.verbatim, ["title", "style", "script", "noscript", "noframes", "iframe", "noembed"]),
   (.template, ["template"]), (.select, ["select"]), (.choice, ["optgroup", "option"]),
   (.rubyBase, ["rb", "rtc"]), (.rubyText, ["rp", "rt"]), (.math, ["math"]), (.svg, ["svg"]),
   (.ignored, ignoredNames)]

/-- The kind of the opening tag of this name. -/
def Opening.ofName (name : String) : Opening :=
  ((openings.find? (·.2.contains name)).map Prod.fst).getD .ordinary

namespace Builder

/-- The items that an item of this name closes. -/
def itemNames (name : String) : List String :=
  if name = "li" then ["li"] else ["dd", "dt"]

/-- The item that a new item closes. Blocks that belong to no text hide those outside them. -/
def openItem? (names : List String) (b : Builder) : Option String :=
  let bounds := fun e : Element =>
    e.isOneOf specialNames && !e.isOneOf ["address", "div", "p"]
  (b.openElements.find? fun (_, e) => e.isOneOf names || bounds e).bind fun (_, e) =>
    if e.isOneOf names then some e.name else none

/-- Opens a template. -/
def openTemplate (b : Builder) (tag : Tag) : Builder :=
  { (b.openTag tag).pushMarker with mode := .template, templates := .template :: b.templates }

/-- Closes a template. -/
def closeTemplate (b : Builder) : Builder :=
  if b.hasOpen "template" then
    let b := (b.popThrough ["template"]).clearFormatting
    { b with templates := b.templates.drop 1 }.resetMode
  else b

/-- Opens a form, unless one is open. -/
def openForm (b : Builder) (tag : Tag) : Builder :=
  let inTemplate := b.hasOpen "template"
  if b.form.isSome && !inTemplate then b
  else
    let (b, id) := b.closeParagraph.openElement tag.element
    if inTemplate then b else { b with form := some id }

/-- Opens an element of another vocabulary; a tag that closes itself leaves it empty. -/
def openForeign (b : Builder) (vocabulary : Vocabulary) (tag : Tag) : Builder :=
  let e : Element := ⟨vocabulary, tag.name, tag.attributes⟩
  if tag.selfClosing then (b.addNode (.element e)).1 else (b.openElement e).1

/-- Opens the list of a choice. -/
def openSelect (b : Builder) (tag : Tag) : Builder :=
  let mode :=
    if b.mode ∈ [.table, .caption, .tableBody, .row, .cell] then Mode.selectInTable else .select
  { b.reconstruct.openTag tag with mode }

/-- The name of an element that holds nothing; an image may be spelled out. -/
def emptyName (name : String) : String :=
  if name = "image" then "img" else name

/-- An opening tag among text. -/
def openBody (b : Builder) (tag : Tag) : Builder :=
  match Opening.ofName tag.name with
  | .ignored => b
  | .block => b.closeParagraph.openTag tag
  | .heading =>
    let b := b.closeParagraph
    (if b.currentIs headingNames then b.pop else b).openTag tag
  | .preformatted => { b.closeParagraph.openTag tag with skipLineEnd := true }
  | .form => b.openForm tag
  | .item =>
    let b := match b.openItem? (itemNames tag.name) with
      | some name => b.popThrough [name]
      | none => b
    b.closeParagraph.openTag tag
  | .plaintext => { b.closeParagraph.openTag tag with plain := true }
  | .button =>
    let b := if b.inScopeNamed defaultScope ["button"] then b.popThrough ["button"] else b
    b.reconstruct.openTag tag
  | .link => b.closeLink.reconstruct.openFormatting tag
  | .formatting => b.reconstruct.openFormatting tag
  | .unbroken =>
    let b := b.reconstruct
    let b :=
      if b.inScopeNamed defaultScope ["nobr"] then (b.closeFormatting "nobr").reconstruct else b
    b.openFormatting tag
  | .embedded => (b.reconstruct.openTag tag).pushMarker
  | .table => { b.closeParagraph.openTag tag with mode := .table }
  | .empty => b.reconstruct.addEmpty { tag with name := emptyName tag.name }
  | .part => b.addEmpty tag
  | .rule => b.closeParagraph.addEmpty tag
  | .textArea => { b.openText tag with skipLineEnd := true }
  | .example => b.closeParagraph.reconstruct.openText tag
  | .verbatim => b.openText tag
  | .template => b.openTemplate tag
  | .select => b.openSelect tag
  | .choice => (if b.currentIs ["option"] then b.pop else b).reconstruct.openTag tag
  | .rubyBase =>
    (if b.inScopeNamed defaultScope ["ruby"] then b.closeImplied else b).openTag tag
  | .rubyText =>
    (if b.inScopeNamed defaultScope ["ruby"] then b.closeImpliedExcept "rtc" else b).openTag tag
  | .math => b.reconstruct.openForeign .math tag
  | .svg => b.reconstruct.openForeign .svg tag
  | .ordinary => b.reconstruct.openTag tag

/-- Closes a form. -/
def closeForm (b : Builder) : Builder :=
  if b.hasOpen "template" then
    if b.inScopeNamed defaultScope ["form"] then b.popThrough ["form"] else b
  else
    match b.form with
    | none => b
    | some id =>
      let b := { b with form := none }
      if b.inScope defaultScope fun x => x.1 == id then b.closeImplied.pop.removeOpen id else b

/-- A closing tag among text. -/
def closeBody (b : Builder) (name : String) : Builder :=
  if name = "p" then
    (if b.inScopeNamed buttonScope ["p"] then b else b.openNamed "p").popThrough ["p"]
  else if name = "br" then b.reconstruct.addEmpty ⟨"br", [], false⟩
  else if name = "form" then b.closeForm
  else if name = "template" then b.closeTemplate
  else if name = "body" ∨ name = "html" then b
  else if name = "a" ∨ name = "nobr" ∨ formattingNames.contains name then b.closeFormatting name
  else if name = "li" then
    if b.inScopeNamed listScope [name] then b.popThrough [name] else b
  else if headingNames.contains name then
    if b.inScopeNamed defaultScope headingNames then b.popThrough headingNames else b
  else if blockNames.contains name ∨ ["button", "listing", "pre", "dd", "dt"].contains name then
    if b.inScopeNamed defaultScope [name] then b.popThrough [name] else b
  else if ["applet", "marquee", "object"].contains name then
    if b.inScopeNamed defaultScope [name] then (b.popThrough [name]).clearFormatting else b
  else b.closeOther name

/-- A token among text. -/
def body (b : Builder) (token : Token) : Builder :=
  match token with
  | .text t => b.reconstruct.addText t
  | .opening tag => b.openBody tag
  | .closing name => b.closeBody name
  | .null => b
  | .comment => b
  | .nothing => b

end Builder

end MarkedVerse.Html
