import MarkedVerse.Html.Builder.Table

/-!
# Drawings and mathematics

Inside a drawing or a formula names mean something else. A tag that is clearly HTML ends it, and
some of its elements hold HTML again.
-/

namespace MarkedVerse.Html

namespace Builder

/-- An annotation says that it holds HTML. -/
def isHtmlAnnotation (e : Element) : Bool :=
  e.attributes.any fun a =>
    a.name == "encoding" &&
      ["text/html", "application/xhtml+xml"].contains (String.ofList (Text.lower a.value))

/-- The token follows the rules of the drawing or formula in which it stands. -/
def isForeign (b : Builder) (token : Token) : Bool :=
  match b.current? with
  | none => false
  | some e =>
    let holdsNote := e.vocabulary == .math && e.name == "annotation-xml"
    if e.vocabulary == .html then false
    else
      match token with
      | .text _ =>
        !(isMathText e || isHtmlPoint e || (holdsNote && isHtmlAnnotation e))
      | .null => !(isMathText e || isHtmlPoint e || (holdsNote && isHtmlAnnotation e))
      | .opening tag =>
        !((isMathText e && tag.name != "mglyph" && tag.name != "malignmark") || isHtmlPoint e ||
          (holdsNote && (tag.name == "svg" || isHtmlAnnotation e)))
      | _ => true

/-- Names whose tags end a drawing or formula. -/
def breakoutNames : List String :=
  ["b", "big", "blockquote", "body", "br", "center", "code", "dd", "div", "dl", "dt", "em",
   "embed", "h1", "h2", "h3", "h4", "h5", "h6", "head", "hr", "i", "img", "li", "listing", "menu",
   "meta", "nobr", "ol", "p", "pre", "ruby", "s", "small", "span", "strong", "strike", "sub",
   "sup", "table", "tt", "u", "ul", "var"]

/-- The tag ends a drawing or formula. -/
def isBreakout (tag : Tag) : Bool :=
  breakoutNames.contains tag.name ||
    (tag.name == "font" && tag.attributes.any fun a => ["color", "face", "size"].contains a.name)

/-- Closes a drawing or formula up to the place where HTML may stand. -/
def popForeign (b : Builder) : Builder :=
  b.popWhile fun e => !(e.vocabulary == .html || isMathText e || isHtmlPoint e)

/-- Opens an element inside a drawing or formula. -/
def openInForeign (b : Builder) (tag : Tag) : Builder :=
  match b.current? with
  | none => b
  | some e =>
    let name :=
      if e.vocabulary == .svg && tag.name == "foreignobject" then "foreignObject" else tag.name
    b.openForeign e.vocabulary { tag with name }

/-- What a closing tag means in a drawing or formula. -/
inductive ForeignEnd where
  /-- Nothing. -/
  | ignored
  /-- Only these elements stay open. -/
  | closed (stack : List Nat)
  /-- It is about the HTML outside. -/
  | outside

/-- Looks for the element that a closing tag ends, from the inside out. -/
def foreignEnd (name : String) (isFirst : Bool) : List (Nat × Element) → ForeignEnd
  | [] => .ignored
  | [_] => .ignored
  | (_, e) :: rest =>
    if !isFirst && e.vocabulary == .html then .outside
    else if Text.sameName e.name name then .closed (rest.map Prod.fst)
    else foreignEnd name false rest

/-- A token in a template takes the mode from the first tag that tells what the template is. -/
def inTemplate (b : Builder) (token : Token) : Step :=
  let become := fun mode =>
    Step.again { b with mode, templates := mode :: b.templates.drop 1 }
  match token with
  | .text _ => .done (b.body token)
  | .opening tag =>
    if ["base", "basefont", "bgsound", "link", "meta", "noframes", "script", "style", "template",
        "title"].contains tag.name then .done (b.openBody tag)
    else if ["caption", "colgroup", "tbody", "tfoot", "thead"].contains tag.name then
      become .table
    else if tag.name = "col" then become .columns
    else if tag.name = "tr" then become .tableBody
    else if tag.name = "td" ∨ tag.name = "th" then become .row
    else become .body
  | .closing name => .done (if name = "template" then b.closeTemplate else b)
  | _ => .done b

/-- A token under the rules of the mode. -/
def byMode (b : Builder) (token : Token) : Step :=
  match b.mode with
  | .body => .done (b.body token)
  | .text =>
    match token with
    | .text t => .done (b.addText t)
    | .closing _ => .done (b.pop.enter b.outerMode)
    | _ => .done b
  | .table => b.inTable token
  | .tableText => b.inTableText token
  | .caption => b.inCaption token
  | .columns => b.inColumns token
  | .tableBody => b.inRows token
  | .row => b.inRow token
  | .cell => b.inCell token
  | .select => b.inSelect token
  | .selectInTable => b.inSelectInTable token
  | .template => b.inTemplate token

/-- A token in a drawing or formula. -/
def inForeign (b : Builder) (token : Token) : Step :=
  match token with
  | .text t => .done (b.addText t)
  | .null => .done (b.addText ['\uFFFD'])
  | .opening tag =>
    if isBreakout tag then b.popForeign.byMode token else .done (b.openInForeign tag)
  | .closing name =>
    if name = "br" ∨ name = "p" then b.popForeign.byMode token
    else
      match foreignEnd name true b.openElements with
      | .ignored => .done b
      | .closed stack => .done { b with stack }
      | .outside => b.byMode token
  | _ => .done b

end Builder

end MarkedVerse.Html
