import MarkedVerse.Html.Escape
import MarkedVerse.Layout
import MarkedVerse.Text.Digits

/-!
# The markup of a document

A document is written as HTML piece by piece: tags, line ends between them, and lines of verse.
Only a line of verse comes from the document, and it is guarded when the pieces are printed.
-/

namespace MarkedVerse.Html

/-- An attribute with its value. -/
structure Attribute where
  name : String
  value : Text
  deriving DecidableEq, Repr

/-- A piece of markup. -/
inductive Piece where
  | opening (tag : String) (attributes : List Attribute)
  | closing (tag : String)
  | line (t : Text)
  | lineEnd
  deriving DecidableEq, Repr

namespace Piece

/-- An attribute inside a tag. -/
def printAttribute (a : Attribute) : Text :=
  ' ' :: a.name.toList ++ ['=', '"'] ++ a.value ++ ['"']

/-- A piece as it is written, when lines of verse are written by `write`. -/
def print (write : Text → Text) : Piece → Text
  | opening tag attributes =>
    '<' :: tag.toList ++ attributes.flatMap printAttribute ++ ['>']
  | closing tag => '<' :: '/' :: tag.toList ++ ['>']
  | line t => write t
  | lineEnd => ['\n']

end Piece

/-- The identifier of the element of a verse. -/
def verseId (verse : Nat) : Text :=
  "verse-".toList ++ Text.decimal verse

/-- The attribute with these classes. -/
def classes (names : List String) : Attribute :=
  ⟨"class", Text.join [' '] (names.map String.toList)⟩

/-- The class of an alignment. -/
def alignClass : Alignment → String
  | .right => "align-right"
  | .center => "align-center"
  | .indent => "align-indent"
  | .left => "align-left"

/-- A divider with these classes. -/
def ruleMarkup (names : List String) : List Piece :=
  [.opening "hr" [classes names], .lineEnd]

/-- A line of verse in a paragraph of this class. -/
def lineMarkup (name : String) (line : Text) : List Piece :=
  [.opening "p" [classes [name]], .line line, .closing "p", .lineEnd]

/-- The tag of a block. -/
def blockTag (b : Content) : String :=
  if b.isHeader then "header" else "section"

/-- The classes of a block. -/
def blockClasses (b : Content) : List String :=
  [if b.isHeader then "verse-header" else "verse", alignClass b.style, b.spacing.className] ++
    (if b.shape = .couplet then ["couplet"] else []) ++
    (if b.highlighted then ["highlight"] else [])

/-- The number of a verse. -/
def badgeMarkup (number : Nat) : List Piece :=
  [.opening "span" [classes ["verse-number"]], .line (Text.decimal number), .closing "span",
   .lineEnd]

/-- The lines of a block; those of a couplet are kept together. -/
def linesMarkup (b : Content) : List Piece :=
  match b.shape with
  | .couplet =>
    [.opening "div" [classes ["couplet"]], .lineEnd] ++ b.lines.flatMap (lineMarkup "hemistich") ++
      [.closing "div", .lineEnd]
  | .lines => b.lines.flatMap (lineMarkup "line")

/-- A block of text. -/
def contentMarkup (b : Content) : List Piece :=
  (if b.framed then ruleMarkup ["divider", "divider-frame"] else []) ++
    [.opening (blockTag b)
      (classes (blockClasses b) :: (b.verse.map fun v => ⟨"id", verseId v⟩).toList), .lineEnd] ++
    (b.badge.map badgeMarkup).getD [] ++ linesMarkup b ++ [.closing (blockTag b), .lineEnd]

/-- A block. -/
def blockMarkup : Block → List Piece
  | .divider _ margin => ruleMarkup ["divider", margin.className]
  | .content b => contentMarkup b

/-- The markup of a document with these blocks. -/
def markup (blocks : List Block) : List Piece :=
  [.opening "div" [classes ["verse-document"], ⟨"dir", "rtl".toList⟩], .lineEnd] ++
    blocks.flatMap blockMarkup ++ [.closing "div", .lineEnd]

/-- The HTML of a document. -/
def render (sections : List Section) (config : RenderConfig) : Text :=
  (markup (Layout.blocks config sections)).flatMap (Piece.print guard)

/-- Each verse with the identifier of its element, in order. -/
def anchors (sections : List Section) (config : RenderConfig) : List (Nat × Text) :=
  (Layout.blocks config sections).filterMap fun b =>
    (Layout.verse? b).map fun v => (v, verseId v)

end MarkedVerse.Html
