import MarkedVerse.Config
import MarkedVerse.Style
import MarkedVerse.Text.Field
import MarkedVerse.Text.Wrap

/-!
# Pages

A page is a document drawn in a column of a terminal. Text runs from right to left: a block
aligned right ends at the right edge of the column, and the numbers of verses stand in a gutter to
the right of it. Besides its rows, a page knows the row on which each verse starts.
-/

namespace MarkedVerse

/-- The geometry and styles of a page. -/
structure PageStyle where
  width : Nat
  indent : Nat
  ruleGlyph : Text
  highlight : Style
  badge : Style
  deriving DecidableEq, Repr

namespace PageStyle

/-- The style that a configuration asks for. Without a colour that can be read, the highlight is
yellow and the numbers are dark gray. -/
def ofConfig (r : ReaderConfig) : PageStyle :=
  let color (name : Option String) (fallback : Color) : Color :=
    (name.bind fun n => Color.ofText? n.toList).getD fallback
  { width := r.width
    indent := r.indent
    ruleGlyph := r.ruleGlyph.toList
    highlight := ⟨some .black, some (color r.highlightColor .yellow), true, false⟩
    badge := .colored (color r.numberColor .darkGray) }

/-- The style narrowed to the cells that are there; at least one cell stays. -/
def fitTo (s : PageStyle) (available : Nat) : PageStyle :=
  let width := max (min s.width available) 1
  { s with width, indent := min s.indent (width / 2) }

end PageStyle

/-- The rows of a drawn document, and the first row of text of each verse. -/
structure Page where
  rows : List Row
  verseRows : List Nat
  deriving DecidableEq, Repr

namespace Page

/-- The cells in front of a line that takes `line` cells in a column of `column` cells. Text runs
from right to left, so `indent` is measured from the right edge. -/
def leadingPadding (line column : Nat) (a : Alignment) (indent : Nat) : Nat :=
  let free := column - line
  match a with
  | .right => free
  | .indent => free - indent
  | .center => free / 2
  | .left => 0

/-- The cells kept for verse numbers, when they are shown: five, but at most a quarter of the
column. -/
def gutter (config : RenderConfig) (s : PageStyle) : Nat :=
  if config.numbers then min 5 (s.width / 4) else 0

/-- So many rows without anything in them. -/
def blankRows (count : Nat) : List Row :=
  List.replicate count []

/-- A rule of at most `length` cells, in the middle of the column. -/
def rule (s : PageStyle) (length : Nat) : Row :=
  let glyph := max (Text.width s.ruleGlyph) 1
  let count := length / glyph
  [⟨Text.spaces ((s.width - count * glyph) / 2), .plain⟩,
   ⟨(List.replicate count s.ruleGlyph).flatten, .colored .darkGray⟩]

/-- The rows of lines that stand each for itself. -/
def placeLines (lines : List Text) (a : Alignment) (column indent : Nat) : List (Nat × Text) :=
  (lines.flatMap fun line => Text.wrap line column).map fun row =>
    (leadingPadding (Text.width row) column a indent, row)

/-- The cells in front of each row of a block, and its text. The lines of a couplet that fits are
placed as one unit: the first ends at the right edge of the unit, the second starts at its left
edge. -/
def placeRows (b : Content) (column indent : Nat) : List (Nat × Text) :=
  match b.shape, b.lines with
  | .couplet, [first, second] =>
    let unit := max (Text.width first) (Text.width second)
    if unit ≤ column then
      let start := leadingPadding unit column b.placement indent
      [(start + unit - Text.width first, first), (start, second)]
    else placeLines b.lines b.placement column indent
  | _, _ => placeLines b.lines b.placement column indent

/-- The style of the text of a block. -/
def textStyle (b : Content) (s : PageStyle) : Style :=
  if b.highlighted then s.highlight
  else if b.isHeader then { Style.plain with bold := true }
  else .plain

/-- The number of a verse in the gutter, which it fills. -/
def badgeText (number gutter : Nat) : Text :=
  Text.spaces 2 ++ Text.padEnd (gutter - 2) (Text.decimal number)

/-- One row of a block. With a gutter, the row is filled up to the edge of the column, and what
stands in the gutter follows. -/
def textRow (b : Content) (s : PageStyle) (gutter : Nat) (badge : Option Nat)
    (placed : Nat × Text) : Row :=
  let (pad, t) := placed
  let body : Row := [⟨Text.spaces pad, .plain⟩, ⟨t, textStyle b s⟩]
  if gutter = 0 then body
  else
    let column := s.width - gutter
    body ++
      [⟨Text.spaces (column - (pad + Text.width t)), .plain⟩,
       ⟨(badge.map fun n => badgeText n gutter).getD [], s.badge⟩]

/-- The rows of a block's text; the badge stands on the first one. -/
def textRows (b : Content) (s : PageStyle) (gutter : Nat) : List Row :=
  match placeRows b (s.width - gutter) s.indent with
  | [] => []
  | first :: rest => textRow b s gutter b.badge first :: rest.map (textRow b s gutter none)

/-- The rows of a block, and the number of them above its text. -/
def blockRows (config : RenderConfig) (s : PageStyle) : Block → Nat × List Row
  | .divider _ margin =>
    (margin.rows, blankRows margin.rows ++ [rule s s.width] ++ blankRows margin.rows)
  | .content b =>
    let (above, below) := b.spacing.rows config.compact
    let lead := (if b.framed then [rule s (s.width / 3)] else []) ++ blankRows above
    (lead.length, lead ++ textRows b s (gutter config s) ++ blankRows below)

/-- The page of the blocks that follow `before` rows. -/
def ofBlocks (config : RenderConfig) (s : PageStyle) (before : Nat) : List Block → Page
  | [] => ⟨[], []⟩
  | b :: blocks =>
    let (lead, rows) := blockRows config s b
    let page := ofBlocks config s (before + rows.length) blocks
    ⟨rows ++ page.rows,
      if (Layout.verse? b).isSome then (before + lead) :: page.verseRows else page.verseRows⟩

/-- The page of a document. -/
def render (sections : List Section) (config : RenderConfig) (s : PageStyle) : Page :=
  ofBlocks config s 0 (Layout.blocks config sections)

/-- The first row of text of a verse. -/
def rowOf (p : Page) (verse : Nat) : Option Nat :=
  p.verseRows[verse]?

/-- The texts of a row, one after the other. -/
def rowText (row : Row) : Text :=
  row.flatMap Span.text

/-- The rows as plain text, without blanks at their ends. -/
def toPlainText (p : Page) : Text :=
  Text.join ['\n'] (p.rows.map fun row => Text.trimEnd (rowText row))

end Page

end MarkedVerse
