import MarkedVerse.Style
import MarkedVerse.Text.Field
import MarkedVerse.Text.Lines
import MarkedVerse.Text.Width

/-!
# Screens

A screen is a grid of cells. Each cell shows one grapheme cluster in its colours; a cluster that
takes two cells stands in the first of them, and the second stays blank. Paragraphs and frames are
drawn into areas, and nothing is ever drawn outside of its area.
-/

namespace MarkedVerse

/-- A cell. A colour that was never set is the terminal's own. -/
structure Cell where
  symbol : Text
  style : Style
  deriving DecidableEq, Repr

/-- A cell that nothing was drawn in. -/
def Cell.blank : Cell :=
  ⟨[' '], .plain⟩

/-- A rectangle of cells. -/
structure Area where
  x : Nat
  y : Nat
  width : Nat
  height : Nat
  deriving DecidableEq, Repr

/-- A grid of cells, row by row. -/
structure Screen where
  rows : List (List Cell)
  deriving DecidableEq, Repr

namespace Style

/-- The style with what another one sets. -/
def overlay (base top : Style) : Style where
  foreground := top.foreground <|> base.foreground
  background := top.background <|> base.background
  bold := base.bold || top.bold
  italic := base.italic || top.italic

end Style

namespace Screen

/-- A screen of this size without anything on it. -/
def blank (width height : Nat) : Screen :=
  ⟨List.replicate height (List.replicate width .blank)⟩

/-- Changes the cells of a list from position `start` on, `count` of them. -/
def modifyRange {α : Type} (f : α → α) (start count : Nat) (cells : List α) : List α :=
  cells.take start ++ ((cells.drop start).take count).map f ++ cells.drop (start + count)

/-- Changes the rows of an area. -/
def modifyRows (s : Screen) (y height : Nat) (f : List Cell → List Cell) : Screen :=
  ⟨modifyRange f y height s.rows⟩

/-- Sets the style of every cell of an area. -/
def fill (s : Screen) (a : Area) (style : Style) : Screen :=
  s.modifyRows a.y a.height
    (modifyRange (fun cell => { cell with style := cell.style.overlay style }) a.x a.width)

/-! ## Widths of symbols -/

/-- The cells of a sequence of characters with a pictograph: a sign that is drawn as a picture
takes two. -/
def pictureWidth (symbol : Text) : Nat :=
  if symbol.contains '\uFE0F' then 2
  else if symbol.contains '\uFE0E' then 1
  else min 2 (total Text.charWidth symbol)

/-- The cells that a cluster takes on the screen. -/
def symbolWidth (symbol : Text) : Nat :=
  if symbol.any fun c => Text.inRanges c.toNat Text.Cluster.pictographRanges ||
      c.toNat == 0x20E3 then pictureWidth symbol
  else total Text.charWidth symbol

/-! ## Rows of text -/

/-- Where a row starts in its area. -/
inductive Anchor where
  | left
  | middle
  | right
  deriving DecidableEq, Repr

/-- The clusters of a row, each in its style, drawn over the style of the paragraph. -/
def symbols (row : Row) : List (Text × Style) :=
  row.flatMap fun span =>
    ((Text.clusters span.text).filter fun g => g != ['\n']).map fun g => (g, span.style)

/-- The clusters that fit into so many cells, in front of the first one that does not. Clusters
that are wider than the whole row are left out. -/
def fitting (width used : Nat) : List (Text × Style) → List (Text × Style)
  | [] => []
  | (g, style) :: rest =>
    let w := symbolWidth g
    if width < w then fitting width used rest
    else if width < used + w then []
    else (g, style) :: fitting width (used + w) rest

/-- The first cell of a row that takes `used` cells of an area. -/
def offset (a : Anchor) (width used : Nat) : Nat :=
  match a with
  | .left => 0
  | .middle => width / 2 - used / 2
  | .right => width - used

/-- Draws clusters into cells from position `x` on. A cluster without a cell of its own is not
drawn. -/
def drawSymbols (cells : List Cell) (x : Nat) : List (Text × Style) → List Cell
  | [] => cells
  | (g, style) :: rest =>
    let w := symbolWidth g
    if w = 0 then drawSymbols cells x rest
    else
      drawSymbols (cells.modify x fun cell => ⟨g, cell.style.overlay style⟩) (x + w) rest

/-- Draws one row of text into the cells of a row of the screen. -/
def drawRow (a : Anchor) (x width : Nat) (row : Row) (cells : List Cell) : List Cell :=
  let shown := fitting width 0 (symbols row)
  let used := total (fun g => symbolWidth g.1) shown
  drawSymbols cells (x + offset a width used) shown

/-- Draws rows of text one below the other. -/
def drawRows (s : Screen) (anchor : Anchor) (a : Area) : List Row → Screen
  | [] => s
  | row :: rows =>
    if a.height = 0 then s
    else
      drawRows (s.modifyRows a.y 1 (drawRow anchor a.x a.width row)) anchor
        { a with y := a.y + 1, height := a.height - 1 } rows

/-- Draws a paragraph: its style fills the area, and its rows are cut at the right edge. -/
def paragraph (s : Screen) (a : Area) (style : Style) (anchor : Anchor) (rows : List Row) :
    Screen :=
  if a.width = 0 then s else (s.fill a style).drawRows anchor a rows

/-- Draws the rows of text that stand below the first `scroll` ones. The number of the row behind the
last one that the area can show is a sum of 16 bits. When it has more, nothing comes of the drawing:
the program ends there. -/
def drawBelow? (s : Screen) (a : Area) (scroll : Nat) (rows : List Row) : Option Screen :=
  if a.width = 0 ∨ a.height = 0 ∨ rows.isEmpty then some s
  else if scroll + a.height < UInt16.size then some (s.drawRows .left a (rows.drop scroll))
  else none

/-- The rows of an unstyled text. -/
def plainRows (t : Text) : List Row :=
  (Text.lines t).map fun line => [⟨line, .plain⟩]

/-! ## Frames -/

/-- Draws one symbol into every cell of an area. -/
def stamp (s : Screen) (a : Area) (symbol : Char) (style : Style) : Screen :=
  s.modifyRows a.y a.height
    (modifyRange (fun cell => ⟨[symbol], cell.style.overlay style⟩) a.x a.width)

/-- Draws the left and the right edge of an area. -/
def drawSides (s : Screen) (a : Area) (style : Style) : Screen :=
  if a.width = 0 then s
  else
    (s.stamp { a with width := 1 } '│' style).stamp
      { a with x := a.x + a.width - 1, width := 1 } '│' style

/-- Draws a frame along the edges of an area, with a title on its upper edge. -/
def drawFrame (s : Screen) (a : Area) (style : Style) (title : Text) : Screen :=
  if a.width = 0 ∨ a.height = 0 then s
  else
    let right := a.x + a.width - 1
    let bottom := a.y + a.height - 1
    let s := s.drawSides a style
    let s := s.stamp { a with height := 1 } '─' style
    let s := s.stamp { a with y := bottom, height := 1 } '─' style
    let s := s.stamp ⟨right, bottom, 1, 1⟩ '┘' style
    let s := s.stamp ⟨right, a.y, 1, 1⟩ '┐' style
    let s := s.stamp ⟨a.x, bottom, 1, 1⟩ '└' style
    let s := s.stamp ⟨a.x, a.y, 1, 1⟩ '┌' style
    s.drawRows .left ⟨a.x + 1, a.y, a.width - 2, 1⟩ [[⟨title, .plain⟩]]

/-- The area between the left and the right edge. -/
def insideSides (a : Area) : Area :=
  ⟨min (a.x + 1) (a.x + a.width), a.y, a.width - 2, a.height⟩

/-- The area inside a frame. -/
def insideFrame (a : Area) : Area :=
  ⟨min (a.x + 1) (a.x + a.width), min (a.y + 1) (a.y + a.height), a.width - 2, a.height - 2⟩

end Screen

end MarkedVerse
