import MarkedVerse.Section

/-!
# Layout

Layout turns sections into blocks that a renderer can draw: where dividers stand, how much space
there is near a break, which blocks are couplets, and which number a verse has. Sections without
text leave no block.
-/

namespace MarkedVerse

/-- How a document is to be drawn. -/
structure RenderConfig where
  compact : Bool
  highlight : Bool
  /-- The verse at the reading position, counted from zero. -/
  currentVerse : Option Nat
  numbers : Bool
  deriving DecidableEq, Repr, Inhabited

namespace RenderConfig

/-- Everything off. -/
def plain : RenderConfig :=
  ⟨false, false, none, false⟩

/-- The verse is to be highlighted. -/
def highlights (config : RenderConfig) (verse : Nat) : Bool :=
  config.highlight && config.currentVerse == some verse

end RenderConfig

/-- The space around a divider. -/
inductive Margin where
  | compact
  | regular
  deriving DecidableEq, Repr

namespace Margin

/-- The margin that a configuration asks for. -/
def of (config : RenderConfig) : Margin :=
  if config.compact then compact else regular

/-- The blank rows on either side. -/
def rows : Margin → Nat
  | compact => 0
  | regular => 1

/-- The class of a divider with this margin. -/
def className : Margin → String
  | compact => "divider-compact"
  | regular => "divider-regular"

end Margin

/-- The space around a content block. -/
inductive Spacing where
  | header
  | regular
  | afterBreak
  | beforeBreak
  | enclosed
  deriving DecidableEq, Repr

namespace Spacing

/-- The spacing of a section between these neighbours. -/
def classify (s : Section) (after before : Bool) : Spacing :=
  if s.isHeader then header
  else match after, before with
    | true, true => enclosed
    | true, false => afterBreak
    | false, true => beforeBreak
    | false, false => regular

/-- The blank rows above and below. -/
def rows : Spacing → (compact : Bool) → Nat × Nat
  | header, _ => (0, 1)
  | regular, false => (0, 1)
  | regular, true => (0, 0)
  | afterBreak, false => (1, 1)
  | afterBreak, true => (1, 0)
  | beforeBreak, false => (0, 2)
  | beforeBreak, true => (0, 1)
  | enclosed, false => (1, 2)
  | enclosed, true => (1, 1)

/-- The class of a block with this spacing. -/
def className : Spacing → String
  | header => "spacing-header"
  | regular => "spacing-regular"
  | afterBreak => "spacing-after-break"
  | beforeBreak => "spacing-before-break"
  | enclosed => "spacing-enclosed"

end Spacing

/-- How the lines of a block stand to each other: two lines make a couplet. -/
inductive Shape where
  | couplet
  | lines
  deriving DecidableEq, Repr

/-- The shape of a block with these lines. -/
def Shape.of (lines : List Text) : Shape :=
  if lines.length = 2 then couplet else Shape.lines

/-- A block of text. -/
structure Content where
  /-- The position of the section that the block shows. -/
  origin : Nat
  lines : List Text
  style : Alignment
  isHeader : Bool
  spacing : Spacing
  /-- A rule stands right above the block and closes the break before it. -/
  framed : Bool
  shape : Shape
  /-- The number of the verse, counted from zero. -/
  verse : Option Nat
  /-- The number to show, counted from one. -/
  badge : Option Nat
  highlighted : Bool
  deriving DecidableEq, Repr

/-- The alignment by which a block is placed; a heading is always centred. -/
def Content.placement (b : Content) : Alignment :=
  if b.isHeader then .center else b.style

/-- A block that a renderer draws. -/
inductive Block where
  | divider (origin : Nat) (margin : Margin)
  | content (b : Content)
  deriving DecidableEq, Repr

namespace Layout

/-- The verse number of each section from the one with number `next` on; only verses have one. -/
def verseIndicesFrom (next : Nat) : List Section → List (Option Nat)
  | [] => []
  | s :: sections =>
    if s.isVerse then some next :: verseIndicesFrom (next + 1) sections
    else none :: verseIndicesFrom next sections

/-- The verse number of each section, counted from zero. -/
def verseIndices (sections : List Section) : List (Option Nat) :=
  verseIndicesFrom 0 sections

/-- The number of verses. -/
def verseCount (sections : List Section) : Nat :=
  (sections.filter Section.isVerse).length

/-- The block of a section with text between these neighbours. -/
def contentOf (config : RenderConfig) (origin : Nat) (verse : Option Nat) (after before : Bool)
    (s : Section) : Content :=
  { origin
    lines := s.lines
    style := s.style
    isHeader := s.isHeader
    spacing := .classify s after before
    framed := after && !s.isHeader
    shape := .of s.lines
    verse
    badge := if config.numbers then verse.map (· + 1) else none
    highlighted := verse.any config.highlights }

/-- The blocks of the sections from position `origin` on, where `next` is the number of the next
verse and `after` says that a break precedes. -/
def blocksFrom (config : RenderConfig) (origin next : Nat) (after : Bool) :
    List Section → List Block
  | [] => []
  | s :: sections =>
    if s.isBreak then
      .divider origin (.of config) :: blocksFrom config (origin + 1) next true sections
    else if s.hasContent then
      let before := sections.head?.any Section.isBreak
      let verse := if s.isVerse then some next else none
      .content (contentOf config origin verse after before s) ::
        blocksFrom config (origin + 1) (if s.isVerse then next + 1 else next) false sections
    else blocksFrom config (origin + 1) next false sections

/-- The blocks of a document, in order. -/
def blocks (config : RenderConfig) (sections : List Section) : List Block :=
  blocksFrom config 0 0 false sections

/-- The verse that a block shows. -/
def verse? : Block → Option Nat
  | .divider _ _ => none
  | .content b => b.verse

/-- Each verse with the position of its block. -/
def anchors (blocks : List Block) : List (Nat × Nat) :=
  blocks.zipIdx.filterMap fun (b, i) => (verse? b).map fun v => (v, i)

end Layout

end MarkedVerse
