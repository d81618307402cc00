import MarkedVerse.Text.Blank
import MarkedVerse.Text.Digits

/-!
# Colours and styles

A colour is one of the named ones of a terminal or given by its parts of red, green and blue. A
style sets some of the colours and modifiers of the cells that a text takes, and leaves the others
as they are.
-/

namespace MarkedVerse

/-- A colour. -/
inductive Color where
  | black
  | red
  | green
  | yellow
  | blue
  | magenta
  | cyan
  | gray
  | darkGray
  | lightYellow
  | white
  | rgb (r g b : Nat)
  deriving DecidableEq, Repr

namespace Color

/-- The value of two characters: two digits, or a plus sign and a digit. -/
def channel? (c d : Char) : Option Nat := do
  let low ← Text.hexDigit? d
  if c = '+' then pure low else pure (16 * (← Text.hexDigit? c) + low)

/-- The names of the colours; some have two spellings. -/
def names : List (String × Color) :=
  [("black", black), ("red", red), ("green", green), ("yellow", yellow), ("blue", blue),
   ("magenta", magenta), ("cyan", cyan), ("gray", gray), ("grey", gray), ("darkgray", darkGray),
   ("darkgrey", darkGray), ("white", white)]

/-- The colour that a text names: a hash sign and six digits, or a name up to the case of ASCII
letters. Blanks around it do not count. -/
def ofText? (t : Text) : Option Color :=
  match Text.trim t with
  | ['#', a, b, c, d, e, f] => do
    pure (rgb (← channel? a b) (← channel? c d) (← channel? e f))
  | t => (names.find? fun entry => entry.1.toList == Text.lower t).map Prod.snd

end Color

/-- The colours and modifiers that a style sets. -/
structure Style where
  foreground : Option Color
  background : Option Color
  bold : Bool
  italic : Bool
  deriving DecidableEq, Repr

namespace Style

/-- The style that sets nothing. -/
def plain : Style :=
  ⟨none, none, false, false⟩

/-- The style that sets the colour of the text. -/
def colored (c : Color) : Style :=
  { plain with foreground := some c }

end Style

/-- A text in one style. -/
structure Span where
  text : Text
  style : Style
  deriving DecidableEq, Repr

/-- One row of a page. -/
abbrev Row := List Span

end MarkedVerse
