import MarkedVerse.Alignment

/-!
# Template patterns

A pattern is a named cycle of alignments. A pattern without styles can be written down but not
used.
-/

namespace MarkedVerse

/-- A named, cyclic sequence of alignments. -/
structure Pattern where
  name : String
  styles : List Alignment
  description : String
  deriving DecidableEq, Repr, Inhabited

/-- Why a template cannot be applied. -/
inductive TemplateError where
  /-- The text has this many paragraphs, fewer than two. -/
  | tooFewParagraphs (found : Nat)
  /-- The pattern of this name has no styles. -/
  | emptyPattern (name : String)
  /-- The catalog has no pattern of this name. -/
  | unknownTemplate (name : String)
  deriving DecidableEq, Repr

/-- The message for a reader. -/
def TemplateError.message : TemplateError → String
  | tooFewParagraphs found =>
    "a template needs at least 2 paragraphs separated by a blank line, found " ++ toString found
  | emptyPattern name => "template '" ++ name ++ "' has no styles"
  | unknownTemplate name => "unknown template: " ++ name

namespace Pattern

/-- The pattern has something to apply. -/
def isUsable (p : Pattern) : Bool :=
  !p.styles.isEmpty

/-- The pattern itself when it is usable. -/
def validate (p : Pattern) : Except TemplateError Pattern :=
  if p.isUsable then .ok p else .error (.emptyPattern p.name)

/-- The alignment for the break with this index, going round the pattern. -/
def styleAt (p : Pattern) (index : Nat) : Alignment :=
  (p.styles[index % max p.styles.length 1]?).getD .right

/-- The patterns that every catalog starts with. -/
def builtins : List Pattern :=
  [⟨"classic", [.right, .left], "Alternate right and left blocks"⟩,
   ⟨"centered", [.center], "Every block centred"⟩,
   ⟨"stepped", [.right, .indent], "Right blocks with indented answers"⟩,
   ⟨"cascade", [.right, .center, .left], "Blocks flow right to left"⟩,
   ⟨"ghazal", [.center, .right], "Centred refrain after each right block"⟩]

end Pattern

end MarkedVerse
