import MarkedVerse.Segment
import MarkedVerse.Template.Catalog
import MarkedVerse.Template.Edit

/-!
# Applying a template

A text with breaks keeps them, and each gets the style that the pattern has for its index. A text
without breaks gets one between every two paragraphs. Headers are never touched.
-/

namespace MarkedVerse.Template

/-- What applying a template did. -/
inductive Mode where
  /-- So many breaks were restyled. -/
  | restyle (markers : Nat)
  /-- So many breaks were inserted. -/
  | insert (breaks : Nat)
  deriving DecidableEq, Repr

/-- The text after a template was applied. -/
structure Outcome where
  text : Text
  mode : Mode
  deriving DecidableEq, Repr

/-- The edits that restyle breaks, the first of which has this index. -/
def restyleEdits (p : Pattern) (index : Nat) : List Segment.Placed → List Edit
  | [] => []
  | b :: breaks =>
    ⟨b.start, b.stop, (p.styleAt index).breakLiteral⟩ :: restyleEdits p (index + 1) breaks

/-- Each paragraph, with the break before it that has this index. -/
def insertedAfter (p : Pattern) (index : Nat) : List Text → Text
  | [] => []
  | paragraph :: rest =>
    ['\n', '\n'] ++ (p.styleAt index).breakLiteral ++ ['\n', '\n'] ++ paragraph ++
      insertedAfter p (index + 1) rest

/-- A text without breaks, with a break between every two paragraphs. -/
def insertBreaks (t : Text) (p : Pattern) : Except TemplateError Outcome :=
  match Text.paragraphs t with
  | first :: second :: rest =>
    .ok ⟨first ++ insertedAfter p 0 (second :: rest), .insert (rest.length + 1)⟩
  | few => .error (.tooFewParagraphs few.length)

/-- Applies a pattern to a text. -/
def apply (t : Text) (p : Pattern) : Except TemplateError Outcome := do
  let p ← p.validate
  match Segment.breakPlaces t with
  | [] => insertBreaks t p
  | breaks => .ok ⟨Edit.applyAll (restyleEdits p 0 breaks) t, .restyle breaks.length⟩

end MarkedVerse.Template
