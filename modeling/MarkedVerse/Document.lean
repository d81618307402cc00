import MarkedVerse.Section
import MarkedVerse.Insertion
import MarkedVerse.Template.Apply

/-!
# Marked documents

The marked text is all that a document is: sections and markers are read off it whenever they are
needed, and an edit gives a new document.
-/

namespace MarkedVerse

/-- A document, as its marked text. -/
structure Document where
  text : Text
  deriving DecidableEq, Repr, Inhabited

namespace Document

/-- The document with this text. -/
def ofString (s : String) : Document :=
  ⟨s.toList⟩

/-- The text of the document. -/
def toString (d : Document) : String :=
  String.ofList d.text

/-- The sections of the document. -/
def sections (d : Document) : List Section :=
  Section.parse d.text

/-- The document after a template, and what the template did. -/
def applyTemplate (d : Document) (p : Pattern) : Except TemplateError (Document × Template.Mode) :=
  (Template.apply d.text p).map fun outcome => (⟨outcome.text⟩, outcome.mode)

/-- The document with a break in place of a selection, and the new position of the caret. -/
def insertBreak (d : Document) (start stop : Nat) (style : Alignment) : Document × Nat :=
  let inserted := Insertion.insertBreak d.text start stop style
  (⟨inserted.text⟩, inserted.caret)

/-- The text without markers. -/
def strip (d : Document) : Text :=
  Segment.strip d.text

end Document

end MarkedVerse
