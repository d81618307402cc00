import MarkedVerse.Text.Basic

/-!
# Edits

An edit writes a new text in place of a range of characters. Edits are carried out from the end of
the text to its start, so that none of them moves the range of another.
-/

namespace MarkedVerse

/-- A new text for the characters from `start` up to `stop`. -/
structure Edit where
  start : Nat
  stop : Nat
  newText : Text
  deriving DecidableEq, Repr

namespace Edit

/-- Carries out one edit. -/
def apply (e : Edit) (t : Text) : Text :=
  Text.replaceRange t e.start e.stop e.newText

/-- Carries out all edits, those with the greatest start first. -/
def applyAll (edits : List Edit) (t : Text) : Text :=
  (edits.mergeSort fun a b => decide (b.start ≤ a.start)).foldl (fun t e => e.apply t) t

end Edit

end MarkedVerse
