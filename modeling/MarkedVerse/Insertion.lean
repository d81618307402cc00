import MarkedVerse.Alignment

/-!
# Inserting a break

A break is inserted at a caret, in place of the characters that a selection covers. It gets an
empty line on either side, so it always separates what stands before it from what stands after.
-/

namespace MarkedVerse

/-- A text after an insertion, and the number of characters in front of the caret. -/
structure Insertion where
  text : Text
  caret : Nat
  deriving DecidableEq, Repr

namespace Insertion

/-- The text with a break in place of the characters from `start` up to `stop`. Positions behind
the end mean the end, and a selection that ends before it starts is empty. The caret goes behind
what was inserted. -/
def insertBreak (t : Text) (start stop : Nat) (style : Alignment) : Insertion :=
  let start := min start t.length
  let stop := max start (min stop t.length)
  let inserted := ['\n', '\n'] ++ style.breakLiteral ++ ['\n', '\n']
  ⟨Text.replaceRange t start stop inserted, start + inserted.length⟩

end Insertion

end MarkedVerse
