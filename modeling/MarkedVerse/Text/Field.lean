import MarkedVerse.Text.Basic

/-!
# Fields of fixed width

A field fills a text up to a number of characters with spaces. A text that is already as long
stays as it is.
-/

namespace MarkedVerse.Text

/-- So many spaces. -/
def spaces (count : Nat) : Text :=
  List.replicate count ' '

/-- The text at the right end of a field. -/
def padStart (width : Nat) (t : Text) : Text :=
  spaces (width - t.length) ++ t

/-- The text at the left end of a field. -/
def padEnd (width : Nat) (t : Text) : Text :=
  t ++ spaces (width - t.length)

end MarkedVerse.Text
