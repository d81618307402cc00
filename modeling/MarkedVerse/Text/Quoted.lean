import MarkedVerse.Text.Digits
import MarkedVerse.Text.Ranges
import MarkedVerse.Text.Cluster.Table
import MarkedVerse.Text.Quoted.Table

/-!
# Quoted text

A quoted text stands between double quotes and shows every character that a reader could not tell
from the outside: quotes and backslashes are escaped, and so are characters without a printed form
and those that would merge with the character before them.
-/

namespace MarkedVerse.Text

namespace Quoted

/-- The character has a form of its own on paper. -/
def isPrintable (c : Char) : Bool :=
  !inRanges c.toNat unprintableRanges && !inRanges c.toNat Cluster.markRanges

/-- A character as it stands between quotes. -/
def escape (c : Char) : Text :=
  if c = '"' then ['\\', '"']
  else if c = '\\' then ['\\', '\\']
  else if c = '\n' then ['\\', 'n']
  else if c = '\r' then ['\\', 'r']
  else if c = '\t' then ['\\', 't']
  else if c = '\x00' then ['\\', '0']
  else if isPrintable c then [c]
  else ['\\', 'u', '\x7b'] ++ hex c.toNat ++ ['\x7d']

end Quoted

/-- The text between quotes. -/
def quoted (t : Text) : Text :=
  '"' :: t.flatMap Quoted.escape ++ ['"']

end MarkedVerse.Text
