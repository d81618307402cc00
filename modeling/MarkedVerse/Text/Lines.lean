import MarkedVerse.Text.Blank

/-!
# Lines

The lines of a text end with a line feed, which may have a carriage return before it. The last
line may lack its end; an empty text has no line.
-/

namespace MarkedVerse.Text

/-- A line without the carriage return at its end. -/
def dropReturn (line : Text) : Text :=
  if line.getLast? = some '\r' then line.dropLast else line

/-- The lines between pieces: every piece but the last is ended, and an empty last one is none. -/
def linesOf : List Text → List Text
  | [] => []
  | [last] => if last.isEmpty then [] else [last]
  | piece :: pieces => dropReturn piece :: linesOf pieces

/-- The lines of a text, without their ends. -/
def lines (t : Text) : List Text :=
  linesOf (splitOn '\n' t)

/-- The number of lines. -/
def lineCount (t : Text) : Nat :=
  (lines t).length

end MarkedVerse.Text
