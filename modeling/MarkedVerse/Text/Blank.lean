import MarkedVerse.Text.Basic

/-!
# Blank characters

The blank characters are those with the Unicode property White_Space. Trimming removes them from
the ends of a text, and the words of a text are its maximal runs of other characters.
-/

namespace MarkedVerse.Text

/-- The characters with the property White_Space. -/
def isBlank (c : Char) : Bool :=
  let n := c.toNat
  (0x09 ≤ n && n ≤ 0x0D) || n == 0x20 || n == 0x85 || n == 0xA0 || n == 0x1680 ||
    (0x2000 ≤ n && n ≤ 0x200A) || n == 0x2028 || n == 0x2029 || n == 0x202F || n == 0x205F ||
    n == 0x3000

/-- The text without the blanks at its front. -/
def trimStart (t : Text) : Text :=
  t.dropWhile isBlank

/-- The text without the blanks at its back. -/
def trimEnd (t : Text) : Text :=
  (t.reverse.dropWhile isBlank).reverse

/-- The text without the blanks at both ends. -/
def trim (t : Text) : Text :=
  trimEnd (trimStart t)

/-- The maximal runs of characters outside a class, in order. -/
def runsOutside (p : Char → Bool) : Text → List Text
  | [] => []
  | c :: t =>
    if p c then runsOutside p t
    else (c :: t.takeWhile fun d => !p d) :: runsOutside p (t.dropWhile fun d => !p d)
  termination_by t => t.length
  decreasing_by
    · simp
    · have := (List.dropWhile_sublist (l := t) fun d => !p d).length_le
      simp only [List.length_cons]
      omega

/-- The words of a text. -/
def words (t : Text) : List Text :=
  runsOutside isBlank t

/-- The lines of a text between line feeds, trimmed, without those that are blank. -/
def verseLines (t : Text) : List Text :=
  ((splitOn '\n' t).map trim).filter fun line => !line.isEmpty

end MarkedVerse.Text
