/-!
# Texts

A text is the list of its characters, so that every rule on marked verse is a recursion or a fold
over characters. The module holds the operations that need no character class: the size in
encoded bytes, a literal at the front of a text, ASCII case folding, and cutting at a character.
-/

namespace MarkedVerse

/-- A text, as the list of its characters. -/
abbrev Text := List Char

/-- The sizes of the elements of a list, taken together. -/
def total {α : Type} (size : α → Nat) : List α → Nat
  | [] => 0
  | x :: xs => size x + total size xs

/-- The total over two lists is the sum of their totals. -/
@[simp]
theorem total_append {α : Type} (size : α → Nat) (xs ys : List α) :
    total size (xs ++ ys) = total size xs + total size ys := by
  induction xs with
  | nil => simp [total]
  | cons x xs ih => simp [total, ih, Nat.add_assoc]

namespace Text

/-- The number of bytes that the UTF-8 form of the text takes. -/
def byteLength (t : Text) : Nat :=
  total Char.utf8Size t

/-- What follows `literal` when the text starts with it. -/
def dropLiteral? : (literal : Text) → Text → Option Text
  | [], t => some t
  | _ :: _, [] => none
  | c :: literal, d :: t => if c = d then dropLiteral? literal t else none

/-- The text with the letters A to Z in lower case; every other character stays. -/
def lower (t : Text) : Text :=
  t.map Char.toLower

/-- Two names are the same when they differ only in the case of ASCII letters. -/
def sameName (a b : String) : Bool :=
  lower a.toList == lower b.toList

/-- Puts a character in front of the first piece. -/
def consHead (c : Char) : List Text → List Text
  | [] => [[c]]
  | piece :: pieces => (c :: piece) :: pieces

/-- The pieces between the occurrences of `mark`; there is one more piece than marks. -/
def splitOn (mark : Char) : Text → List Text
  | [] => [[]]
  | c :: t => if c = mark then [] :: splitOn mark t else consHead c (splitOn mark t)

/-- Adjacent pieces with `gap` between them. -/
def join (gap : Text) (pieces : List Text) : Text :=
  gap.intercalate pieces

/-- Replaces the characters with positions from `start` up to `stop` by `replacement`. -/
def replaceRange (t : Text) (start stop : Nat) (replacement : Text) : Text :=
  t.take start ++ replacement ++ t.drop stop

/-- A literal and what follows it make up the text. -/
theorem dropLiteral?_eq_some {literal t rest : Text} (h : dropLiteral? literal t = some rest) :
    t = literal ++ rest := by
  induction literal generalizing t with
  | nil => simp_all [dropLiteral?]
  | cons c literal ih =>
    cases t with
    | nil => simp [dropLiteral?] at h
    | cons d t =>
      by_cases hc : c = d
      · subst hc
        simp only [dropLiteral?, if_true] at h
        simp [ih h]
      · simp [dropLiteral?, hc] at h

end Text

end MarkedVerse
