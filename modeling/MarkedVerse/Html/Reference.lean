import MarkedVerse.Html.Reference.Table
import MarkedVerse.Text.Digits

/-!
# Character references

A reference stands for a character, or for two, by a number or by a name. Text in which an
ampersand begins no reference is kept as it is. In the value of an attribute a name without a
semicolon is no reference when the text goes on with a letter, a digit or an equals sign, so that
addresses with queries survive.
-/

namespace MarkedVerse.Html.Reference

/-- The characters that a name with its semicolon stands for. -/
def closedName? (name : Text) : Option Text :=
  match name with
  | ['a', 'm', 'p'] => some ['&']
  | ['l', 't'] => some ['<']
  | ['g', 't'] => some ['>']
  | ['q', 'u', 'o', 't'] => some ['"']
  | ['a', 'p', 'o', 's'] => some ['\'']
  | ['g', 'r', 'a', 'v', 'e'] => some ['`']
  | _ =>
    let name := String.ofList name
    match names.find? (·.1 == name), pairNames.find? (·.1 == name) with
    | some (_, n), _ => some [Char.ofNat n]
    | none, some (_, m, n) => some [Char.ofNat m, Char.ofNat n]
    | none, none => none

/-- The longest name at the front of a word that needs no semicolon: what it stands for and its
length. -/
def openName? (word : Text) : Option (Text × Nat) :=
  (List.range (word.length + 1)).reverse.findSome? fun n =>
    if openNames.contains (String.ofList (word.take n)) then
      (closedName? (word.take n)).map fun s => (s, n)
    else none

/-- A reference by name, behind its ampersand: what it stands for and its length. -/
def named? (inValue : Bool) (t : Text) : Option (Text × Nat) :=
  let word := t.takeWhile Char.isAlphanum
  match t.drop word.length, closedName? word with
  | ';' :: _, some s => some (s, word.length + 1)
  | _, _ =>
    (openName? word).filter fun (_, n) =>
      !(inValue && (t.drop n).head?.any fun c => c == '=' || c.isAlphanum)

/-- The code points from 0x80 to 0x9F mean the characters that an old encoding had there. -/
def oldEncoding : List Nat :=
  [0x20AC, 0x81, 0x201A, 0x192, 0x201E, 0x2026, 0x2020, 0x2021, 0x2C6, 0x2030, 0x160, 0x2039,
   0x152, 0x8D, 0x17D, 0x8F, 0x90, 0x2018, 0x2019, 0x201C, 0x201D, 0x2022, 0x2013, 0x2014, 0x2DC,
   0x2122, 0x161, 0x203A, 0x153, 0x9D, 0x17E, 0x178]

/-- The character of a number; numbers that have none stand for the replacement character. -/
def numbered (n : Nat) : Char :=
  if n = 0 ∨ ¬ n.isValidChar then '\uFFFD'
  else if 0x80 ≤ n then Char.ofNat ((oldEncoding[n - 0x80]?).getD n)
  else Char.ofNat n

/-- The number that digits to a base stand for. -/
def ofDigits (base : Nat) (digits : Text) : Nat :=
  digits.foldl (fun n d => n * base + (Text.hexDigit? d).getD 0) 0

/-- A reference by number whose digits begin `start` characters behind the ampersand. -/
def byNumber? (base start : Nat) (isDigit : Char → Bool) (t : Text) : Option (Text × Nat) :=
  let digits := (t.drop start).takeWhile isDigit
  let stop := start + digits.length
  if digits.isEmpty then none
  else
    some ([numbered (ofDigits base digits)],
      if (t.drop stop).head? = some ';' then stop + 1 else stop)

/-- The reference behind an ampersand: what it stands for and its length. -/
def at? (inValue : Bool) (t : Text) : Option (Text × Nat) :=
  match t with
  | '#' :: 'x' :: _ => byNumber? 16 2 (fun c => (Text.hexDigit? c).isSome) t
  | '#' :: 'X' :: _ => byNumber? 16 2 (fun c => (Text.hexDigit? c).isSome) t
  | '#' :: _ => byNumber? 10 1 Char.isDigit t
  | _ => named? inValue t

/-- Resolves the references of a text, behind the first `skip` characters, which are dropped. -/
def decodeFrom (inValue : Bool) : (skip : Nat) → Text → Text
  | _, [] => []
  | skip + 1, _ :: t => decodeFrom inValue skip t
  | 0, c :: t =>
    if c = '&' then
      match at? inValue t with
      | some (s, n) => s ++ decodeFrom inValue n t
      | none => c :: decodeFrom inValue 0 t
    else c :: decodeFrom inValue 0 t

/-- Resolves the references of a text. -/
def decode (t : Text) : Text :=
  decodeFrom false 0 t

/-- Resolves the references in the value of an attribute. -/
def decodeValue (t : Text) : Text :=
  decodeFrom true 0 t

end MarkedVerse.Html.Reference
