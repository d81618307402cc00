import MarkedVerse.Text.Field
import MarkedVerse.Text.Digits

/-!
# Writing JSON

The values that are written as JSON, and their form over several lines: each element and each
member stands on a line of its own, two spaces deeper than what encloses it. An empty array or
object stays on its line.
-/

namespace MarkedVerse

/-- A value to be written as JSON. Members keep their order. -/
inductive JsonValue where
  | null
  | bool (b : Bool)
  | number (n : Nat)
  | string (t : Text)
  | array (elements : List JsonValue)
  | object (members : List (String × JsonValue))

namespace JsonValue

/-- A character inside a string. Quotes, backslashes and controls below U+0020 are escaped. -/
def escape (c : Char) : Text :=
  if c = '"' then ['\\', '"']
  else if c = '\\' then ['\\', '\\']
  else if c = '\n' then ['\\', 'n']
  else if c = '\r' then ['\\', 'r']
  else if c = '\t' then ['\\', 't']
  else if c.toNat = 0x08 then ['\\', 'b']
  else if c.toNat = 0x0C then ['\\', 'f']
  else if c.toNat < 0x20 then
    ['\\', 'u', '0', '0', Nat.digitChar (c.toNat / 16), Nat.digitChar (c.toNat % 16)]
  else [c]

/-- A string with its quotes. -/
def quote (t : Text) : Text :=
  '"' :: t.flatMap escape ++ ['"']

/-- The start of a line at this depth. -/
def newLine (depth : Nat) : Text :=
  '\n' :: Text.spaces (2 * depth)

mutual

/-- The value at this depth, over several lines. -/
def print (depth : Nat) : JsonValue → Text
  | null => "null".toList
  | bool true => "true".toList
  | bool false => "false".toList
  | number n => Text.decimal n
  | string t => quote t
  | array [] => ['[', ']']
  | array (e :: elements) =>
    '[' :: newLine (depth + 1) ++ print (depth + 1) e ++ printElements (depth + 1) elements ++
      newLine depth ++ [']']
  | object [] => ['\x7b', '\x7d']
  | object ((key, v) :: members) =>
    '\x7b' :: newLine (depth + 1) ++ quote key.toList ++ [':', ' '] ++ print (depth + 1) v ++
      printMembers (depth + 1) members ++ newLine depth ++ ['\x7d']

/-- The further elements of an array. -/
def printElements (depth : Nat) : List JsonValue → Text
  | [] => []
  | e :: elements => ',' :: newLine depth ++ print depth e ++ printElements depth elements

/-- The further members of an object. -/
def printMembers (depth : Nat) : List (String × JsonValue) → Text
  | [] => []
  | (key, v) :: members =>
    ',' :: newLine depth ++ quote key.toList ++ [':', ' '] ++ print depth v ++
      printMembers depth members

end

/-- The value over several lines. -/
def pretty (v : JsonValue) : Text :=
  print 0 v

end JsonValue

end MarkedVerse
