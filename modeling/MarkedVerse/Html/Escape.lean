import MarkedVerse.Text.Basic

/-!
# Escaping text in HTML

Two ways of writing a text: with every character that means something anywhere in HTML as a
reference, which is safe in any place, and with only what has to be escaped in text or in the value
of an attribute.
-/

namespace MarkedVerse.Html

/-- A character as it may stand anywhere in HTML. -/
def guardChar (c : Char) : Text :=
  match c with
  | '<' => "&lt;".toList
  | '>' => "&gt;".toList
  | '"' => "&quot;".toList
  | '\'' => "&apos;".toList
  | '`' => "&grave;".toList
  | '&' => "&amp;".toList
  | '/' => "&#47;".toList
  | '=' => "&#61;".toList
  | ' ' => "&#32;".toList
  | '\t' => "&#9;".toList
  | '\n' => "&#10;".toList
  | '\x0c' => "&#12;".toList
  | '\r' => "&#13;".toList
  | '\x00' => "&#65533;".toList
  | c => [c]

/-- A text as it may stand anywhere in HTML. -/
def guard (t : Text) : Text :=
  t.flatMap guardChar

/-- A character as it may stand in text. -/
def escapeChar (c : Char) : Text :=
  match c with
  | '&' => "&amp;".toList
  | '<' => "&lt;".toList
  | '>' => "&gt;".toList
  | '\u00a0' => "&nbsp;".toList
  | c => [c]

/-- A text between tags. -/
def escapeText (t : Text) : Text :=
  t.flatMap escapeChar

/-- A character as it may stand in a quoted value. -/
def escapeValueChar (c : Char) : Text :=
  match c with
  | '&' => "&amp;".toList
  | '"' => "&quot;".toList
  | '\u00a0' => "&nbsp;".toList
  | c => [c]

/-- The value of an attribute between its quotes. -/
def escapeValue (t : Text) : Text :=
  t.flatMap escapeValueChar

end MarkedVerse.Html
