import MarkedVerse.Html.Markup
import MarkedVerse.Html.Reference

/-!
# Reading a tag

A tag is read character by character from its name up to the bracket that closes it. Names are
kept in lower case, values have their references resolved, and of several attributes with one name
the first one counts.
-/

namespace MarkedVerse.Html

/-- A tag without its brackets. -/
structure Tag where
  name : String
  attributes : List Attribute
  selfClosing : Bool
  deriving DecidableEq, Repr

/-- The blanks of markup. -/
def isBlank (c : Char) : Bool :=
  c == ' ' || c == '\n' || c == '\t' || c == '\x0c' || c == '\r'

/-- A character as it is kept: the null character is replaced. -/
def keepChar (c : Char) : Char :=
  if c = '\x00' then '\uFFFD' else c

/-- Where the reading of a tag stands. Names and values are held in reverse. -/
inductive TagPlace where
  | name (name : Text)
  | between
  | slash
  | key (key : Text)
  | afterKey (key : Text)
  | beforeValue (key : Text)
  | quoted (key : Text) (quote : Char) (value : Text)
  | bare (key : Text) (value : Text)
  | afterQuoted
  | closed
  deriving DecidableEq, Repr

/-- A tag as far as it has been read. -/
structure TagReader where
  tag : Tag
  place : TagPlace
  deriving DecidableEq, Repr

namespace TagReader

/-- Before the first character of the name. -/
def start : TagReader :=
  ⟨⟨"", [], false⟩, .name []⟩

/-- Goes on at another place. -/
def go (r : TagReader) (place : TagPlace) : TagReader :=
  { r with place }

/-- Ends the name of the tag. -/
def endName (r : TagReader) (name : Text) (place : TagPlace) : TagReader :=
  ⟨{ r.tag with name := String.ofList name.reverse }, place⟩

/-- Ends an attribute; a second one of its name is dropped. -/
def endAttribute (r : TagReader) (key value : Text) (place : TagPlace) : TagReader :=
  let key := String.ofList key.reverse
  if r.tag.attributes.any (·.name == key) then r.go place
  else
    let found := ⟨key, Reference.decodeValue value.reverse⟩
    ⟨{ r.tag with attributes := r.tag.attributes ++ [found] }, place⟩

/-- A character of a name. -/
def nameChar (c : Char) : Char :=
  (keepChar c).toLower

/-- The place after a character between attributes. -/
def stepBetween (r : TagReader) (c : Char) : TagReader :=
  if isBlank c then r.go .between
  else if c = '/' then r.go .slash
  else if c = '>' then r.go .closed
  else r.go (.key [nameChar c])

/-- Reads one more character. -/
def step (r : TagReader) (c : Char) : TagReader :=
  match r.place with
  | .name name =>
    if isBlank c then r.endName name .between
    else if c = '/' then r.endName name .slash
    else if c = '>' then r.endName name .closed
    else r.go (.name (nameChar c :: name))
  | .between => r.stepBetween c
  | .slash =>
    if c = '>' then ⟨{ r.tag with selfClosing := true }, .closed⟩ else r.stepBetween c
  | .key key =>
    if isBlank c then r.go (.afterKey key)
    else if c = '/' then r.endAttribute key [] .slash
    else if c = '=' then r.go (.beforeValue key)
    else if c = '>' then r.endAttribute key [] .closed
    else r.go (.key (nameChar c :: key))
  | .afterKey key =>
    if isBlank c then r
    else if c = '/' then r.endAttribute key [] .slash
    else if c = '=' then r.go (.beforeValue key)
    else if c = '>' then r.endAttribute key [] .closed
    else r.endAttribute key [] (.key [nameChar c])
  | .beforeValue key =>
    if isBlank c then r
    else if c = '"' ∨ c = '\'' then r.go (.quoted key c [])
    else if c = '>' then r.endAttribute key [] .closed
    else r.go (.bare key [keepChar c])
  | .quoted key quote value =>
    if c = quote then r.endAttribute key value .afterQuoted
    else r.go (.quoted key quote (keepChar c :: value))
  | .bare key value =>
    if isBlank c then r.endAttribute key value .between
    else if c = '>' then r.endAttribute key value .closed
    else r.go (.bare key (keepChar c :: value))
  | .afterQuoted => r.stepBetween c
  | .closed => r

/-- The tag at the front of a text, and the text behind it. A tag that is not closed is none. -/
def read (r : TagReader) : Text → Option (Tag × Text)
  | [] => none
  | c :: t =>
    let r := r.step c
    if r.place = .closed then some (r.tag, t) else r.read t

/-- A tag takes at least one character. -/
theorem length_read {r : TagReader} {t rest : Text} {tag : Tag}
    (h : r.read t = some (tag, rest)) : rest.length < t.length := by
  induction t generalizing r with
  | nil => simp [read] at h
  | cons c t ih =>
    simp only [read] at h
    split at h
    · simp_all
    · exact Nat.lt_succ_of_lt (ih h)

end TagReader

/-- Reads a tag behind its opening bracket. -/
def readTag (t : Text) : Option (Tag × Text) :=
  TagReader.start.read t

end MarkedVerse.Html
