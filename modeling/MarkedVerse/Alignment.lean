import MarkedVerse.Text.Blank

/-!
# Alignments

The four ways in which a block of verse is placed in its column. A name is read strictly, up to
the case of its ASCII letters, or leniently as the suffix of a marker, where anything unknown
means `right`.
-/

namespace MarkedVerse

/-- How a block is placed in its column. -/
inductive Alignment where
  | right
  | center
  | indent
  | left
  deriving DecidableEq, Repr, Inhabited

/-- A name that is no alignment's. -/
structure UnknownAlignment where
  name : String
  deriving DecidableEq, Repr

/-- The message for a name that is no alignment's. -/
def UnknownAlignment.message (e : UnknownAlignment) : String :=
  "unknown alignment '" ++ e.name ++ "' (expected right, center, indent or left)"

namespace Alignment

/-- Every alignment, the default first. -/
def all : List Alignment :=
  [right, center, indent, left]

/-- The name of an alignment. -/
def name : Alignment → String
  | right => "right"
  | center => "center"
  | indent => "indent"
  | left => "left"

/-- The alignment with exactly this name. -/
def ofExactName? (name : String) : Option Alignment :=
  all.find? fun a => a.name == name

/-- The alignment of this name, up to the case of ASCII letters. -/
def ofName (name : String) : Except UnknownAlignment Alignment :=
  match all.find? fun a => Text.sameName a.name name with
  | some a => .ok a
  | none => .error ⟨name⟩

/-- The alignment that a marker's suffix asks for. Blanks around the name do not count, and a
suffix that names no alignment asks for `right`. -/
def ofSuffix (suffix : Text) : Alignment :=
  match ofName (String.ofList (Text.trim suffix)) with
  | .ok a => a
  | .error _ => right

/-- The break marker that an author writes for the alignment. The default is written without a
suffix. -/
def breakLiteral : Alignment → Text
  | right => "||BREAK||".toList
  | a => "||BREAK:".toList ++ a.name.toList ++ "||".toList

end Alignment

end MarkedVerse
