import MarkedVerse.Template.Pattern

/-!
# Template catalogs

A catalog lists patterns in the order in which they are offered. Names are compared without
regard to the case of ASCII letters.
-/

namespace MarkedVerse

/-- The patterns on offer, in order. -/
structure Catalog where
  patterns : List Pattern
  deriving DecidableEq, Repr

namespace Catalog

/-- The catalog of the built-in patterns. -/
def builtin : Catalog :=
  ⟨Pattern.builtins⟩

/-- Puts a pattern in place of the first one of its name, or behind all others. -/
def insertPattern (p : Pattern) : List Pattern → List Pattern
  | [] => [p]
  | q :: rest => if Text.sameName q.name p.name then p :: rest else q :: insertPattern p rest

/-- Adds one pattern, unless it has no styles. -/
def add (c : Catalog) (p : Pattern) : Catalog :=
  if p.isUsable then ⟨insertPattern p c.patterns⟩ else c

/-- Adds patterns one after the other. -/
def extend (c : Catalog) (patterns : List Pattern) : Catalog :=
  patterns.foldl add c

/-- The pattern of this name. -/
def get (c : Catalog) (name : String) : Except TemplateError Pattern :=
  match c.patterns.find? fun p => Text.sameName p.name name with
  | some p => .ok p
  | none => .error (.unknownTemplate name)

/-- The pattern that follows the one of this name in the order, the first one following the last.
Without a name, or with one that the catalog does not have, it is the first pattern. -/
def nextAfter (c : Catalog) (name : Option String) : Option Pattern :=
  let position := name.bind fun n => c.patterns.findIdx? fun p => Text.sameName p.name n
  match position with
  | some i => c.patterns[(i + 1) % c.patterns.length]?
  | none => c.patterns.head?

/-- The number of patterns. -/
def size (c : Catalog) : Nat :=
  c.patterns.length

end Catalog

end MarkedVerse
