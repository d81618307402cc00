import MarkedVerse.Json.Value
import MarkedVerse.Section
import MarkedVerse.Text.Quoted

/-!
# Listings

A listing shows the sections of a document, either a line for each or as JSON.
-/

namespace MarkedVerse.Listing

/-- The line of a section with this position. -/
def line (index : Nat) (s : Section) : Text :=
  let number := Text.padStart 3 (Text.decimal index)
  if s.isBreak then number ++ "  break".toList
  else
    let kind := if s.isHeader then "header" else "text"
    number ++ Text.spaces 2 ++ Text.padEnd 6 kind.toList ++ Text.spaces 2 ++
      Text.padEnd 6 s.style.name.toList ++ Text.spaces 2 ++ Text.quoted s.content

/-- The lines of all sections. -/
def plain (sections : List Section) : Text :=
  Text.join ['\n'] (sections.zipIdx.map fun (s, i) => line i s)

/-- A section as a JSON object. -/
def sectionValue (s : Section) : JsonValue :=
  .object [("content", .string s.content), ("style", .string s.style.name.toList),
    ("is_break", .bool s.isBreak), ("is_header", .bool s.isHeader)]

/-- All sections as a JSON array. -/
def json (sections : List Section) : Text :=
  (JsonValue.array (sections.map sectionValue)).pretty

/-- The listing of a marked text. -/
def ofText (t : Text) (asJson : Bool) : Text :=
  if asJson then json (Section.parse t) else plain (Section.parse t)

end MarkedVerse.Listing
