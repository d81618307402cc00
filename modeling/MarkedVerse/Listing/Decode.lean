import MarkedVerse.Config.Decode
import MarkedVerse.Listing

/-!
# Reading a listing

The sections that were listed as JSON are read by the rules that hold for configurations: members
that nobody knows are skipped, and a section may also be written as the array of its fields. None of
the fields may be missing.
-/

namespace MarkedVerse.Listing

open MarkedVerse.Json

/-- The fields of a section that were read so far. -/
structure SectionFields where
  content : Option String
  style : Option Alignment
  isBreak : Option Bool
  isHeader : Option Bool

namespace SectionFields

/-- Reads one member of a section. -/
def read (member : Text) (s : SectionFields) (t : Text) : Except Fault (SectionFields × Text) :=
  match String.ofList member with
  | "content" => field string s.content (fun x => { s with content := some x }) t
  | "style" => field Config.readAlignment s.style (fun x => { s with style := some x }) t
  | "is_break" => field bool s.isBreak (fun x => { s with isBreak := some x }) t
  | "is_header" => field bool s.isHeader (fun x => { s with isHeader := some x }) t
  | _ => skipMember s t

/-- The section, when no field is missing. -/
def finish (s : SectionFields) : Except Fault Section := do
  .ok ⟨(← required s.content).toList, ← required s.style, ← required s.isBreak,
    ← required s.isHeader⟩

end SectionFields

/-- Reads a section that is written as the array of its fields. -/
def readSectionFields (t : Text) : Except Fault (Section × Text) := do
  let (content, t) ← requiredElement string true t
  let (style, t) ← requiredElement Config.readAlignment false t
  let (isBreak, t) ← requiredElement bool false t
  let (isHeader, t) ← requiredElement bool false t
  .ok (⟨content.toList, style, isBreak, isHeader⟩, t)

/-- Reads a section. -/
def readSection : Text → Except Fault (Section × Text) :=
  record ⟨none, none, none, none⟩ SectionFields.read SectionFields.finish readSectionFields

/-- The sections that a text holds as JSON. -/
def decode (t : Text) : Except Fault (List Section) :=
  document (array readSection) t

end MarkedVerse.Listing
