import MarkedVerse.Config
import MarkedVerse.Json.Reader

/-!
# Reading a configuration

A configuration is read from JSON. Parts that are missing keep their standard values, members that
nobody knows are skipped, and every record may also be written as the array of its fields. The
first problem met is the one that is reported.
-/

namespace MarkedVerse.Config

open MarkedVerse.Json

/-- The alignment of exactly this name. -/
def namedAlignment (name : String) : Except Fault Alignment :=
  match Alignment.ofExactName? name with
  | some a => .ok a
  | none => .error .mismatch

/-- Reads null. -/
def readNull (t : Text) : Except Fault (Unit × Text) :=
  match skipSpace t with
  | 'n' :: t => do .ok ((), ← word ['u', 'l', 'l'] t)
  | t => .error (wrongKind t)

/-- Reads an alignment: its name, or an object with the name as its only member and null as the
value. -/
def readAlignment (t : Text) : Except Fault (Alignment × Text) :=
  match skipSpace t with
  | [] => .error .truncated
  | '"' :: t => do
    let (name, t) ← stringRest t
    .ok (← namedAlignment (String.ofList name), t)
  | '\x7b' :: t => do
    let (name, t) ← string t
    let a ← namedAlignment name
    let (_, t) ← memberValue readNull t
    match skipSpace t with
    | [] => .error .truncated
    | '\x7d' :: t => .ok (a, t)
    | _ => .error .malformed
  | _ => .error .malformed

/-- The fields of a pattern that were read so far. -/
structure PatternFields where
  name : Option String
  styles : Option (List Alignment)
  description : Option String

namespace PatternFields

/-- Reads one member of a pattern. -/
def read (member : Text) (p : PatternFields) (t : Text) : Except Fault (PatternFields × Text) :=
  match String.ofList member with
  | "name" => field string p.name (fun x => { p with name := some x }) t
  | "styles" => field (array readAlignment) p.styles (fun x => { p with styles := some x }) t
  | "description" => field string p.description (fun x => { p with description := some x }) t
  | _ => skipMember p t

/-- The pattern, when nothing but the description is missing. -/
def finish (p : PatternFields) : Except Fault Pattern := do
  .ok ⟨← required p.name, ← required p.styles, p.description.getD ""⟩

end PatternFields

/-- Reads a pattern that is written as the array of its fields. -/
def readPatternFields (t : Text) : Except Fault (Pattern × Text) := do
  let (name, t) ← requiredElement string true t
  let (styles, t) ← requiredElement (array readAlignment) false t
  let (description, t) ← element string false t
  .ok (⟨name, styles, description.getD ""⟩, t)

/-- Reads a pattern. -/
def readPattern : Text → Except Fault (Pattern × Text) :=
  record ⟨none, none, none⟩ PatternFields.read PatternFields.finish readPatternFields

/-- The switches that were read so far. -/
structure SwitchFields where
  compact : Option Bool
  numbers : Option Bool
  highlight : Option Bool

namespace SwitchFields

/-- Reads one switch. -/
def read (member : Text) (d : SwitchFields) (t : Text) : Except Fault (SwitchFields × Text) :=
  match String.ofList member with
  | "compact_mode" => field bool d.compact (fun x => { d with compact := some x }) t
  | "show_verse_numbers" => field bool d.numbers (fun x => { d with numbers := some x }) t
  | "highlight_current_verse" => field bool d.highlight (fun x => { d with highlight := some x }) t
  | _ => skipMember d t

/-- The switches, when none is missing. -/
def finish (d : SwitchFields) : Except Fault RenderDefaults := do
  .ok ⟨← required d.compact, ← required d.numbers, ← required d.highlight⟩

end SwitchFields

/-- Reads switches that are written as an array. -/
def readSwitchFields (t : Text) : Except Fault (RenderDefaults × Text) := do
  let (compact, t) ← requiredElement bool true t
  let (numbers, t) ← requiredElement bool false t
  let (highlight, t) ← requiredElement bool false t
  .ok (⟨compact, numbers, highlight⟩, t)

/-- Reads the switches that a document opens with. -/
def readSwitches : Text → Except Fault (RenderDefaults × Text) :=
  record ⟨none, none, none⟩ SwitchFields.read SwitchFields.finish readSwitchFields

/-- The fields of the reading column that were read so far. -/
structure ReaderFields where
  width : Option Nat
  indent : Option Nat
  ruleGlyph : Option String
  highlightColor : Option (Option String)
  numberColor : Option (Option String)

/-- The greatest width and the greatest indentation that can be written. -/
def maxCells : Nat := 65535

namespace ReaderFields

/-- Reads one member of the reading column. -/
def read (member : Text) (r : ReaderFields) (t : Text) : Except Fault (ReaderFields × Text) :=
  match String.ofList member with
  | "width" => field (natural maxCells) r.width (fun x => { r with width := some x }) t
  | "indent_width" => field (natural maxCells) r.indent (fun x => { r with indent := some x }) t
  | "rule_glyph" => field string r.ruleGlyph (fun x => { r with ruleGlyph := some x }) t
  | "highlight_color" =>
    field (nullable string) r.highlightColor (fun x => { r with highlightColor := some x }) t
  | "number_color" =>
    field (nullable string) r.numberColor (fun x => { r with numberColor := some x }) t
  | _ => skipMember r t

/-- The reading column, when nothing but colours is missing. -/
def finish (r : ReaderFields) : Except Fault ReaderConfig := do
  .ok ⟨← required r.width, ← required r.indent, ← required r.ruleGlyph, r.highlightColor.join,
    r.numberColor.join⟩

end ReaderFields

/-- Reads a reading column that is written as the array of its fields. -/
def readReaderFields (t : Text) : Except Fault (ReaderConfig × Text) := do
  let (width, t) ← requiredElement (natural maxCells) true t
  let (indent, t) ← requiredElement (natural maxCells) false t
  let (glyph, t) ← requiredElement string false t
  let (highlight, t) ← element (nullable string) false t
  let (number, t) ← element (nullable string) false t
  .ok (⟨width, indent, glyph, highlight.join, number.join⟩, t)

/-- Reads the geometry and colours of the reading column. -/
def readReader : Text → Except Fault (ReaderConfig × Text) :=
  record ⟨none, none, none, none, none⟩ ReaderFields.read ReaderFields.finish readReaderFields

/-- The parts of a configuration that were read so far. -/
structure Parts where
  render : Option RenderDefaults
  reader : Option ReaderConfig
  defaultTemplate : Option String
  templates : Option (List Pattern)

namespace Parts

/-- Reads one member of a configuration. -/
def read (member : Text) (c : Parts) (t : Text) : Except Fault (Parts × Text) :=
  match String.ofList member with
  | "render" => field readSwitches c.render (fun x => { c with render := some x }) t
  | "reader" => field readReader c.reader (fun x => { c with reader := some x }) t
  | "default_template" =>
    field string c.defaultTemplate (fun x => { c with defaultTemplate := some x }) t
  | "templates" => field (array readPattern) c.templates (fun x => { c with templates := some x }) t
  | _ => skipMember c t

/-- The configuration, with standard values for what is missing. -/
def complete (c : Parts) : Config where
  render := c.render.getD standard.render
  reader := c.reader.getD standard.reader
  defaultTemplate := c.defaultTemplate.getD standard.defaultTemplate
  templates := c.templates.getD standard.templates

end Parts

/-- Reads a configuration that is written as the array of its parts. -/
def readParts (t : Text) : Except Fault (Config × Text) := do
  let (render, t) ← element readSwitches true t
  let (reader, t) ← element readReader false t
  let (defaultTemplate, t) ← element string false t
  let (templates, t) ← element (array readPattern) false t
  .ok (Parts.complete ⟨render, reader, defaultTemplate, templates⟩, t)

/-- The configuration that a text holds, as it stands there. -/
def decode (t : Text) : Except Fault Config :=
  document (record ⟨none, none, none, none⟩ Parts.read (fun c => .ok c.complete) readParts) t

end MarkedVerse.Config
