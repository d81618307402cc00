import MarkedVerse.Config
import MarkedVerse.Json.Value

/-!
# Writing a configuration

A configuration is written as a JSON object with all its members, in a fixed order.
-/

namespace MarkedVerse.Config

/-- A pattern as a JSON object. -/
def patternValue (p : Pattern) : JsonValue :=
  .object [("name", .string p.name.toList),
    ("styles", .array (p.styles.map fun a => .string a.name.toList)),
    ("description", .string p.description.toList)]

/-- A text that may be missing. -/
def optionalValue : Option String → JsonValue
  | some s => .string s.toList
  | none => .null

/-- The switches as a JSON object. -/
def switchesValue (d : RenderDefaults) : JsonValue :=
  .object [("compact_mode", .bool d.compact), ("show_verse_numbers", .bool d.numbers),
    ("highlight_current_verse", .bool d.highlight)]

/-- The reading column as a JSON object. -/
def readerValue (r : ReaderConfig) : JsonValue :=
  .object [("width", .number r.width), ("indent_width", .number r.indent),
    ("rule_glyph", .string r.ruleGlyph.toList), ("highlight_color", optionalValue r.highlightColor),
    ("number_color", optionalValue r.numberColor)]

/-- The configuration as a JSON object. -/
def value (c : Config) : JsonValue :=
  .object [("render", switchesValue c.render), ("reader", readerValue c.reader),
    ("default_template", .string c.defaultTemplate.toList),
    ("templates", .array (c.templates.map patternValue))]

/-- The text of the configuration. -/
def encode (c : Config) : Text :=
  c.value.pretty

end MarkedVerse.Config
