import MarkedVerse.Layout
import MarkedVerse.Template.Catalog

/-!
# Configuration

A configuration holds the switches that a document opens with, the geometry and colours of the
reading column, and templates of the user's own. Validation replaces what cannot be used by its
default and leaves everything else alone.
-/

namespace MarkedVerse

/-- The switches that a document opens with. -/
structure RenderDefaults where
  compact : Bool
  numbers : Bool
  highlight : Bool
  deriving DecidableEq, Repr

/-- The switches as a render configuration; no verse is at the reading position yet. -/
def RenderDefaults.toRenderConfig (d : RenderDefaults) : RenderConfig :=
  ⟨d.compact, d.highlight, none, d.numbers⟩

/-- The geometry and colours of the reading column. -/
structure ReaderConfig where
  width : Nat
  indent : Nat
  ruleGlyph : String
  highlightColor : Option String
  numberColor : Option String
  deriving DecidableEq, Repr

/-- The configuration of a user. -/
structure Config where
  render : RenderDefaults
  reader : ReaderConfig
  defaultTemplate : String
  templates : List Pattern
  deriving DecidableEq, Repr

namespace Config

/-- The width of the reading column unless the user chooses another. -/
def defaultWidth : Nat := 72

/-- The indentation unless the user chooses another. -/
def defaultIndent : Nat := 8

/-- The glyph of a rule unless the user chooses another. -/
def defaultGlyph : String := "─"

/-- The template unless the user chooses another. -/
def defaultTemplateName : String := "classic"

/-- The configuration of a user who chose nothing. -/
def standard : Config where
  render := ⟨false, true, true⟩
  reader := ⟨defaultWidth, defaultIndent, defaultGlyph, some "#FFD166", some "#6C7A89"⟩
  defaultTemplate := defaultTemplateName
  templates := []

/-- The built-in templates, extended by the user's own. -/
def catalog (c : Config) : Catalog :=
  Catalog.builtin.extend c.templates

/-- The reading column with a width from 20 to 400, an indentation of at most half of it, and a
glyph that can be seen. -/
def validateReader (r : ReaderConfig) : ReaderConfig :=
  let width := if 20 ≤ r.width ∧ r.width ≤ 400 then r.width else defaultWidth
  { r with
    width
    indent := if width / 2 < r.indent then min defaultIndent (width / 2) else r.indent
    ruleGlyph := if (Text.trim r.ruleGlyph.toList).isEmpty then defaultGlyph else r.ruleGlyph }

/-- The configuration with everything that cannot be used replaced by its default: the reading
column, templates without styles, and a default template that the catalog does not have. -/
def validate (c : Config) : Config :=
  let kept := c.templates.filter Pattern.isUsable
  { c with
    reader := validateReader c.reader
    templates := kept
    defaultTemplate :=
      match (Catalog.builtin.extend kept).get c.defaultTemplate with
      | .ok _ => c.defaultTemplate
      | .error _ => defaultTemplateName }

end Config

end MarkedVerse
