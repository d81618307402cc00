import MarkedVerse.Proofs.WrittenConfig

/-!
# What validation changes

Validation is a closure (`Config.validation_is_closure`): what it leaves follows all rules at once,
the configurations that it leaves alone are those that follow them already, and it changes a field
only when the field breaks its rule. Two rules look at other fields. The indentation is measured by
the width that validation leaves, and the default template is looked up among the templates that it
keeps, so each of them can be broken by a correction that comes before it.
-/

namespace MarkedVerse.Config

/-- A configuration in which the fields that broke their rules have been put right. Every other
field is what it was, and a field that was changed had broken its rule. -/
structure Corrects (c corrected : Config) : Prop where
  render : corrected.render = c.render
  highlightColor : corrected.reader.highlightColor = c.reader.highlightColor
  numberColor : corrected.reader.numberColor = c.reader.numberColor
  width : corrected.reader.width = c.reader.width ↔ 20 ≤ c.reader.width ∧ c.reader.width ≤ 400
  /-- The indentation is compared with the width that is there afterwards. -/
  indent : corrected.reader.indent = c.reader.indent ↔
    c.reader.indent ≤ corrected.reader.width / 2
  glyph : corrected.reader.ruleGlyph = c.reader.ruleGlyph ↔
    Text.trim c.reader.ruleGlyph.toList ≠ []
  /-- The templates that have styles are kept, in their order. -/
  kept : corrected.templates = c.templates.filter fun p => p.styles ≠ []
  templates : corrected.templates = c.templates ↔ ∀ p ∈ c.templates, p.styles ≠ []
  /-- The default template is looked up in the catalog that is there afterwards. -/
  defaultTemplate : corrected.defaultTemplate = c.defaultTemplate ↔
    ∃ p, corrected.catalog.get c.defaultTemplate = .ok p

/-- Validation keeps the templates that have styles. -/
theorem templates_validate (c : Config) :
    c.validate.templates = c.templates.filter fun p => p.styles ≠ [] := by
  refine List.filter_congr fun p _ => ?_
  rw [Pattern.isUsable, Bool.eq_iff_iff]
  simp

/-- A default template that the kept templates and the built-in ones have is kept. -/
theorem defaultTemplate_validate {c : Config} {p : Pattern}
    (h : c.validate.catalog.get c.defaultTemplate = .ok p) :
    c.validate.defaultTemplate = c.defaultTemplate := by
  have hfound : (Catalog.builtin.extend (c.templates.filter Pattern.isUsable)).get
      c.defaultTemplate = .ok p := h
  simp only [validate, hfound]

/-- Validation changes nothing but what breaks its rule. A field that follows its rule afterwards and
was not changed has followed it before. -/
theorem corrects_validate (c : Config) : Corrects c c.validate where
  render := rfl
  highlightColor := rfl
  numberColor := rfl
  width := ⟨fun hsame => hsame ▸ (valid_validate c).width, fun hrule => if_pos hrule⟩
  indent := ⟨fun hsame => hsame ▸ (valid_validate c).indent, fun hrule => if_neg (Nat.not_lt.2 hrule)⟩
  glyph := ⟨fun hsame => hsame ▸ (valid_validate c).glyph, fun hrule => if_neg (by simpa using hrule)⟩
  kept := templates_validate c
  templates := by
    rw [templates_validate, List.filter_eq_self]
    simp
  defaultTemplate :=
    ⟨fun hsame => hsame ▸ (valid_validate c).defaultTemplate,
      fun ⟨_, hfound⟩ => defaultTemplate_validate hfound⟩

/-- What validation leaves follows every rule, and validating it once more changes nothing. The
configurations that validation leaves alone are exactly those that follow every rule. Of any other
it changes those fields that break their rules, and drops the templates without styles. -/
theorem validation_is_closure (c : Config) :
    Valid c.validate ∧ c.validate.validate = c.validate ∧ (c.validate = c ↔ Valid c) ∧
      Corrects c c.validate :=
  ⟨valid_validate c, validate_validate c,
    ⟨fun hsame => hsame ▸ valid_validate c, Valid.validate_eq⟩, corrects_validate c⟩

/-- An indentation that is in order until the width is corrected, and a default template that is
there until its template is dropped: both are put right with the fields that they depend on. -/
example :
    let c : Config := { standard with
      reader := ⟨500, 200, " ", none, none⟩
      defaultTemplate := "mine"
      templates := [⟨"mine", [], ""⟩, ⟨"Classic", [.left], ""⟩] }
    c.validate = { standard with
      reader := ⟨72, 8, "─", none, none⟩
      templates := [⟨"Classic", [.left], ""⟩] } := by
  decide +kernel

end MarkedVerse.Config
