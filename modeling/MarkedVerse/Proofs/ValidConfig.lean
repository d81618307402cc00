import MarkedVerse.Proofs.CatalogOrder

/-!
# Configurations that can be used

What validation puts right is right afterwards (`Config.valid_validate`): the reading column has a
width and an indentation that fit each other and a glyph that can be seen, every template has
styles, and the default template is in the catalog. The last holds because a catalog never loses a
name (`Catalog.exists_get_extend`), so the built-in template that validation falls back on is always
found.
-/

namespace MarkedVerse

namespace Catalog

variable {c : Catalog} {p : Pattern} {patterns : List Pattern} {name : String} {key : Text}

/-- A pattern is found exactly under the names that the catalog has. -/
theorem exists_get_iff :
    (∃ p, c.get name = .ok p) ↔ Text.lower name.toList ∈ c.patterns.map Pattern.key := by
  have hfound : (c.patterns.find? fun p => Text.sameName p.name name).isSome = true ↔
      Text.lower name.toList ∈ c.patterns.map Pattern.key := by
    simp [List.find?_isSome, Text.sameName, Pattern.key]
  rw [← hfound, get]
  cases c.patterns.find? fun p => Text.sameName p.name name <;> simp

/-- A name stays in a catalog when a pattern is added. -/
theorem mem_keys_insertPattern (h : key ∈ patterns.map Pattern.key) :
    key ∈ (insertPattern p patterns).map Pattern.key := by
  rw [keys_insertPattern]
  split
  · exact h
  · exact List.mem_append_left _ h

theorem exists_get_add (h : ∃ q, c.get name = .ok q) (p : Pattern) :
    ∃ q, (c.add p).get name = .ok q := by
  unfold add
  split
  · exact exists_get_iff.2 (mem_keys_insertPattern (exists_get_iff.1 h))
  · exact h

/-- However many patterns are added, a name that was found is found. -/
theorem exists_get_extend (h : ∃ q, c.get name = .ok q) (patterns : List Pattern) :
    ∃ q, (c.extend patterns).get name = .ok q := by
  induction patterns generalizing c with
  | nil => exact h
  | cons p patterns ih => exact ih (exists_get_add h p)

end Catalog

namespace Config

/-- The template that validation falls back on is in every catalog. -/
theorem exists_get_defaultTemplateName (patterns : List Pattern) :
    ∃ p, (Catalog.builtin.extend patterns).get defaultTemplateName = .ok p :=
  Catalog.exists_get_extend (Catalog.exists_get_iff.2 (by decide +kernel)) patterns

/-- A configuration that can be used as it is. -/
structure Valid (c : Config) : Prop where
  width : 20 ≤ c.reader.width ∧ c.reader.width ≤ 400
  indent : c.reader.indent ≤ c.reader.width / 2
  glyph : Text.trim c.reader.ruleGlyph.toList ≠ []
  templates : ∀ p ∈ c.templates, p.styles ≠ []
  defaultTemplate : ∃ p, c.catalog.get c.defaultTemplate = .ok p

/-- Every configuration can be used after it has been validated. -/
theorem valid_validate (c : Config) : Valid c.validate where
  width := by
    show 20 ≤ (validateReader c.reader).width ∧ (validateReader c.reader).width ≤ 400
    simp only [validateReader, defaultWidth]
    split <;> omega
  indent := by
    -- The indentation is compared with the width that validation leaves, whichever that is.
    show (validateReader c.reader).indent ≤ (validateReader c.reader).width / 2
    simp only [validateReader]
    generalize (if 20 ≤ c.reader.width ∧ c.reader.width ≤ 400 then c.reader.width
      else defaultWidth) = width
    split <;> omega
  glyph := by
    show Text.trim (validateReader c.reader).ruleGlyph.toList ≠ []
    simp only [validateReader]
    split
    · decide
    · next hblank => simpa using hblank
  templates := by
    intro p hp
    have husable : p.isUsable = true := (List.mem_filter.1 hp).2
    simpa [Pattern.isUsable] using husable
  defaultTemplate := by
    show ∃ p, (Catalog.builtin.extend (c.templates.filter Pattern.isUsable)).get
      c.validate.defaultTemplate = .ok p
    simp only [validate]
    split
    · next p hfound => exact ⟨p, hfound⟩
    · exact exists_get_defaultTemplateName _

/-- The standard configuration needs no validation. -/
theorem validate_standard : standard.validate = standard := by
  decide +kernel

theorem valid_standard : Valid standard :=
  validate_standard ▸ valid_validate standard

end Config

end MarkedVerse
