import MarkedVerse.Proofs.ReadingPosition
import MarkedVerse.Proofs.TemplateCycle

/-!
# The template that is shown

The summary names a template of the catalog (`Reachable.showsTemplate`). When templates can be
applied to the document at all, this template is in effect: on the text as it stands it changes
nothing. Otherwise no template ever was in effect, and the name only says where the cycle goes on
(`shown_template_in_effect`, `shown_template_without_effect`).
-/

namespace MarkedVerse

/-! ## The summary -/

namespace Status

/-- Every part stands somewhere among the parts that are joined. -/
theorem exists_intercalate_eq {part : String} {parts : List String} (sep : String)
    (h : part ∈ parts) : ∃ front behind, sep.intercalate parts = front ++ part ++ behind := by
  induction parts with
  | nil => cases h
  | cons first parts ih =>
      by_cases hparts : parts = []
      · rw [hparts, List.mem_singleton] at h
        exact ⟨"", "", by simp [hparts, h]⟩
      rw [String.intercalate_cons_of_ne_nil hparts]
      obtain rfl | h := List.mem_cons.1 h
      · exact ⟨"", sep ++ sep.intercalate parts, by simp [String.append_assoc]⟩
      · obtain ⟨front, behind, hrest⟩ := ih h
        exact ⟨first ++ sep ++ front, behind, by simp [hrest, String.append_assoc]⟩

/-- The summary names the template. -/
theorem exists_summary_eq_template (config : RenderConfig) (name : String) (verses : Nat)
    (modified : Bool) :
    ∃ front behind, summary config (some name) verses modified =
      front ++ ("template:" ++ name) ++ behind :=
  exists_intercalate_eq "  " (by simp)

end Status

/-! ## Looking a template up -/

namespace Catalog

variable {c : Catalog} {p : Pattern} {name : Option String}

/-- The next pattern is one of the catalog. -/
theorem mem_of_nextAfter (h : c.nextAfter name = some p) : p ∈ c.patterns := by
  unfold nextAfter at h
  dsimp only at h
  split at h
  · exact List.mem_of_getElem? h
  · exact List.mem_of_head? h

/-- A pattern of the catalog is found again by its name. -/
theorem Ordered.get_eq (hc : c.Ordered) (hp : p ∈ c.patterns) : c.get p.name = .ok p := by
  obtain ⟨i, hi⟩ := List.getElem?_of_mem hp
  have hfind : (c.patterns.find? fun q => Text.sameName q.name p.name) = some p := by
    rw [List.find?_eq_bind_findIdx?_getElem?, hc.findIdx?_eq hi]
    exact hi
  rw [get, hfind]

end Catalog

namespace Reader

open Template

variable {config : Config} {r r' : Reader} {name : String}

/-! ## The template of a reachable state -/

/-- The template that is shown is one of the catalog, and it is in effect if templates can be
applied to the document. If they cannot, there never was a change to save. -/
structure ShowsTemplate (r : Reader) : Prop where
  inEffect : ∀ name, r.template = some name → ∃ p ∈ r.config.catalog.patterns, p.name = name ∧
    (Fits r.document.text →
      ∃ breaks, Template.apply r.document.text p = .ok ⟨r.document.text, .restyle breaks⟩)
  unmodified : ¬Fits r.document.text → r.modified = false

theorem ShowsTemplate.of_samePlace (h : ShowsTemplate r) (hplace : SamePlace r r') :
    ShowsTemplate r' where
  inEffect name hname := by
    rw [hplace.config, hplace.document]
    exact h.inEffect name (hplace.template ▸ hname)
  unmodified hfits := by
    have hmodified := hplace.modified
    rw [h.unmodified (hplace.document ▸ hfits)] at hmodified
    simpa using hmodified

/-- No template is shown with another document, which has no changes. -/
theorem showsTemplate_setDocument (r : Reader) (d : Document) :
    ShowsTemplate (r.setDocument d) where
  inEffect _ hname := by cases hname
  unmodified _ := rfl

theorem ShowsTemplate.moveVerse (h : ShowsTemplate r) (move : Nat → Nat → Nat) :
    ShowsTemplate (r.moveVerse move) := by
  unfold Reader.moveVerse
  split <;> exact ⟨h.inEffect, h.unmodified⟩

/-- The next template is in effect if it can be applied. One that cannot be applied leaves a
document to which none can. -/
theorem ShowsTemplate.cycleTemplate (h : ShowsTemplate r) : ShowsTemplate r.cycleTemplate := by
  unfold Reader.cycleTemplate
  split
  · exact ⟨h.inEffect, h.unmodified⟩
  · next p hnext =>
      have hp := Catalog.mem_of_nextAfter hnext
      have hstyles := r.config.ordered_catalog.styles p hp
      unfold Document.applyTemplate
      by_cases hfits : Fits r.document.text
      · obtain ⟨mode, hok⟩ := exists_apply hfits hstyles
        obtain ⟨_, hagain, hafter⟩ := apply_after hstyles hok
        rw [hok] at hagain ⊢
        cases hagain
        refine ⟨fun name hname => ?_, fun hnot => ?_⟩
        · cases hname
          exact ⟨p, hp, rfl, fun _ => ⟨_, hafter⟩⟩
        · obtain ⟨e, he⟩ := exists_apply_eq_error hnot hstyles
          have hboth := hafter.symm.trans he
          cases hboth
      · obtain ⟨e, he⟩ := exists_apply_eq_error hfits hstyles
        rw [he]
        refine ⟨fun name hname => ?_, h.unmodified⟩
        cases hname
        exact ⟨p, hp, rfl, fun hyes => absurd hyes hfits⟩

theorem ShowsTemplate.keyStep (h : ShowsTemplate r) (hstep : KeyStep r r') : ShowsTemplate r' := by
  cases hstep with
  | cycles => exact h.cycleTemplate
  | next | prev => exact h.moveVerse _
  | stays hstays => exact h.of_samePlace hstays

theorem Reachable.showsTemplate (h : Reachable config r) : ShowsTemplate r :=
  h.invariant (showsTemplate_setDocument (Reader.new config) ⟨[]⟩)
    (fun r d _ => showsTemplate_setDocument r d) fun _ _ hr hstep => hr.keyStep hstep

/-- In every state of the reader, the summary names the template that is shown, and the catalog has
it. If the document has breaks or two paragraphs, the template is in effect: applied again, it
restyles every break as it is. If not, it cannot be applied, and there are no changes to save. -/
theorem shown_template_in_effect (h : Reachable config r) (hname : r.template = some name) :
    (∃ front behind, r.summary = front ++ ("template:" ++ name) ++ behind) ∧
    ∃ p, config.catalog.get name = .ok p ∧
      (Fits r.document.text →
        ∃ breaks, r.document.applyTemplate p = .ok (r.document, .restyle breaks)) ∧
      (¬Fits r.document.text →
        r.document.applyTemplate p =
          .error (.tooFewParagraphs (Text.paragraphs r.document.text).length) ∧
        r.modified = false) := by
  obtain ⟨p, hp, rfl, heffect⟩ := h.showsTemplate.inEffect name hname
  rw [h.config_eq] at hp
  refine ⟨?_, p, config.ordered_catalog.get_eq hp, fun hfits => ?_, fun hfits => ⟨?_, ?_⟩⟩
  · rw [summary, hname]
    exact Status.exists_summary_eq_template _ _ _ _
  · obtain ⟨breaks, happly⟩ := heffect hfits
    exact ⟨breaks, by rw [Document.applyTemplate, happly]; rfl⟩
  · have hstyles := config.ordered_catalog.styles p hp
    rw [Fits, not_or, not_not, not_le] at hfits
    rw [Document.applyTemplate, apply_eq_insertBreaks hstyles hfits.1,
      insertBreaks_eq_error hfits.2 p]
    rfl
  · exact h.showsTemplate.unmodified hfits

/-- The user's own template takes the place of the second one of the catalog, and the template key
is pressed twice: the template that is shown is the user's, and it is in effect. -/
theorem shown_template_in_effect_of_poem :
    let own : Pattern := ⟨"Centered", [.left], ""⟩
    let config : Config := { Config.standard with templates := [own] }
    let key : KeyPress := ⟨.char 't', false⟩
    let first := (((new config).setDocument ⟨"moon\n\nstars".toList⟩).press (.sound .empty) key).1
    let second := (first.press (.sound .empty) key).1
    (Reachable config second ∧ second.template = some "Centered" ∧ Fits second.document.text) ∧
      config.catalog.get "Centered" = .ok own ∧
      ∃ breaks, second.document.applyTemplate own = .ok (second.document, .restyle breaks) := by
  intro own config key first second
  have hnew : Reachable config (new config) := .new
  have hfirst : Reachable config first := (hnew.shown _).pressed (.sound .empty) key
  have h : Reachable config second := hfirst.pressed (.sound .empty) key
  have hname : second.template = some "Centered" := by decide +kernel
  have hfits : Fits second.document.text := .inl (by decide +kernel)
  have hown : config.catalog.get "Centered" = .ok own := by decide +kernel
  obtain ⟨-, p, hp, heffect, -⟩ := shown_template_in_effect h hname
  rw [hown] at hp
  cases hp
  exact ⟨⟨h, hname, hfits⟩, hown, heffect hfits⟩

/-- A text of one paragraph without breaks: the template key leaves the text as it is, as the first
template cannot be applied, but the summary names that template. -/
theorem shown_template_without_effect :
    let text := "a single stanza".toList
    let r := (((new .standard).setDocument ⟨text⟩).press (.sound .empty) ⟨.char 't', false⟩).1
    Reachable .standard r ∧ r.document.text = text ∧ r.template = some "classic" ∧
      r.summary = "template:classic  numbers  1 verses" ∧
      ∃ p, Config.standard.catalog.get "classic" = .ok p ∧
        r.document.applyTemplate p = .error (.tooFewParagraphs 1) := by
  intro text r
  have hnew : Reachable .standard (new .standard) := .new
  have h : Reachable .standard r := (hnew.shown _).pressed (.sound .empty) _
  have hget : Config.standard.catalog.get "classic" =
      .ok ⟨"classic", [.right, .left], "Alternate right and left blocks"⟩ := by decide +kernel
  exact ⟨h, by decide +kernel, by decide +kernel, by decide +kernel, _, hget, by decide +kernel⟩

end Reader

end MarkedVerse
