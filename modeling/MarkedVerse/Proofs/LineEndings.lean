import MarkedVerse.Html.Markup
import MarkedVerse.Page
import MarkedVerse.Proofs.Blocks
import MarkedVerse.Proofs.LineReturns
import MarkedVerse.Proofs.ParagraphBreaks

/-!
# Line endings

A line may end with a line feed or with a return and a line feed: nothing that is shown of a text
depends on it, and no template either (`line_endings_do_not_matter`). Sections without markers keep
the returns inside of them, so they are the same only up to their lines (`Section.alike_parse`).
-/

namespace MarkedVerse

/-! ## Sections -/

namespace Section

open Segment (markers)

variable {t u : Text}

/-- Segments with the same markers, between texts that differ in returns, leave the same
sections. -/
theorem sectionsFrom_of_returned {segments segments' : List Segment}
    (h : List.Forall₂ Segment.Returned segments segments') (role : Role) :
    sectionsFrom role segments = sectionsFrom role segments' := by
  induction h generalizing role with
  | nil => rfl
  | cons hfirst _ ih =>
      cases hfirst with
      | text h => rw [sectionsFrom, sectionsFrom, ofText, ofText, h.verseLines_eq, ih]
      | marker m _ =>
          rw [sectionsFrom, sectionsFrom]
          split <;> rw [ih]

/-- Texts that differ in returns are read as sections with the same lines. -/
theorem alike_parse (h : Text.Returned t u) :
    List.Forall₂ (Section.Alike Eq) (parse t) (parse u) := by
  have hmarkers : markers t = markers u :=
    Segment.Returned.filterMap_marker?_eq (Segment.Returned.of_lex h)
  by_cases hnone : markers t = []
  · rw [parse_eq_paragraphs hnone, parse_eq_paragraphs (hmarkers ▸ hnone),
      List.forall₂_map_left_iff, List.forall₂_map_right_iff]
    exact h.paragraphs.imp fun _ _ hparagraph => ⟨rfl, rfl, rfl, hparagraph.verseLines_eq⟩
  · rw [parse_eq_sectionsFrom hnone, parse_eq_sectionsFrom (hmarkers ▸ hnone),
      sectionsFrom_of_returned (Segment.Returned.of_lex h), List.forall₂_same]
    exact fun _ _ => ⟨rfl, rfl, rfl, rfl⟩

end Section

/-- Texts that differ in returns are laid out as the same blocks. -/
theorem Text.Returned.blocks_eq {t u : Text} (h : Text.Returned t u) (config : RenderConfig) :
    Layout.blocks config (Section.parse t) = Layout.blocks config (Section.parse u) :=
  Layout.blocks_eq (Section.alike_parse h) config

/-! ## Templates -/

namespace Template

open Segment (lex source markers breakMarkers)

/-- Two results with the same error, or with the same mode and related texts. -/
inductive SameResult (R : Text → Text → Prop) :
    Except TemplateError Outcome → Except TemplateError Outcome → Prop where
  | error (e : TemplateError) : SameResult R (.error e) (.error e)
  | ok (mode : Mode) {t u : Text} (h : R t u) : SameResult R (.ok ⟨t, mode⟩) (.ok ⟨u, mode⟩)

variable {t u : Text}

/-- Results with texts that are related are results with texts that are related otherwise. -/
theorem SameResult.imp {R S : Text → Text → Prop} (hRS : ∀ t u, R t u → S t u)
    {result result' : Except TemplateError Outcome} (h : SameResult R result result') :
    SameResult S result result' := by
  cases h with
  | error e => exact .error e
  | ok mode h => exact .ok mode (hRS _ _ h)

/-- The literals of breaks have no returns. -/
theorem return_not_mem_breakLiteral (a : Alignment) : '\r' ∉ a.breakLiteral := by
  cases a <;> decide

/-- Segments that differ in returns still do when they are restyled. -/
theorem returned_restyle (p : Pattern) (index : Nat) {segments segments' : List Segment}
    (h : List.Forall₂ Segment.Returned segments segments') :
    List.Forall₂ Segment.Returned (Segment.restyle p index segments)
      (Segment.restyle p index segments') := by
  induction h generalizing index with
  | nil => exact .nil
  | cons hfirst _ ih =>
      cases hfirst with
      | text h => exact .cons (.text h) (ih index)
      | marker m h =>
          rw [Segment.restyle, Segment.restyle]
          split
          · have hreturn : '\r' ∉ (p.styleAt index).marker.source := by
              rw [Alignment.source_marker]
              exact return_not_mem_breakLiteral _
            exact .cons (.marker _ hreturn) (ih (index + 1))
          · exact .cons (.marker m h) (ih index)

/-- Paragraphs that differ in returns still do with breaks between them. -/
theorem returned_insertedAfter (p : Pattern) (index : Nat) {paragraphs paragraphs' : List Text}
    (h : List.Forall₂ Text.Returned paragraphs paragraphs') :
    Text.Returned (insertedAfter p index paragraphs) (insertedAfter p index paragraphs') := by
  induction h generalizing index with
  | nil => exact .nil
  | cons hfirst _ ih =>
      have hbreak : '\r' ∉ ['\n', '\n'] ++ (p.styleAt index).breakLiteral ++ ['\n', '\n'] := by
        simpa using return_not_mem_breakLiteral _
      rw [insertedAfter, insertedAfter]
      exact ((Text.Returned.refl hbreak).append hfirst).append (ih (index + 1))

/-- Breaks are inserted alike into texts that differ in returns. -/
theorem sameResult_insertBreaks (h : Text.Returned t u) (p : Pattern) :
    SameResult Text.Returned (insertBreaks t p) (insertBreaks u p) := by
  have hparagraphs := h.paragraphs
  rw [insertBreaks, insertBreaks]
  generalize Text.paragraphs t = paragraphs at hparagraphs
  generalize Text.paragraphs u = paragraphs' at hparagraphs
  cases hparagraphs with
  | nil => exact .error _
  | cons hfirst hlater =>
      cases hlater with
      | nil => exact .error _
      | cons hsecond hrest =>
          simp only [hrest.length_eq]
          exact .ok _ (hfirst.append (returned_insertedAfter p 0 (.cons hsecond hrest)))

/-- A template does the same to texts that differ in returns. -/
theorem sameResult_apply (h : Text.Returned t u) (p : Pattern) :
    SameResult Text.Returned (apply t p) (apply u p) := by
  have hsegments : List.Forall₂ Segment.Returned (lex t) (lex u) := Segment.Returned.of_lex h
  have hbreaks : breakMarkers t = breakMarkers u :=
    congrArg (List.filter Marker.isBreak) (Segment.Returned.filterMap_marker?_eq hsegments)
  by_cases hp : p.styles = []
  · have hempty : ∀ t, apply t p = .error (.emptyPattern p.name) := by
      intro t
      simp [apply, Pattern.validate, Pattern.isUsable, hp, bind, Except.bind]
    rw [hempty, hempty]
    exact .error _
  · by_cases hnone : breakMarkers t = []
    · rw [apply_eq_insertBreaks hp hnone, apply_eq_insertBreaks hp (hbreaks ▸ hnone)]
      exact sameResult_insertBreaks h p
    · rw [apply_eq_restyle hp hnone, apply_eq_restyle hp (hbreaks ▸ hnone), hbreaks]
      exact .ok _ (Segment.Returned.flatMap_source (returned_restyle p 0 hsegments))

end Template

/-- Ending the lines of a text with a return and a line feed changes neither its blocks nor what is
drawn of them, and every template fails on both texts with the same error, or does so many changes
to both and leaves texts with the same blocks. -/
theorem line_endings_do_not_matter {t : Text} (h : '\r' ∉ t) :
    (∀ config, Layout.blocks config (Section.parse (Text.withReturns t)) =
      Layout.blocks config (Section.parse t)) ∧
    (∀ config, Html.render (Section.parse (Text.withReturns t)) config =
      Html.render (Section.parse t) config) ∧
    (∀ config s, Page.render (Section.parse (Text.withReturns t)) config s =
      Page.render (Section.parse t) config s) ∧
    ∀ p, Template.SameResult
      (fun out out' => ∀ config, Layout.blocks config (Section.parse out) =
        Layout.blocks config (Section.parse out'))
      (Template.apply t p) (Template.apply (Text.withReturns t) p) := by
  have hreturned := Text.Returned.of_withReturns h
  have hblocks := hreturned.blocks_eq
  refine ⟨fun config => (hblocks config).symm, fun config => ?_, fun config s => ?_, fun p => ?_⟩
  · rw [Html.render, Html.render, hblocks]
  · rw [Page.render, Page.render, hblocks]
  · exact (Template.sameResult_apply hreturned p).imp fun _ _ => Text.Returned.blocks_eq

/-- A heading, a gap and a couplet, of which the gap and the couplet get returns. -/
theorem line_endings_do_not_matter_between_stanzas :
    let t : Text := "||HEADER||title\n\none\ntwo".toList
    '\r' ∉ t ∧ Text.withReturns t = "||HEADER||title\r\n\r\none\r\ntwo".toList ∧
    (∀ config, Layout.blocks config (Section.parse (Text.withReturns t)) =
      Layout.blocks config (Section.parse t)) ∧
    ∀ p, Template.SameResult
      (fun out out' => ∀ config, Layout.blocks config (Section.parse out) =
        Layout.blocks config (Section.parse out'))
      (Template.apply t p) (Template.apply (Text.withReturns t) p) := by
  have hreturn : '\r' ∉ "||HEADER||title\n\none\ntwo".toList := by decide
  obtain ⟨hblocks, -, -, happly⟩ := line_endings_do_not_matter hreturn
  exact ⟨hreturn, by decide, hblocks, happly⟩

end MarkedVerse
