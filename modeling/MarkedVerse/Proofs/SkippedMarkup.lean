import MarkedVerse.Proofs.BalancedMarkup
import MarkedVerse.Proofs.SkippedSections

/-!
# Markup without blank sections

The HTML of a document tells of a break next to a verse in two places: a break in front of it puts a
frame there, and a break behind it goes into the class of the space around it. Each of them adds one
letter to a count that nothing else in the markup of a verse moves (`Html.countsBreaks_telltales`).
So the HTML, like the page, shows whether sections without text were deleted between a break and a
verse, and nothing else of them (`Layout.skipped_sections_iff`).
-/

namespace MarkedVerse

/-! ## Telling letters -/

namespace Html

open Layout

variable {config : RenderConfig}

/-- The count of the letters m and o. Of all that the markup of a verse says about breaks next to
it, the frame has one m, and the classes of blocks in front of a break have one o. -/
def telltales (t : Text) : Nat :=
  t.countP ['m', 'o'].contains

theorem telltales_append (t u : Text) : telltales (t ++ u) = telltales t + telltales u :=
  List.countP_append

/-- Classes and the spaces between them have the letters that the classes have. -/
theorem telltales_join (words : List Text) :
    telltales (Text.join [' '] words) = total telltales words := by
  induction words with
  | nil => rfl
  | cons word words ih =>
      cases words with
      | nil => rw [Text.join, List.intercalate_singleton, total, total, Nat.add_zero]
      | cons word' words =>
          have hgap : telltales [' '] = 0 := rfl
          rw [Text.join] at ih
          rw [Text.join, List.intercalate_cons_cons, telltales_append, telltales_append, ih, hgap]
          rfl

theorem telltales_printed_append (pieces later : List Piece) :
    telltales (printed (pieces ++ later)) =
      telltales (printed pieces) + telltales (printed later) := by
  rw [printed_append, telltales_append]

/-- The classes of an element add their letters to those of its tag. -/
theorem telltales_opening (tag : String) (names : List String) (more : List Attribute) :
    telltales (printed [.opening tag (classes names :: more)]) =
      telltales (printed [.opening tag more]) + total telltales (names.map String.toList) := by
  have hattribute : telltales (Piece.printAttribute (classes names)) =
      total telltales (names.map String.toList) := by
    have hname : telltales (' ' :: "class".toList ++ ['=', '"']) = 0 := by decide
    have hquote : telltales ['"'] = 0 := rfl
    rw [Piece.printAttribute, telltales_append, telltales_append]
    show telltales (' ' :: "class".toList ++ ['=', '"']) + telltales (Text.join _ _) + _ = _
    rw [hname, hquote, telltales_join]
    omega
  have htag : ∀ attributes, telltales (printed [.opening tag attributes]) =
      telltales ('<' :: tag.toList) + telltales (attributes.flatMap Piece.printAttribute) := by
    intro attributes
    have hend : telltales ['>'] = 0 := rfl
    simp only [printed, List.flatMap_singleton, Piece.print, telltales_append, hend, Nat.add_zero]
  rw [htag, htag, List.flatMap_cons, telltales_append, hattribute]
  omega

/-- What stands in the markup of a block behind the tag that opens it. -/
def markupBehindTag (b : Content) : List Piece :=
  .lineEnd :: (b.badge.map badgeMarkup).getD [] ++ linesMarkup b ++
    [.closing (blockTag b), .lineEnd]

/-- The letters of the markup of a block are those of its frame and of the class of its spacing,
besides those that do not tell whether a break is next to it. -/
theorem telltales_contentMarkup (b : Content) :
    telltales (printed (contentMarkup b)) =
      telltales (printed [.opening (blockTag b) (b.verse.map fun v => ⟨"id", verseId v⟩).toList]) +
        total telltales ((blockClasses { b with spacing := .regular }).map String.toList) +
        telltales (printed (markupBehindTag b)) +
        ((if b.framed then 1 else 0) + telltales b.spacing.className.toList) := by
  have hmarkup : contentMarkup b =
      (if b.framed then ruleMarkup ["divider", "divider-frame"] else []) ++
        ([.opening (blockTag b) (classes (blockClasses b) ::
          (b.verse.map fun v => ⟨"id", verseId v⟩).toList)] ++ markupBehindTag b) := by
    simp [contentMarkup, markupBehindTag]
  have hframe : telltales (printed
      (if b.framed then ruleMarkup ["divider", "divider-frame"] else [])) =
        if b.framed then 1 else 0 := by
    cases b.framed <;> decide
  have hclasses : total telltales ((blockClasses b).map String.toList) =
      total telltales ((blockClasses { b with spacing := .regular }).map String.toList) +
        telltales b.spacing.className.toList := by
    have hregular : telltales Spacing.regular.className.toList = 0 := by decide
    simp only [blockClasses, List.map_append, List.map_cons, List.map_nil, total_append, total,
      hregular]
    omega
  rw [hmarkup, telltales_printed_append, telltales_printed_append, telltales_opening, hframe,
    hclasses]
  omega

/-- The markup of a verse has one letter more for a break in front of it and one for a break behind
it. -/
theorem countsBreaks_telltales (config : RenderConfig) :
    CountsBreaks config fun block => telltales (printed (blockMarkup block)) := by
  intro stanza verse hheader
  let alone : Content := { contentOf config 0 verse false false stanza with spacing := .regular }
  refine ⟨telltales (printed [.opening (blockTag alone)
      (verse.map fun v => ⟨"id", verseId v⟩).toList]) +
        total telltales ((blockClasses alone).map String.toList) +
        telltales (printed (markupBehindTag alone)), 1, 1, by decide, by decide,
    fun origin after before => ?_⟩
  have hneighbours : (if (contentOf config origin verse after before stanza).framed then 1 else 0) +
      telltales (contentOf config origin verse after before stanza).spacing.className.toList =
        after.toNat + before.toNat := by
    simp only [contentOf, Spacing.classify, hheader]
    cases after <;> cases before <;> decide
  show telltales (printed (contentMarkup _)) = _
  rw [telltales_contentMarkup, hneighbours, Nat.one_mul, Nat.one_mul, ← Nat.add_assoc]
  rfl

/-- The HTML of blocks, between the tags of the document. -/
theorem telltales_markup (blocks : List Block) :
    telltales (printed (markup blocks)) = telltales (printed (markup [])) +
      total (fun block => telltales (printed (blockMarkup block))) blocks := by
  have hblocks : telltales (printed (blocks.flatMap blockMarkup)) =
      total (fun block => telltales (printed (blockMarkup block))) blocks := by
    induction blocks with
    | nil => rfl
    | cons block blocks ih => rw [List.flatMap_cons, telltales_printed_append, ih, total]
  simp only [markup, telltales_printed_append, hblocks, List.flatMap_nil, List.append_nil]
  omega

/-- Sections that leave no block can be deleted without a change to the HTML exactly when they part
no break from a verse. -/
theorem render_shown_eq_iff (sections : List Section) (config : RenderConfig) :
    render (shown sections) config = render sections config ↔ ¬PartsBreak sections := by
  have hmarkup : ∀ block : Block, blockMarkup block.atStart = blockMarkup block := by
    intro block
    cases block <;> rfl
  refine (countsBreaks_telltales config).output_eq_iff (fun blocks => printed (markup blocks))
    (fun block => ?_) (fun blocks => ?_) fun blocks blocks' heq => ?_
  · rw [hmarkup]
  · simp only [markup, List.flatMap_map, hmarkup]
  · have hcount := congrArg telltales heq
    exact Nat.add_left_cancel
      ((telltales_markup blocks).symm.trans (hcount.trans (telltales_markup blocks')))

end Html

/-! ## Documents -/

namespace Layout

/-- Deleting the sections without text from a document, dividers apart, leaves its HTML and its
pages as they are exactly when no such sections stand between a break and a verse with nothing else.
However they stand, every block stays with all that it shows, in the same order; a verse differs at
most in the space and the frame that it has next to a break, a heading and a divider not at all. -/
theorem skipped_sections_iff (sections : List Section) (config : RenderConfig) (s : PageStyle) :
    (Html.render (shown sections) config = Html.render sections config ↔ ¬PartsBreak sections) ∧
      (Page.render (shown sections) config s = Page.render sections config s ↔
        ¬PartsBreak sections) ∧
      (blocks config (shown sections)).map Block.bare = (blocks config sections).map Block.bare :=
  ⟨Html.render_shown_eq_iff sections config, Page.render_shown_eq_iff sections config s,
    map_bare_blocks_shown config sections⟩

/-- Between a divider and a verse, a blank section takes the frame and the space from the verse. -/
theorem blank_section_parts_break :
    ¬∀ (sections : List Section) (config : RenderConfig) (s : PageStyle),
      let kept := sections.filter fun s => s.isBreak || s.hasContent
      Html.render kept config = Html.render sections config ∧
        Page.render kept config s = Page.render sections config s := by
  intro h
  have hboth := h [.divider, .verse " ".toList .right, .verse "a".toList .right] .plain
    ⟨20, 4, "-".toList, .plain, .plain⟩
  revert hboth
  decide +kernel

end Layout

end MarkedVerse
