import MarkedVerse.Proofs.PageText
import MarkedVerse.Proofs.VerseNumbers

/-!
# Pages drawn with other switches

A page is drawn from the same blocks whatever the switches are (`Layout.blocks_redraw`), so two pages
of a document can be compared block by block: a comparison that goes through rows one behind the
other holds of the pages, and of what stands in front of each verse, when it holds of the parts of
each block (`Page.Joins.render`). So a compact page is the regular one with some of its blank rows
taken out, and the highlight decides about nothing but styles (`Page.switches_change_display_only`).
-/

namespace MarkedVerse

namespace Layout

/-- The blocks of a document are drawn as its configuration says. -/
theorem redraw_of_mem_blocks {config : RenderConfig} {sections : List Section} {block : Block}
    (h : block ∈ blocks config sections) : block.redraw config = block := by
  have hmap : (blocks config sections).map (Block.redraw config) =
      (blocks config sections).map id := by
    rw [← blocks_redraw, List.map_id]
  exact List.map_inj_left.1 hmap block h

end Layout

namespace Page

variable {T : List Row → List Row → Prop} {config config' : RenderConfig} {s : PageStyle}

/-! ## Comparing pages -/

/-- A comparison that goes through rows one behind the other. -/
structure Joins (T : List Row → List Row → Prop) : Prop where
  nil : T [] []
  append : ∀ {front front' behind behind'}, T front front' → T behind behind' →
    T (front ++ behind) (front' ++ behind')

/-- The rows above a block, those of its text, and those below compare. -/
structure Part.Compares (T : List Row → List Row → Prop) (p p' : Part) : Prop where
  above : T p.above p'.above
  text : T p.text p'.text
  below : T p.below p'.below

/-- Whatever a block shows, its parts compare when it is drawn with these configurations. -/
def ComparesBlocks (T : List Row → List Row → Prop) (config config' : RenderConfig)
    (s : PageStyle) : Prop :=
  ∀ block : Block,
    (part config s (block.redraw config)).Compares T (part config' s (block.redraw config'))

/-- The rows of blocks compare when the parts of each block do. -/
theorem Joins.rowsOf (hT : Joins T) {blocks : List Block}
    (h : ∀ block ∈ blocks,
      (part config s block).Compares T (part config' s (block.redraw config'))) :
    T (rowsOf config s blocks) (rowsOf config' s (blocks.map (Block.redraw config'))) := by
  induction blocks with
  | nil => exact hT.nil
  | cons block blocks ih =>
      have hblock := h block List.mem_cons_self
      have hrest := ih fun block' hmem => h block' (List.mem_cons_of_mem _ hmem)
      exact hT.append (hT.append (hT.append hblock.above hblock.text) hblock.below) hrest

/-- In front of the text of a block stand the rows of the blocks in front of it, and those above
the text. -/
theorem take_textStart (front behind : List Block) (b : Content) :
    (rowsOf config s (front ++ .content b :: behind)).take (textStart config s front b) =
      rowsOf config s front ++ (part config s (.content b)).above := by
  have hrows : rowsOf config s (front ++ .content b :: behind) =
      (rowsOf config s front ++ (part config s (.content b)).above) ++
        ((part config s (.content b)).text ++ ((part config s (.content b)).below ++
          rowsOf config s behind)) := by
    simp only [Page.rowsOf, List.flatMap_append, List.flatMap_cons, Part.rows, List.append_assoc]
  rw [hrows, textStart, ← List.length_append, List.take_left]

/-- The pages of a document compare when the parts of each block do, and so does what stands in
front of each verse. -/
theorem Joins.render (hT : Joins T) (h : ComparesBlocks T config config' s)
    (sections : List Section) :
    T (render sections config s).rows (render sections config' s).rows ∧
      List.Forall₂ (fun row row' => T ((render sections config s).rows.take row)
          ((render sections config' s).rows.take row'))
        (render sections config s).verseRows (render sections config' s).verseRows := by
  have hblocks' := Layout.blocks_redraw config config' sections
  have hparts : ∀ block ∈ Layout.blocks config sections,
      (part config s block).Compares T (part config' s (block.redraw config')) := by
    intro block hmem
    have hblock := h block
    rwa [Layout.redraw_of_mem_blocks hmem] at hblock
  constructor
  · rw [Page.render, Page.render, rows_ofBlocks, rows_ofBlocks, hblocks']
    exact hT.rowsOf hparts
  · rw [List.forall₂_iff_get]
    refine ⟨?_, fun verse hverse hverse' => ?_⟩
    · simp only [Page.render, length_verseRows_ofBlocks, Layout.filterMap_verse?_blocks]
    · have hrow := List.getElem?_eq_getElem hverse
      obtain ⟨front, b, behind, hblocks, hnumber, hstart⟩ := getElem?_verseRows_iff.1 hrow
      -- The other page knows the verse by the same block, drawn with the other configuration.
      obtain ⟨b', hb', hnumber'⟩ :
          ∃ b', Block.redraw config' (.content b) = .content b' ∧ b'.verse = some verse :=
        ⟨_, rfl, hnumber⟩
      rw [hblocks, List.map_append, List.map_cons, hb'] at hblocks'
      have hrow' := getElem?_verseRows_iff (s := s) |>.2 ⟨_, _, _, hblocks', hnumber', rfl⟩
      rw [List.getElem?_eq_getElem hverse', Option.some.injEq] at hrow'
      rw [List.get_eq_getElem, List.get_eq_getElem, hstart, hrow', Page.render, Page.render,
        rows_ofBlocks, rows_ofBlocks, hblocks, hblocks', take_textStart, take_textStart]
      have hfront := fun block hmem =>
        hparts block (hblocks ▸ List.mem_append_left _ hmem)
      have hblock := hparts (.content b) (by simp [hblocks])
      rw [hb'] at hblock
      exact hT.append (hT.rowsOf hfront) hblock.above

/-! ## Compact pages -/

/-- Rows with some of the blank ones taken out, and nothing else changed. -/
structure Tightens (rows rows' : List Row) : Prop where
  sublist : rows.Sublist rows'
  filled : (rows.filter fun row => row ≠ []) = rows'.filter fun row => row ≠ []

theorem Tightens.refl (rows : List Row) : Tightens rows rows :=
  ⟨.refl rows, rfl⟩

theorem joins_tightens : Joins Tightens where
  nil := .refl []
  append h hbehind :=
    ⟨h.sublist.append hbehind.sublist, by
      rw [List.filter_append, List.filter_append, h.filled, hbehind.filled]⟩

theorem tightens_blankRows {count count' : Nat} (h : count ≤ count') :
    Tightens (blankRows count) (blankRows count') := by
  have hblank : ∀ count, (blankRows count).filter (fun row => row ≠ []) = [] := by
    intro count
    rw [List.filter_eq_nil_iff]
    intro row hrow
    simp [List.eq_of_mem_replicate hrow]
  exact ⟨(List.replicate_sublist_replicate []).2 h, by rw [hblank, hblank]⟩

/-- A compact block has no more blank rows on either side than a regular one. -/
theorem rows_compact_le (spacing : Spacing) :
    (spacing.rows true).1 ≤ (spacing.rows false).1 ∧
      (spacing.rows true).2 ≤ (spacing.rows false).2 := by
  cases spacing <;> decide

theorem comparesBlocks_compact (config : RenderConfig) (s : PageStyle) :
    ComparesBlocks Tightens { config with compact := true } { config with compact := false } s := by
  intro block
  cases block with
  | divider origin margin =>
      have hmargin := tightens_blankRows (Nat.zero_le 1)
      exact ⟨joins_tightens.append hmargin (.refl _), .refl _, hmargin⟩
  | content b =>
      obtain ⟨habove, hbelow⟩ := rows_compact_le b.spacing
      exact ⟨joins_tightens.append (.refl _) (tightens_blankRows habove), .refl _,
        tightens_blankRows hbelow⟩

/-! ## Highlighted pages -/

/-- The texts of spans, row by row. -/
def texts (rows : List Row) : List (List Text) :=
  rows.map fun row => row.map Span.text

theorem joins_texts : Joins fun rows rows' => texts rows = texts rows' where
  nil := rfl
  append h hbehind := by
    simp only [texts, List.map_append] at h hbehind ⊢
    rw [h, hbehind]

/-- What a row of text says does not depend on the style of the text. -/
theorem map_text_textRow {b b' : Content} (s : PageStyle) (gutter : Nat) (badge : Option Nat)
    (placed : Nat × Text) :
    (textRow b s gutter badge placed).map Span.text =
      (textRow b' s gutter badge placed).map Span.text := by
  rw [textRow, textRow]
  dsimp only
  split <;> rfl

/-- Blocks that are highlighted or not have rows that say the same. -/
theorem texts_textRows (b : Content) (highlighted : Bool) (s : PageStyle) (gutter : Nat) :
    texts (textRows { b with highlighted } s gutter) = texts (textRows b s gutter) := by
  refine List.ext_getElem? fun k => ?_
  simp only [texts, textRows_eq_mapIdx, List.getElem?_map, List.getElem?_mapIdx, Option.map_map]
  exact Option.map_congr fun placed _ => map_text_textRow s gutter _ placed

theorem comparesBlocks_highlight (config : RenderConfig) (highlight : Bool)
    (currentVerse : Option Nat) (s : PageStyle) :
    ComparesBlocks (fun rows rows' => texts rows = texts rows')
      { config with highlight, currentVerse } config s := by
  intro block
  cases block with
  | divider origin margin => exact ⟨rfl, rfl, rfl⟩
  | content b =>
      have htext := texts_textRows
        { b with badge := if config.numbers then b.verse.map (· + 1) else none }
      exact ⟨rfl, (htext _ s _).trans (htext _ s _).symm, rfl⟩

/-- The plain text of a page is put together from the texts of its spans. -/
theorem toPlainText_eq (p : Page) :
    p.toPlainText = Text.join ['\n'] ((texts p.rows).map fun row => Text.trimEnd row.flatten) := by
  rw [toPlainText, texts, List.map_map]
  refine congrArg (Text.join ['\n']) (List.map_congr_left fun row _ => ?_)
  rw [Function.comp_apply, rowText, List.flatMap_def]

/-! ## The switches -/

/-- The rows of verses on a page are places between its rows. -/
theorem length_take_of_mem_verseRows {sections : List Section} {row : Nat}
    (h : row ∈ (render sections config s).verseRows) :
    ((render sections config s).rows.take row).length = row := by
  rw [List.length_take, Nat.min_eq_left (Nat.le_of_lt (lt_of_mem_verseRows h))]

/-- The compact page of a document is its regular page with some blank rows taken out: all other
rows are there, with the same spans and styles, in the same order. It is the same in front of each
verse, so no verse starts on a later row. And neither the highlight nor the verse at the reading
position changes anything but the styles of spans. -/
theorem switches_change_display_only (sections : List Section) (config : RenderConfig)
    (s : PageStyle) :
    (let compact := render sections { config with compact := true } s
     let regular := render sections { config with compact := false } s
     Tightens compact.rows regular.rows ∧
      List.Forall₂ (fun row row' => row ≤ row' ∧
          Tightens (compact.rows.take row) (regular.rows.take row'))
        compact.verseRows regular.verseRows) ∧
    ∀ highlight currentVerse,
      let page := render sections config s
      let page' := render sections { config with highlight, currentVerse } s
      texts page'.rows = texts page.rows ∧ page'.verseRows = page.verseRows ∧
        page'.toPlainText = page.toPlainText := by
  refine ⟨?_, fun highlight currentVerse => ?_⟩
  · intro compact regular
    obtain ⟨hrows, hverses⟩ := joins_tightens.render (comparesBlocks_compact config s) sections
    refine ⟨hrows, List.forall₂_iff_get.2 ⟨hverses.length_eq, fun verse hverse hverse' => ?_⟩⟩
    have hfront := hverses.get hverse hverse'
    have hle := hfront.sublist.length_le
    rw [length_take_of_mem_verseRows (List.get_mem _ _),
      length_take_of_mem_verseRows (List.get_mem _ _)] at hle
    exact ⟨hle, hfront⟩
  · intro page page'
    obtain ⟨hrows, hverses⟩ := joins_texts.render
      (comparesBlocks_highlight config highlight currentVerse s) sections
    refine ⟨hrows, ?_, by rw [toPlainText_eq, toPlainText_eq, hrows]⟩
    refine List.ext_get hverses.length_eq fun verse hverse hverse' => ?_
    have hfront := congrArg List.length (hverses.get hverse hverse')
    simp only [texts, List.length_map] at hfront
    rwa [length_take_of_mem_verseRows (List.get_mem _ _),
      length_take_of_mem_verseRows (List.get_mem _ _)] at hfront

end Page

end MarkedVerse
