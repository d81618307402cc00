import MarkedVerse.Proofs.PageWidth
import MarkedVerse.Proofs.WrappedText

/-!
# A page shows its document

A page says what its document says, and knows where (`page_shows_document`): its rows of text are,
up to blanks, the lines of all sections but dividers, in order, and of every verse it knows the
first row of text, which is the only one with the number of the verse.
-/

namespace MarkedVerse.Page

variable {config : RenderConfig} {s : PageStyle} {sections : List Section} {blocks : List Block}

/-! ## Texts of rows -/

/-- The text on a row of text, behind the padding in front of it. -/
def textSpan (row : Row) : Text :=
  ((row[1]?).map Span.text).getD []

theorem textSpan_textRow (b : Content) (s : PageStyle) (gutter : Nat) (badge : Option Nat)
    (placed : Nat × Text) : textSpan (textRow b s gutter badge placed) = placed.2 := by
  rw [textRow]
  dsimp only
  split <;> rfl

/-- The rows of text of a block say what was placed on them. -/
theorem map_textSpan_textRows (b : Content) (s : PageStyle) (gutter : Nat) :
    (textRows b s gutter).map textSpan =
      (placeRows b (s.width - gutter) s.indent).map Prod.snd := by
  refine List.ext_getElem? fun k => ?_
  rw [textRows_eq_mapIdx, List.getElem?_map, List.getElem?_mapIdx, Option.map_map,
    List.getElem?_map]
  exact Option.map_congr fun placed _ => textSpan_textRow b s gutter _ placed

/-- Lines that stand for themselves are placed as what they say. -/
theorem letters_placeLines (lines : List Text) (a : Alignment) (column indent : Nat) :
    Text.letters ((placeLines lines a column indent).map Prod.snd).flatten =
      Text.letters lines.flatten := by
  have hplaced : (placeLines lines a column indent).map Prod.snd =
      lines.flatMap fun line => Text.wrap line column := by
    rw [placeLines, List.map_map]
    exact List.map_id _
  rw [hplaced, Text.letters_flatMap_wrap]

/-- The lines of a block are placed as what they say. -/
theorem letters_placeRows (b : Content) (column indent : Nat) :
    Text.letters ((placeRows b column indent).map Prod.snd).flatten =
      Text.letters b.lines.flatten := by
  rw [placeRows]
  split
  · next first second _ hlines =>
      dsimp only
      split
      · rw [hlines]
        rfl
      · exact letters_placeLines _ _ _ _
  · exact letters_placeLines _ _ _ _

/-- The rows of text of blocks say what the lines of the blocks say. -/
theorem letters_text_parts (config : RenderConfig) (s : PageStyle) (blocks : List Block) :
    Text.letters ((blocks.flatMap fun block => (part config s block).text).map textSpan).flatten =
      Text.letters (blocks.flatMap Block.lines).flatten := by
  induction blocks with
  | nil => rfl
  | cons block blocks ih =>
      have hblock : Text.letters ((part config s block).text.map textSpan).flatten =
          Text.letters block.lines.flatten := by
        cases block with
        | divider origin margin => rfl
        | content b =>
            rw [part, map_textSpan_textRows, letters_placeRows]
            rfl
      rw [List.flatMap_cons, List.map_append, List.flatten_append, Text.letters_append, hblock, ih,
        List.flatMap_cons, List.flatten_append, Text.letters_append]

/-! ## Rows of verses -/

/-- The rows of verses stand behind what is in front of the page. -/
theorem le_of_mem_verseRows {before row : Nat}
    (h : row ∈ (ofBlocks config s before blocks).verseRows) : before ≤ row := by
  obtain ⟨verse, h⟩ := List.mem_iff_getElem?.1 h
  obtain ⟨front, b, behind, -, -, rfl⟩ := exists_of_verseRows_ofBlocks h
  exact Nat.le_add_right _ _

/-- The rows of verses stand in order, when every block of text has rows. -/
theorem pairwise_verseRows (before : Nat)
    (h : ∀ b, .content b ∈ blocks → textRows b s (gutter config s) ≠ []) :
    (ofBlocks config s before blocks).verseRows.Pairwise (· < ·) := by
  induction blocks generalizing before with
  | nil => exact .nil
  | cons block blocks ih =>
      have hlater := ih (before + (part config s block).rows.length)
        fun b hb => h b (List.mem_cons_of_mem _ hb)
      rw [verseRows_ofBlocks_cons]
      split
      · next hverse =>
          refine .cons (fun row hrow => ?_) hlater
          cases block with
          | divider origin margin => cases hverse
          | content b =>
              have htext := List.length_pos_iff.2 (h b List.mem_cons_self)
              have hle := le_of_mem_verseRows hrow
              rw [blockRows_fst]
              simp only [Part.rows, part, List.length_append] at hle ⊢
              omega
      · exact hlater

/-- A row of a verse is one of the page. -/
theorem lt_of_mem_verseRows {row : Nat} (h : row ∈ (render sections config s).verseRows) :
    row < (render sections config s).rows.length := by
  obtain ⟨verse, h⟩ := List.mem_iff_getElem?.1 h
  obtain ⟨front, b, behind, hblocks, -, rfl⟩ := getElem?_verseRows_iff.1 h
  obtain ⟨spans, hline⟩ := exists_getElem?_textStart hblocks
  exact (List.getElem?_eq_some_iff.1 hline.2).1

/-! ## Numbers of verses -/

/-- Different numbers are shown differently. -/
theorem badgeText_inj {m n gutter : Nat} : badgeText m gutter = badgeText n gutter ↔ m = n := by
  have hdigits : ∀ n, (badgeText n gutter).filter Char.isDigit = Text.decimal n := by
    intro n
    have hall : (Text.decimal n).filter Char.isDigit = Text.decimal n :=
      List.filter_eq_self.2 fun c hc => Text.isDigit_of_mem_decimal hc
    have hnone : ∀ count, (Text.spaces count).filter Char.isDigit = [] := by
      intro count
      rw [Text.spaces, List.filter_replicate, if_neg (by decide)]
    rw [badgeText, Text.padEnd, List.filter_append, List.filter_append, hall, hnone, hnone,
      List.append_nil, List.nil_append]
  refine ⟨fun h => ?_, fun h => h ▸ rfl⟩
  rw [← Text.decimal_inj, ← hdigits, h, hdigits]

/-- What stands in the gutter of a row of text. -/
theorem getElem?_textRow {gutter : Nat} (hgutter : gutter ≠ 0) (b : Content) (s : PageStyle)
    (badge : Option Nat) (placed : Nat × Text) :
    (textRow b s gutter badge placed)[3]? =
      some ⟨(badge.map fun n => badgeText n gutter).getD [], s.badge⟩ := by
  rw [textRow]
  simp [hgutter]

/-- The number of a block stands in the gutter of its first row of text, and nothing in that of the
others. -/
theorem getElem?_textRows {gutter k : Nat} {spans : Row} (hgutter : gutter ≠ 0) {b : Content}
    (h : (textRows b s gutter)[k]? = some spans) :
    spans[3]? = some ⟨((if k = 0 then b.badge else none).map fun n => badgeText n gutter).getD [],
      s.badge⟩ := by
  rw [textRows_eq_mapIdx, List.getElem?_mapIdx] at h
  obtain ⟨placed, -, rfl⟩ := Option.map_eq_some_iff.1 h
  exact getElem?_textRow hgutter b s _ placed

/-- A row of text with a number is the first one of its block. -/
theorem badge_of_textRows {gutter number k : Nat} {spans : Row} (hgutter : gutter ≠ 0) {b : Content}
    (h : (textRows b s gutter)[k]? = some spans)
    (hbadge : spans[3]? = some ⟨badgeText number gutter, s.badge⟩) :
    k = 0 ∧ b.badge = some number := by
  have hne : badgeText number gutter ≠ [] := by simp [badgeText, Text.spaces]
  rw [getElem?_textRows hgutter h] at hbadge
  have hshown := congrArg Span.text (Option.some.inj hbadge)
  cases k with
  | zero =>
      rw [if_pos rfl] at hshown
      cases hb : b.badge with
      | none =>
          rw [hb] at hshown
          exact absurd hshown.symm hne
      | some n =>
          rw [hb] at hshown
          exact ⟨rfl, congrArg some (badgeText_inj.1 hshown)⟩
  | succ k => exact absurd hshown.symm hne

/-- In the gutter around the text of a block stands nothing. -/
theorem getElem?_of_above_below {block : Block} {spans : Row}
    (h : spans ∈ (part config s block).above ++ (part config s block).below) :
    spans[3]? = none := by
  obtain rfl | ⟨length, -, rfl⟩ := blank_or_rule h
  · rfl
  · rfl

/-- A row with a number in its gutter is the first row of text of the block with this number. -/
theorem exists_of_badge (hgutter : gutter config s ≠ 0) {number row : Nat} {spans : Row}
    (hline : (rowsOf config s blocks)[row]? = some spans)
    (hbadge : spans[3]? = some ⟨badgeText number (gutter config s), s.badge⟩) :
    ∃ front b behind, blocks = front ++ .content b :: behind ∧ b.badge = some number ∧
      row = textStart config s front b := by
  obtain ⟨front, block, behind, k, rfl, rfl, hk⟩ := exists_of_getElem?_flatMap hline
  have hinside : spans ∉ (part config s block).above ++ (part config s block).below := by
    intro hmem
    rw [getElem?_of_above_below hmem] at hbadge
    cases hbadge
  rw [List.mem_append, not_or] at hinside
  rw [Part.rows, List.append_assoc, List.getElem?_append] at hk
  split at hk
  · exact absurd (List.mem_of_getElem? hk) hinside.1
  · next habove =>
      rw [List.getElem?_append] at hk
      split at hk
      · cases block with
        | divider origin margin => cases hk
        | content b =>
            obtain ⟨hfirst, hnumber⟩ := badge_of_textRows hgutter hk hbadge
            refine ⟨front, b, behind, rfl, hnumber, ?_⟩
            rw [textStart, rowsOf]
            omega
      · exact absurd (List.mem_of_getElem? hk) hinside.2

/-- A page knows for a verse the only row with the number of the verse. -/
theorem getElem?_verseRows_iff_badge (hgutter : gutter config s ≠ 0) {verse row : Nat} :
    (render sections config s).verseRows[verse]? = some row ↔
      ∃ spans, (render sections config s).rows[row]? = some spans ∧
        spans[3]? = some ⟨badgeText (verse + 1) (gutter config s), s.badge⟩ := by
  have hnumber : ∀ {b}, .content b ∈ Layout.blocks config sections →
      (b.verse = some verse ↔ b.badge = some (verse + 1)) := by
    intro b hb
    rw [Layout.badge_eq hb, if_pos (numbers_of_gutter_ne_zero hgutter)]
    simp
  rw [getElem?_verseRows_iff]
  constructor
  · rintro ⟨front, b, behind, hblocks, hverse, rfl⟩
    obtain ⟨spans, hhead, hline⟩ := exists_getElem?_textStart hblocks
    rw [List.head?_eq_getElem?] at hhead
    refine ⟨spans, hline, ?_⟩
    rw [getElem?_textRows hgutter hhead, if_pos rfl, (hnumber (by simp [hblocks])).1 hverse]
    rfl
  · rintro ⟨spans, hline, hbadge⟩
    rw [render, rows_ofBlocks] at hline
    obtain ⟨front, b, behind, hblocks, hshown, hrow⟩ := exists_of_badge hgutter hline hbadge
    exact ⟨front, b, behind, hblocks, (hnumber (by simp [hblocks])).2 hshown, hrow⟩

/-! ## The document on its page -/

/-- A page on which a document can be read and every verse be found. -/
structure ShowsDocument (sections : List Section) (config : RenderConfig) (s : PageStyle)
    (page : Page) : Prop where
  /-- The rows are those of the blocks, in order. -/
  rows : page.rows = ((Layout.blocks config sections).map (part config s)).flatMap Part.rows
  /-- What does not belong to the text of a block is blank or a rule. -/
  around : ∀ block ∈ Layout.blocks config sections,
    ∀ row ∈ (part config s block).above ++ (part config s block).below,
      row = [] ∨ ∃ length, length ≤ s.width ∧ row = rule s length
  /-- The texts on the rows of text say, up to blanks, what headings and verses say. -/
  text : Text.letters ((((Layout.blocks config sections).map (part config s)).flatMap
      Part.text).map textSpan).flatten =
    Text.letters ((sections.filter fun s => !s.isBreak).flatMap Section.lines).flatten
  /-- There is a row for each section that has a number as a verse. -/
  count : page.verseRows.length = ((Layout.verseIndices sections).filterMap id).length
  increasing : page.verseRows.Pairwise (· < ·)
  inside : ∀ row ∈ page.verseRows, row < page.rows.length
  /-- The row of a verse is the first row of text of the block that the section of this number
  leaves. -/
  first : ∀ verse row, page.verseRows[verse]? = some row →
    ∃ front b behind spans, Layout.blocks config sections = front ++ .content b :: behind ∧
      b.verse = some verse ∧ (Layout.verseIndices sections)[b.origin]? = some (some verse) ∧
      row = textStart config s front b ∧
      (part config s (.content b)).text.head? = some spans ∧ page.rows[row]? = some spans
  /-- With a gutter for numbers, this row has the number of the verse, and no other row has. -/
  badge : gutter config s ≠ 0 → ∀ verse row, page.verseRows[verse]? = some row ↔
    ∃ spans : Row, page.rows[row]? = some spans ∧
      spans[3]? = some ⟨badgeText (verse + 1) (gutter config s), s.badge⟩

/-- In a column of any width, even one without cells, the page of a document shows all of it. -/
theorem page_shows_document (sections : List Section) (config : RenderConfig) (s : PageStyle) :
    ShowsDocument sections config s (render sections config s) where
  rows := by rw [render, rows_ofBlocks, rowsOf, List.flatMap_map]
  around _ _ _ := blank_or_rule
  text := by rw [List.flatMap_map, letters_text_parts, Layout.flatMap_lines_blocks]
  count := by
    rw [render, length_verseRows_ofBlocks, Layout.filterMap_verse?_blocks, Layout.verseIndices,
      Layout.filterMap_verseIndicesFrom, List.length_range, List.length_range']
  increasing := pairwise_verseRows 0 fun _ => textRows_ne_nil
  inside _ := lt_of_mem_verseRows
  first verse row h := by
    obtain ⟨front, b, behind, hblocks, hverse, hrow⟩ := getElem?_verseRows_iff.1 h
    obtain ⟨spans, hhead, hline⟩ := exists_getElem?_textStart hblocks
    have hb : .content b ∈ Layout.blocks config sections := by simp [hblocks]
    obtain ⟨-, hindex⟩ := Layout.getElem?_verseIndicesFrom hb
    rw [Nat.sub_zero, hverse] at hindex
    exact ⟨front, b, behind, spans, hblocks, hverse, hindex, hrow, hhead, hrow ▸ hline⟩
  badge hgutter _ _ := getElem?_verseRows_iff_badge hgutter

end MarkedVerse.Page
