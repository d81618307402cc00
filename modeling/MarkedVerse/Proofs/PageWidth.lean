import MarkedVerse.Proofs.PageParts

/-!
# The width of a page

Every row of a page fits into its column, apart from verse numbers: the gutter is narrow in a narrow
column, but a number takes two spaces and all of its digits (`page_fits_iff`).
-/

namespace MarkedVerse

/-! ## The style of a page -/

namespace PageStyle

@[simp]
theorem width_fitTo (r : ReaderConfig) (available : Nat) :
    ((ofConfig r).fitTo available).width = max (min r.width available) 1 :=
  rfl

@[simp]
theorem ruleGlyph_fitTo (r : ReaderConfig) (available : Nat) :
    ((ofConfig r).fitTo available).ruleGlyph = r.ruleGlyph.toList :=
  rfl

end PageStyle

/-! ## Rows -/

namespace Page

/-- The cells of a row. -/
def rowWidth (row : Row) : Nat :=
  total (fun span => Text.width span.text) row

variable {s : PageStyle} {column indent : Nat} {a : Alignment}

/-- What stands in front of a line leaves room for it. -/
theorem leadingPadding_le (line column : Nat) (a : Alignment) (indent : Nat) :
    leadingPadding line column a indent ≤ column - line := by
  cases a <;> simp only [leadingPadding] <;> omega

/-- A placed row ends in the column. -/
def InColumn (column : Nat) (placed : Nat × Text) : Prop :=
  placed.1 + Text.width placed.2 ≤ column

theorem inColumn_of_mem_placeLines (hcolumn : 2 ≤ column) {lines : List Text} {placed : Nat × Text}
    (h : placed ∈ placeLines lines a column indent) : InColumn column placed := by
  obtain ⟨row, hrow, rfl⟩ := List.mem_map.1 h
  obtain ⟨line, -, hwrap⟩ := List.mem_flatMap.1 hrow
  have hfits := Text.width_le_of_mem_wrap hcolumn hwrap
  have hpadding := leadingPadding_le (Text.width row) column a indent
  simp only [InColumn]
  omega

/-- Lines that stand for themselves and couplets end in the column. -/
theorem inColumn_of_mem_placeRows (hcolumn : 2 ≤ column) {b : Content} {placed : Nat × Text}
    (h : placed ∈ placeRows b column indent) : InColumn column placed := by
  rw [placeRows] at h
  split at h
  · next first second _ hlines =>
      simp only at h
      split at h
      · next hunit =>
          have hpadding := leadingPadding_le (max (Text.width first) (Text.width second)) column
            b.placement indent
          simp only [List.mem_cons, List.not_mem_nil, or_false] at h
          rcases h with rfl | rfl
          all_goals
            simp only [InColumn]
            omega
      · exact inColumn_of_mem_placeLines hcolumn h
  · exact inColumn_of_mem_placeLines hcolumn h

/-- A number takes two spaces and all of its digits, also where the gutter is narrower. -/
theorem width_badgeText (number gutter : Nat) :
    Text.width (badgeText number gutter) =
      2 + max (gutter - 2) (Text.decimal number).length := by
  have hplain : ∀ c ∈ badgeText number gutter, Text.IsPlain c := by
    intro c hc
    have hspace : ∀ count, c ∈ Text.spaces count → Text.IsPlain c := by
      intro count hmem
      rw [List.eq_of_mem_replicate hmem]
      exact Text.isPlain_space
    rw [badgeText, Text.padEnd, List.mem_append, List.mem_append] at hc
    rcases hc with hc | hc | hc
    · exact hspace _ hc
    · exact Text.isPlain_of_isDigit (Text.isDigit_of_mem_decimal hc)
    · exact hspace _ hc
  rw [Text.width_of_isPlain hplain, badgeText, Text.padEnd]
  simp only [Text.spaces, List.length_append, List.length_replicate]
  omega

/-- The cells that stand in the gutter of a row. -/
def badgeWidth (gutter : Nat) : Option Nat → Nat
  | none => 0
  | some number => 2 + max (gutter - 2) (Text.decimal number).length

/-- Without a gutter, a row takes what is placed on it. -/
theorem rowWidth_textRow_zero (b : Content) (s : PageStyle) (badge : Option Nat)
    (placed : Nat × Text) :
    rowWidth (textRow b s 0 badge placed) = placed.1 + Text.width placed.2 := by
  obtain ⟨pad, t⟩ := placed
  simp [textRow, rowWidth, total]

/-- With a gutter, a row takes the column of text and what stands in the gutter. -/
theorem rowWidth_textRow {gutter : Nat} (hgutter : gutter ≠ 0) (b : Content) (s : PageStyle)
    (badge : Option Nat) {placed : Nat × Text} (h : InColumn (s.width - gutter) placed) :
    rowWidth (textRow b s gutter badge placed) = s.width - gutter + badgeWidth gutter badge := by
  obtain ⟨pad, t⟩ := placed
  have hbadge : Text.width ((badge.map fun n => badgeText n gutter).getD []) =
      badgeWidth gutter badge := by
    cases badge with
    | none => rfl
    | some number => exact width_badgeText number gutter
  simp only [InColumn] at h
  simp only [textRow, if_neg hgutter, rowWidth, total_append, total, Text.width_spaces, hbadge]
  omega

/-- A number fits into the gutter when it has at most all digits but two spaces. -/
theorem badgeWidth_le_iff {gutter number : Nat} (hnumber : 0 < number) :
    badgeWidth gutter (some number) ≤ gutter ↔ number < 10 ^ (gutter - 2) := by
  have hpos : 0 < (Text.decimal number).length := Nat.length_toDigits_pos
  rw [badgeWidth]
  by_cases hgutter : 2 < gutter
  · have hdigits : (Text.decimal number).length ≤ gutter - 2 ↔ number < 10 ^ (gutter - 2) :=
      Nat.length_toDigits_le_iff (by decide) (by omega)
    rw [← hdigits]
    omega
  · have hzero : gutter - 2 = 0 := by omega
    rw [hzero, Nat.pow_zero]
    omega

/-- The rows of a block fit into the column when its number fits into the gutter. -/
theorem rowWidth_le_of_mem_textRows {b : Content} {gutter : Nat} {row : Row}
    (hcolumn : 2 ≤ s.width - gutter)
    (hbadge : gutter ≠ 0 → ∀ n, b.badge = some n → badgeWidth gutter (some n) ≤ gutter)
    (h : row ∈ textRows b s gutter) : rowWidth row ≤ s.width := by
  rw [textRows_eq_mapIdx] at h
  obtain ⟨k, hk, rfl⟩ := List.mem_mapIdx.1 h
  have hplaced := inColumn_of_mem_placeRows hcolumn (List.getElem_mem hk)
  by_cases hgutter : gutter = 0
  · subst hgutter
    rw [rowWidth_textRow_zero]
    exact hplaced
  · have hfits : badgeWidth gutter (if k = 0 then b.badge else none) ≤ gutter := by
      split
      · cases hnumber : b.badge with
        | none => exact Nat.zero_le _
        | some number => exact hbadge hgutter number hnumber
      · exact Nat.zero_le _
    rw [rowWidth_textRow hgutter b s _ hplaced]
    omega

/-- The first row of a block holds its number. -/
theorem exists_rowWidth_eq {b : Content} {gutter : Nat} (hgutter : gutter ≠ 0)
    (hcolumn : 2 ≤ s.width - gutter) (hlines : b.lines ≠ [])
    (hverse : ∀ line ∈ b.lines, Text.IsVerseLine line) :
    ∃ row ∈ textRows b s gutter,
      rowWidth row = s.width - gutter + badgeWidth gutter b.badge := by
  have hpos := List.length_pos_iff.2 (placeRows_ne_nil hlines hverse (s.width - gutter) s.indent)
  have hfirst := inColumn_of_mem_placeRows hcolumn (List.getElem_mem hpos)
  refine ⟨_, ?_, rowWidth_textRow hgutter b s b.badge hfirst⟩
  rw [textRows_eq_mapIdx]
  exact List.mem_mapIdx.2 ⟨0, hpos, rfl⟩

/-- No glyph of a rule takes more cells than it does alone, unless it starts with a regional
indicator. -/
theorem width_replicate_le {glyph : Text}
    (h : ∀ c, glyph.head? = some c → Text.Cluster.role c ≠ .regional) (count : Nat) :
    Text.width (List.replicate count glyph).flatten ≤ count * Text.width glyph := by
  induction count with
  | zero => exact Nat.zero_le _
  | succ count ih =>
      have happend : Text.width (glyph ++ (List.replicate count glyph).flatten) ≤
          Text.width glyph + Text.width (List.replicate count glyph).flatten := by
        refine Text.width_append_le fun c rest heq hregional => ?_
        -- What follows a glyph is nothing, or starts with the first character of the glyph.
        cases glyph with
        | nil => simp at heq
        | cons d glyph =>
            cases count with
            | zero => cases heq
            | succ count =>
                obtain ⟨rfl, -⟩ := List.cons.inj heq
                exact absurd hregional (h d rfl)
      rw [List.replicate_succ, List.flatten_cons, Nat.succ_mul]
      omega

/-- A rule fits into the column. -/
theorem rowWidth_rule_le (hglyph : ∀ c, s.ruleGlyph.head? = some c →
    Text.Cluster.role c ≠ .regional) {length : Nat} (hlength : length ≤ s.width) :
    rowWidth (rule s length) ≤ s.width := by
  have hglyphs := width_replicate_le hglyph (length / max (Text.width s.ruleGlyph) 1)
  have hcells : length / max (Text.width s.ruleGlyph) 1 * max (Text.width s.ruleGlyph) 1 ≤ length :=
    Nat.div_mul_le_self _ _
  have hmax : length / max (Text.width s.ruleGlyph) 1 * Text.width s.ruleGlyph ≤
      length / max (Text.width s.ruleGlyph) 1 * max (Text.width s.ruleGlyph) 1 :=
    Nat.mul_le_mul_left _ (Nat.le_max_left _ _)
  simp only [rule, rowWidth, total, Text.width_spaces]
  omega

/-! ## Pages -/

/-- The rows of a page are those of its blocks. -/
theorem rows_render (sections : List Section) (config : RenderConfig) (s : PageStyle) :
    (render sections config s).rows =
      (Layout.blocks config sections).flatMap fun b => (blockRows config s b).2 := by
  simp only [render, rows_ofBlocks, rowsOf, blockRows_snd]

/-- A row of a block is blank, a rule, or one of its text. -/
theorem mem_blockRows {config : RenderConfig} {block : Block} {row : Row}
    (h : row ∈ (blockRows config s block).2) :
    row = [] ∨ (∃ length, length ≤ s.width ∧ row = rule s length) ∨
      ∃ b, block = .content b ∧ row ∈ textRows b s (gutter config s) := by
  rw [blockRows_snd, Part.rows, List.append_assoc, List.mem_append, List.mem_append] at h
  obtain h | h | h := h
  · exact (blank_or_rule (List.mem_append_left _ h)).imp_right .inl
  · cases block with
    | divider origin margin => cases h
    | content b => exact .inr (.inr ⟨b, rfl, h⟩)
  · exact (blank_or_rule (List.mem_append_right _ h)).imp_right .inl

/-- The rows of its text are among those of a block. -/
theorem mem_blockRows_of_mem_textRows {config : RenderConfig} {b : Content} {row : Row}
    (h : row ∈ textRows b s (gutter config s)) : row ∈ (blockRows config s (.content b)).2 := by
  rw [blockRows_snd]
  exact List.mem_append_left _ (List.mem_append_right _ h)

variable {sections : List Section} {config : RenderConfig}

/-- The gutter leaves two cells of the column. -/
theorem two_le_column (config : RenderConfig) (hwidth : 2 ≤ s.width) :
    2 ≤ s.width - gutter config s := by
  rw [gutter]
  split <;> omega

/-- A page with a gutter shows the numbers of its verses. -/
theorem numbers_of_gutter_ne_zero (hgutter : gutter config s ≠ 0) : config.numbers = true := by
  by_contra hoff
  rw [gutter, if_neg hoff] at hgutter
  exact hgutter rfl

/-- When all rows fit, the count of verses fits into the gutter. -/
theorem verseCount_lt_of_rowWidth_le (hwidth : 2 ≤ s.width)
    (hfit : ∀ row ∈ (render sections config s).rows, rowWidth row ≤ s.width)
    (hgutter : gutter config s ≠ 0) :
    Layout.verseCount sections < 10 ^ (gutter config s - 2) := by
  have hcolumn := two_le_column config hwidth
  rcases Nat.eq_zero_or_pos (Layout.verseCount sections) with hzero | hpos
  · rw [hzero]
    exact Nat.pow_pos (by decide)
  -- The last verse has the widest number, in the first row of its block.
  · obtain ⟨b, hb, hbadge⟩ :=
      Layout.exists_badge_eq_verseCount (numbers_of_gutter_ne_zero hgutter) hpos
    obtain ⟨-, hlines, hverse⟩ := Layout.of_mem_blocksFrom hb
    obtain ⟨row, hrow, hcells⟩ := exists_rowWidth_eq hgutter hcolumn hlines hverse
    have hle : rowWidth row ≤ s.width := by
      refine hfit row ?_
      rw [rows_render]
      exact List.mem_flatMap.2 ⟨_, hb, mem_blockRows_of_mem_textRows hrow⟩
    rw [hcells, hbadge, Nat.zero_add] at hle
    exact (badgeWidth_le_iff hpos).1 (by omega)

/-- When the count of verses fits into the gutter, or there is none, all rows fit. -/
theorem rowWidth_le_of_verseCount_lt (hwidth : 2 ≤ s.width)
    (hglyph : ∀ c, s.ruleGlyph.head? = some c → Text.Cluster.role c ≠ .regional)
    (hcount : gutter config s ≠ 0 → Layout.verseCount sections < 10 ^ (gutter config s - 2)) :
    ∀ row ∈ (render sections config s).rows, rowWidth row ≤ s.width := by
  intro row hrow
  rw [rows_render] at hrow
  obtain ⟨block, hblock, hrow⟩ := List.mem_flatMap.1 hrow
  rcases mem_blockRows hrow with rfl | ⟨length, hlength, rfl⟩ | ⟨b, rfl, htext⟩
  · exact Nat.zero_le _
  · exact rowWidth_rule_le hglyph hlength
  · refine rowWidth_le_of_mem_textRows (two_le_column config hwidth)
      (fun hgutter n hbadge => ?_) htext
    obtain ⟨hpos, hle⟩ := (Layout.of_mem_blocksFrom hblock).1 n hbadge
    have hless := hcount hgutter
    rw [badgeWidth_le_iff hpos]
    omega

/-- All rows fit exactly when there is no gutter or the count of verses fits into it. -/
theorem rowWidth_le_iff (hwidth : 2 ≤ s.width)
    (hglyph : ∀ c, s.ruleGlyph.head? = some c → Text.Cluster.role c ≠ .regional) :
    (∀ row ∈ (render sections config s).rows, rowWidth row ≤ s.width) ↔
      gutter config s = 0 ∨ Layout.verseCount sections < 10 ^ (gutter config s - 2) := by
  constructor
  · intro hfit
    exact or_iff_not_imp_left.2 (verseCount_lt_of_rowWidth_le hwidth hfit)
  · intro hcount
    exact rowWidth_le_of_verseCount_lt hwidth hglyph (or_iff_not_imp_left.1 hcount)

end Page

/-- Every row of a page fits into its column, provided that there are few enough verses for the
gutter that their numbers stand in, or no gutter: two of its cells are spaces, and the others are
for the digits. When there are more verses, the row with the number of the last one is too wide. The
glyph of the rules must not start with a regional indicator, because such glyphs are paired anew
when they are repeated. -/
theorem page_fits_iff (sections : List Section) (config : RenderConfig) (reader : ReaderConfig)
    {available : Nat} (havailable : 2 ≤ available)
    (hglyph : ∀ c, (Config.validateReader reader).ruleGlyph.toList.head? = some c →
      Text.Cluster.role c ≠ .regional) :
    let column := min (Config.validateReader reader).width available
    let style := (PageStyle.ofConfig (Config.validateReader reader)).fitTo available
    let gutter := Page.gutter config style
    (∀ row ∈ (Page.render sections config style).rows, Page.rowWidth row ≤ column) ↔
      gutter = 0 ∨ Layout.verseCount sections < 10 ^ (gutter - 2) := by
  intro column style gutter
  have hreader : 20 ≤ (Config.validateReader reader).width := by
    simp only [Config.validateReader, Config.defaultWidth]
    split <;> omega
  have hwidth : style.width = column := by
    rw [PageStyle.width_fitTo]
    omega
  have hrule : style.ruleGlyph = (Config.validateReader reader).ruleGlyph.toList :=
    PageStyle.ruleGlyph_fitTo _ _
  rw [← hwidth]
  rw [← hrule] at hglyph
  exact Page.rowWidth_le_iff (by omega) hglyph

/-- A page of seventeen cells with a word that is broken between wide characters, a couplet, and a
rule of wide glyphs: the gutter has four cells, and two verses fit. -/
theorem page_fits_iff_in_narrow_column :
    let reader : ReaderConfig := ⟨72, 8, "漢", none, none⟩
    let config : RenderConfig := ⟨false, true, some 0, true⟩
    let sections := Section.parse "漢字漢字漢字漢字漢字 one||BREAK:center||two\nthree".toList
    (2 ≤ 17 ∧ ∀ c, (Config.validateReader reader).ruleGlyph.toList.head? = some c →
      Text.Cluster.role c ≠ .regional) ∧
    ∀ row ∈ (Page.render sections config
      ((PageStyle.ofConfig (Config.validateReader reader)).fitTo 17)).rows,
      Page.rowWidth row ≤ 17 := by
  intro reader config sections
  have havailable : 2 ≤ 17 := by decide
  have hglyph : ∀ c, (Config.validateReader reader).ruleGlyph.toList.head? = some c →
      Text.Cluster.role c ≠ .regional := by
    intro c hc
    obtain rfl : '漢' = c := by
      have hhead : (Config.validateReader reader).ruleGlyph.toList.head? = some '漢' := by
        decide +kernel
      rw [hhead] at hc
      exact Option.some.inj hc
    decide +kernel
  refine ⟨⟨havailable, hglyph⟩, ?_⟩
  refine (page_fits_iff sections config reader havailable hglyph).2 (.inr ?_)
  decide +kernel

/-- In a column of eight cells, the gutter has two, and the number of the first verse takes three:
the page is one cell too wide. -/
theorem number_wider_than_gutter :
    ¬∀ (sections : List Section) (config : RenderConfig) (reader : ReaderConfig) (available : Nat),
      2 ≤ available → ∀ row ∈ (Page.render sections config
        ((PageStyle.ofConfig (Config.validateReader reader)).fitTo available)).rows,
        Page.rowWidth row ≤ min (Config.validateReader reader).width available := by
  intro h
  have hrows := h (Section.parse "a".toList) ⟨false, false, none, true⟩ ⟨72, 8, "─", none, none⟩ 8
    (by decide)
  revert hrows
  decide +kernel

/-- A glyph that starts and ends with regional indicators: its last one and the next first one are
paired, and the rule is wider than the column. -/
example :
    let style := (PageStyle.ofConfig (Config.validateReader ⟨20, 8, "🇦🇦🏻🇦", none, none⟩)).fitTo 20
    20 < Page.rowWidth (Page.rule style style.width) := by
  decide +kernel

end MarkedVerse
