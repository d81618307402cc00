import MarkedVerse.Proofs.PageWidth

/-!
# Where rows stand

The rows of a block stand in the column as the alignment of the block asks for
(`Page.rows_follow_alignment`). The lines of a couplet that fits stand where the unit of both does:
the first one ends where the unit ends, and the second one begins where it begins. All other rows
stand for themselves. Because no row leaves the column, the gutter begins behind the same cell on
each of them.
-/

namespace MarkedVerse

/-- The shape of a block is that of its lines. -/
theorem Layout.shape_eq {config : RenderConfig} {sections : List Section} {b : Content}
    (h : .content b ∈ Layout.blocks config sections) : b.shape = .of b.lines := by
  obtain ⟨s, -, origin, next, after, before, rfl⟩ := Layout.exists_of_mem_blocksFrom h
  rfl

namespace Page

variable {b : Content} {s : PageStyle} {a : Alignment} {column indent pad line gutter : Nat}
  {row : Nat × Text}

/-! ## Alignments -/

/-- Something of `line` cells with `pad` cells in front of it stands in a column as the alignment
asks for: at the right edge, at the left edge, with the same space on both sides up to one cell, or
so far from the right edge as the indentation says, or at the left edge when there is less space. -/
def Stands (a : Alignment) (column indent pad line : Nat) : Prop :=
  match a with
  | .right => pad + line = column
  | .left => pad = 0
  | .center => pad ≤ column - (pad + line) + 1 ∧ column - (pad + line) ≤ pad + 1
  | .indent => column - (pad + line) = min indent (column - line)

/-- What fits into the column is placed in it, as its alignment asks for. -/
theorem stands_leadingPadding (h : line ≤ column) (a : Alignment) (indent : Nat) :
    leadingPadding line column a indent + line ≤ column ∧
      Stands a column indent (leadingPadding line column a indent) line := by
  have hle := leadingPadding_le line column a indent
  refine ⟨by omega, ?_⟩
  cases a with
  | right => exact Nat.sub_add_cancel h
  | left => rfl
  | center | indent =>
      simp only [leadingPadding, Stands]
      omega

/-! ## Rows -/

/-- The lines of a couplet fit into the column, so they are placed as one unit. -/
def Stacked (b : Content) (column : Nat) : Prop :=
  b.shape = .couplet ∧ ∀ line ∈ b.lines, Text.width line ≤ column

/-- The rows of other blocks are placed each for itself. -/
theorem placeRows_of_not_stacked (h : ¬Stacked b column) (indent : Nat) :
    placeRows b column indent = placeLines b.lines b.placement column indent := by
  rw [placeRows]
  split
  · next first second hshape hlines =>
      have hwide : ¬max (Text.width first) (Text.width second) ≤ column := by
        intro hunit
        refine h ⟨hshape, fun line hline => ?_⟩
        rw [hlines] at hline
        simp only [List.mem_cons, List.not_mem_nil, or_false] at hline
        rcases hline with rfl | rfl <;> omega
      simp only [if_neg hwide]
  · rfl

/-- A row that is placed for itself stands as the alignment asks for. -/
theorem stands_of_mem_placeLines (hcolumn : 2 ≤ column) {lines : List Text}
    (h : row ∈ placeLines lines a column indent) :
    Stands a column indent row.1 (Text.width row.2) := by
  obtain ⟨t, ht, rfl⟩ := List.mem_map.1 h
  obtain ⟨line, -, hwrap⟩ := List.mem_flatMap.1 ht
  exact (stands_leadingPadding (Text.width_le_of_mem_wrap hcolumn hwrap) a indent).2

/-- The lines of a couplet that fits stand at the edges of the unit that they are placed as. -/
theorem exists_placeRows_eq (hshape : b.shape = .of b.lines) (h : Stacked b column)
    (indent : Nat) :
    ∃ first second pad start, b.lines = [first, second] ∧
      placeRows b column indent = [(pad, first), (start, second)] ∧
      let unit := max (Text.width first) (Text.width second)
      start + unit ≤ column ∧ Stands b.placement column indent start unit ∧
        pad + Text.width first = start + unit := by
  have hlength : b.lines.length = 2 := by
    by_contra hother
    rw [h.1, Shape.of, if_neg hother] at hshape
    cases hshape
  obtain ⟨first, second, hlines⟩ := List.length_eq_two.1 hlength
  have hfirst := h.2 first (by simp [hlines])
  have hsecond := h.2 second (by simp [hlines])
  have hunit : max (Text.width first) (Text.width second) ≤ column := by omega
  obtain ⟨hinside, hstands⟩ := stands_leadingPadding hunit b.placement indent
  have hplaced : placeRows b column indent =
      let unit := max (Text.width first) (Text.width second)
      let start := leadingPadding unit column b.placement indent
      [(start + unit - Text.width first, first), (start, second)] := by
    rw [placeRows, h.1, hlines]
    simp only [if_pos hunit]
  exact ⟨first, second, _, _, hlines, hplaced, hinside, hstands, by omega⟩

/-- A row with a gutter: padding, text, and what fills it up to the edge of the column. Behind the
edge stands the number of a verse, or nothing. -/
def IsFilled (b : Content) (s : PageStyle) (gutter : Nat) (row : Nat × Text) (spans : Row) : Prop :=
  ∃ filler note, spans =
      [⟨Text.spaces row.1, .plain⟩, ⟨row.2, textStyle b s⟩, filler, ⟨note, s.badge⟩] ∧
    rowWidth [⟨Text.spaces row.1, .plain⟩, ⟨row.2, textStyle b s⟩, filler] = s.width - gutter ∧
    (note = [] ∨ ∃ number ∈ b.badge, note = badgeText number gutter)

theorem isFilled_textRow (hgutter : gutter ≠ 0) {badge : Option Nat}
    (hbadge : ∀ number ∈ badge, number ∈ b.badge) (h : InColumn (s.width - gutter) row) :
    IsFilled b s gutter row (textRow b s gutter badge row) := by
  refine ⟨_, _, by rw [textRow, if_neg hgutter]; rfl, ?_, ?_⟩
  · simp only [InColumn] at h
    simp only [rowWidth, total, Text.width_spaces]
    omega
  · cases badge with
    | none => exact .inl rfl
    | some number => exact .inr ⟨number, hbadge number rfl, rfl⟩

/-- The rows of a block with a gutter are its placed rows, each filled up to the edge of the
column. -/
theorem forall₂_textRows (hgutter : gutter ≠ 0) (hcolumn : 2 ≤ s.width - gutter) (b : Content) :
    List.Forall₂ (IsFilled b s gutter) (placeRows b (s.width - gutter) s.indent)
      (textRows b s gutter) := by
  rw [textRows_eq_mapIdx, List.forall₂_iff_get]
  refine ⟨List.length_mapIdx.symm, fun k hk _ => ?_⟩
  have hplaced := inColumn_of_mem_placeRows hcolumn (List.getElem_mem hk)
  rw [List.get_eq_getElem, List.get_eq_getElem, List.getElem_mapIdx]
  refine isFilled_textRow hgutter (fun number hnumber => ?_) hplaced
  split at hnumber
  · exact hnumber
  · cases hnumber

/-! ## Blocks of a document -/

/-- The rows of a block of a document in a column of at least two cells. No row leaves the column.
The block is aligned as its section says, and a heading is centred. The rows of a block that is no
couplet, or that does not fit as one, stand as the alignment asks for. The lines of a couplet that
fits stand in a unit that is as wide as the wider one and stands as the alignment asks for: the
first line ends where the unit ends, and the second one begins where it begins. With a gutter, each
row is filled up to the last cell of the column, so that what is in the gutter begins behind it. -/
theorem rows_follow_alignment {sections : List Section} {config : RenderConfig} {b : Content}
    (hb : .content b ∈ Layout.blocks config sections) {column : Nat} (hcolumn : 2 ≤ column)
    (indent : Nat) :
    let alignment := if b.isHeader then .center else b.style
    (∀ row ∈ placeRows b column indent, row.1 + Text.width row.2 ≤ column) ∧
      (¬Stacked b column → ∀ row ∈ placeRows b column indent,
        Stands alignment column indent row.1 (Text.width row.2)) ∧
      (Stacked b column → ∃ first second pad start, b.lines = [first, second] ∧
        placeRows b column indent = [(pad, first), (start, second)] ∧
        let unit := max (Text.width first) (Text.width second)
        start + unit ≤ column ∧ Stands alignment column indent start unit ∧
          pad + Text.width first = start + unit) ∧
      ∀ s gutter, gutter ≠ 0 → s.width - gutter = column → s.indent = indent →
        List.Forall₂ (IsFilled b s gutter) (placeRows b column indent) (textRows b s gutter) := by
  intro alignment
  refine ⟨fun row => inColumn_of_mem_placeRows hcolumn, fun hsingle row hrow => ?_,
    fun hstacked => exists_placeRows_eq (Layout.shape_eq hb) hstacked indent, ?_⟩
  · rw [placeRows_of_not_stacked hsingle] at hrow
    exact stands_of_mem_placeLines hcolumn hrow
  · rintro s gutter hgutter rfl rfl
    exact forall₂_textRows hgutter hcolumn b

/-- A heading of two lines: in twenty cells it is placed as one unit of six, and in five cells each
of its three rows stands for itself. -/
theorem rows_follow_alignment_of_heading :
    let b : Content := ⟨0, ["ab".toList, "abcdef".toList], .center, true, .header, false, .couplet,
      none, none, false⟩
    (.content b ∈ Layout.blocks .plain (Section.parse "||HEADER||ab\nabcdef".toList) ∧
        2 ≤ 20 ∧ Stacked b 20 ∧ 2 ≤ 5 ∧ ¬Stacked b 5) ∧
      placeRows b 20 4 = [(11, "ab".toList), (7, "abcdef".toList)] ∧ Stands .center 20 4 7 6 ∧
      placeRows b 5 4 = [(1, "ab".toList), (0, "abcde".toList), (2, "f".toList)] ∧
      ∀ row ∈ placeRows b 5 4, Stands .center 5 4 row.1 (Text.width row.2) := by
  intro b
  have hb : .content b ∈ Layout.blocks .plain (Section.parse "||HEADER||ab\nabcdef".toList) := by
    decide +kernel
  have hstacked : Stacked b 20 := ⟨rfl, by decide +kernel⟩
  have hwide : ¬Stacked b 5 := fun h =>
    absurd (h.2 "abcdef".toList (by simp [b])) (by decide +kernel)
  have hunit : placeRows b 20 4 = [(11, "ab".toList), (7, "abcdef".toList)] := by decide +kernel
  obtain ⟨first, second, pad, start, hlines, hrows, -, hstands, -⟩ :=
    (rows_follow_alignment hb (by decide : 2 ≤ 20) 4).2.2.1 hstacked
  cases hunit.symm.trans hrows
  have hwidth : max (Text.width "ab".toList) (Text.width "abcdef".toList) = 6 := by decide +kernel
  rw [hwidth] at hstands
  exact ⟨⟨hb, by decide, hstacked, by decide, hwide⟩, hunit, hstands, by decide +kernel,
    (rows_follow_alignment hb (by decide : 2 ≤ 5) 4).2.1 hwide⟩

end Page

end MarkedVerse
