import MarkedVerse.Command.Run
import MarkedVerse.Proofs.Blocks

/-!
# The numbers of verses

Which block a section leaves can be read off the section, its neighbours and the numbers of the
verses, which are counted on their own (`Layout.blocks_eq_filterMap`). The configuration decides
only about the margin of a divider and about the number and the highlight that a block shows
(`Layout.blocks_redraw`). So the anchors count the verses in order, whatever stands between them,
and at most the verse at the reading position is highlighted (`Layout.numbersVerses`).
-/

namespace MarkedVerse

/-! ## What the configuration decides -/

/-- The block as another configuration draws it. -/
def Block.redraw (config : RenderConfig) : Block → Block
  | .divider origin _ => .divider origin (.of config)
  | .content b => .content
      { b with
        badge := if config.numbers then b.verse.map (· + 1) else none
        highlighted := b.verse.any config.highlights }

/-- The section leaves a block: it is a divider or has text. -/
def Section.isShown (s : Section) : Bool :=
  s.isBreak || s.hasContent

/-- The block shows the verse at the reading position. -/
def Block.isHighlighted : Block → Bool
  | .divider _ _ => false
  | .content b => b.highlighted

namespace Layout

variable {config : RenderConfig} {sections : List Section}

/-! ## The block of a section among its neighbours -/

/-- The block that the section at a position leaves: dividers and sections with text leave one. -/
def blockAt? (config : RenderConfig) (sections : List Section) (s : Section) (i : Nat) :
    Option Block :=
  if s.isBreak then some (.divider i (.of config))
  else if s.hasContent then
    let after := 0 < i && sections[i - 1]?.any Section.isBreak
    let before := sections[i + 1]?.any Section.isBreak
    some (.content (contentOf config i (verseIndices sections)[i]?.join after before s))
  else none

/-- The verses behind some sections are counted on. -/
theorem verseIndicesFrom_append (next : Nat) (front behind : List Section) :
    verseIndicesFrom next (front ++ behind) =
      verseIndicesFrom next front ++ verseIndicesFrom (next + verseCount front) behind := by
  induction front generalizing next with
  | nil => rfl
  | cons s front ih =>
      rw [List.cons_append, verseIndicesFrom, verseIndicesFrom, verseCount_cons]
      split
      · rw [ih, List.cons_append, Nat.add_assoc]
      · rw [ih, List.cons_append, Nat.zero_add]

@[simp]
theorem length_verseIndicesFrom (next : Nat) (sections : List Section) :
    (verseIndicesFrom next sections).length = sections.length := by
  induction sections generalizing next with
  | nil => rfl
  | cons s sections ih =>
      rw [verseIndicesFrom]
      split <;> simp [ih]

/-- The number of a section is found behind those of the sections in front of it. -/
theorem getElem?_verseIndices (front : List Section) (s : Section) (behind : List Section) :
    (verseIndices (front ++ s :: behind))[front.length]? =
      some (if s.isVerse then some (verseCount front) else none) := by
  rw [verseIndices, verseIndicesFrom_append, List.getElem?_append_right (by simp)]
  rw [length_verseIndicesFrom, Nat.sub_self, verseIndicesFrom]
  split <;> simp

/-- Whether a break precedes a section is seen from the section in front of it. -/
theorem any_getLast?_eq (front : List Section) (s : Section) (behind : List Section) :
    (decide (0 < front.length) && (front ++ s :: behind)[front.length - 1]?.any Section.isBreak) =
      front.getLast?.any Section.isBreak := by
  rcases List.eq_nil_or_concat' front with rfl | ⟨front, last, rfl⟩
  · rfl
  · simp

/-- The last one of the sections in front is a break. -/
def isBehindBreak (front : List Section) : Bool :=
  front.getLast?.any Section.isBreak

/-- The first one of the sections behind is a break. -/
def isBeforeBreak (behind : List Section) : Bool :=
  behind.head?.any Section.isBreak

/-- The block that a section leaves between those in front of it and those behind it. -/
def blockBetween (config : RenderConfig) (front : List Section) (s : Section)
    (behind : List Section) : Block :=
  if s.isBreak then .divider front.length (.of config)
  else .content (contentOf config front.length (if s.isVerse then some (verseCount front) else none)
    (isBehindBreak front) (isBeforeBreak behind) s)

/-- The blocks of the sections behind some others. -/
def blocksBehind (config : RenderConfig) (front sections : List Section) : List Block :=
  blocksFrom config front.length (verseCount front) (isBehindBreak front) sections

/-- The first section behind some others leaves its block, or none. -/
theorem blocksBehind_cons (config : RenderConfig) (front : List Section) (s : Section)
    (behind : List Section) :
    blocksBehind config front (s :: behind) =
      (if s.isShown then [blockBetween config front s behind] else []) ++
        blocksBehind config (front ++ [s]) behind := by
  have hcount : verseCount (front ++ [s]) =
      if s.isVerse then verseCount front + 1 else verseCount front := by
    rw [verseCount, verseCount, List.filter_append, List.filter_singleton]
    cases s.isVerse <;> simp
  have hlast : isBehindBreak (front ++ [s]) = s.isBreak := by
    rw [isBehindBreak, List.getLast?_concat, Option.any_some]
  rw [blocksBehind, blocksBehind, hcount, hlast, List.length_append, List.length_singleton,
    blocksFrom]
  cases hbreak : s.isBreak with
  | true =>
      have hverse : s.isVerse = false := by simp [Section.isVerse, hbreak]
      simp [Section.isShown, blockBetween, hbreak, hverse]
  | false =>
      cases hcontent : s.hasContent with
      | true => simp [Section.isShown, blockBetween, isBeforeBreak, hbreak, hcontent]
      | false =>
          have hverse : s.isVerse = false := by simp [Section.isVerse, hcontent]
          simp [Section.isShown, hbreak, hcontent, hverse]

/-- The block of a section can be read off its neighbours. -/
theorem blockAt?_eq (config : RenderConfig) (front : List Section) (s : Section)
    (behind : List Section) :
    blockAt? config (front ++ s :: behind) s front.length =
      if s.isShown then some (blockBetween config front s behind) else none := by
  have hafter := any_getLast?_eq front s behind
  have hbefore : (front ++ s :: behind)[front.length + 1]? = behind.head? := by
    rw [List.getElem?_append_right (by omega), Nat.add_sub_cancel_left]
    simp [List.head?_eq_getElem?]
  rw [blockAt?, getElem?_verseIndices front s behind, hbefore]
  cases hbreak : s.isBreak with
  | true => simp [Section.isShown, blockBetween, hbreak]
  | false =>
      simp [Section.isShown, blockBetween, isBehindBreak, isBeforeBreak, hbreak, hafter]

/-- The blocks behind some sections are those of the single sections, in order. -/
theorem blocksBehind_eq_filterMap (config : RenderConfig) (front sections : List Section) :
    blocksBehind config front sections =
      (sections.zipIdx front.length).filterMap fun (s, i) =>
        blockAt? config (front ++ sections) s i := by
  induction sections generalizing front with
  | nil => rfl
  | cons s sections ih =>
      have hrest := ih (front ++ [s])
      rw [List.length_append, List.length_singleton, List.append_assoc,
        List.singleton_append] at hrest
      rw [blocksBehind_cons, hrest, List.zipIdx_cons, List.filterMap_cons]
      simp only [blockAt?_eq]
      cases s.isShown <;> rfl

/-- The blocks are those of the single sections, in order. -/
theorem blocks_eq_filterMap (config : RenderConfig) (sections : List Section) :
    blocks config sections =
      sections.zipIdx.filterMap fun (s, i) => blockAt? config sections s i :=
  blocksBehind_eq_filterMap config [] sections

/-- Another configuration draws the same blocks. -/
theorem blocks_redraw (config config' : RenderConfig) (sections : List Section) :
    blocks config' sections = (blocks config sections).map (Block.redraw config') := by
  rw [blocks_eq_filterMap, blocks_eq_filterMap, List.map_filterMap]
  refine List.filterMap_congr fun (s, i) _ => ?_
  simp only [blockAt?]
  split
  · rfl
  · split <;> rfl

/-! ## Anchors -/

/-- The anchors name the verses that the blocks show. -/
theorem map_fst_anchors (blocks : List Block) :
    (anchors blocks).map Prod.fst = blocks.filterMap verse? := by
  rw [anchors, List.map_filterMap]
  conv_rhs => rw [← List.zipIdx_map_fst 0 blocks, List.filterMap_map]
  refine List.filterMap_congr fun (block, i) _ => ?_
  simp only [Function.comp_apply, Option.map_map]
  exact Option.map_id'

/-- The positions of the anchors increase. -/
theorem pairwise_snd_anchors (blocks : List Block) :
    ((anchors blocks).map Prod.snd).Pairwise (· < ·) := by
  have hplaces : (blocks.zipIdx.map Prod.snd).Pairwise (· < ·) := by
    rw [List.zipIdx_map_snd]
    exact List.pairwise_lt_range' 1
  rw [List.pairwise_map] at hplaces ⊢
  rw [anchors, List.pairwise_filterMap]
  refine hplaces.imp ?_
  rintro ⟨block, i⟩ ⟨block', i'⟩ hlt anchor hanchor anchor' hanchor'
  obtain ⟨verse, -, rfl⟩ := Option.map_eq_some_iff.1 hanchor
  obtain ⟨verse', -, rfl⟩ := Option.map_eq_some_iff.1 hanchor'
  exact hlt

/-- An anchor is at the position of the block that shows its verse. -/
theorem mem_anchors_iff {blocks : List Block} {verse i : Nat} :
    (verse, i) ∈ anchors blocks ↔
      ∃ b, blocks[i]? = some (.content b) ∧ b.verse = some verse := by
  rw [anchors, List.mem_filterMap]
  constructor
  · rintro ⟨⟨block, i'⟩, hmem, hanchor⟩
    obtain ⟨verse', hverse, heq⟩ := Option.map_eq_some_iff.1 hanchor
    obtain ⟨rfl, rfl⟩ := Prod.mk.inj heq
    cases block with
    | divider => cases hverse
    | content b => exact ⟨b, List.mk_mem_zipIdx_iff_getElem?.1 hmem, hverse⟩
  · rintro ⟨b, hb, hverse⟩
    exact ⟨(.content b, i), List.mk_mem_zipIdx_iff_getElem?.2 hb, by simp [verse?, hverse]⟩

/-! ## Highlights -/

/-- A block is highlighted when it shows a verse that is to be. -/
theorem isHighlighted_eq {block : Block} (h : block ∈ blocks config sections) :
    block.isHighlighted = (verse? block).any config.highlights := by
  cases block with
  | divider => rfl
  | content b =>
      obtain ⟨s, -, origin, next, after, before, rfl⟩ := exists_of_mem_blocksFrom h
      rfl

/-- Of the first so many verses, the one at the reading position is to be highlighted. -/
theorem countP_highlights (config : RenderConfig) (count : Nat) :
    (List.range count).countP config.highlights =
      if config.highlight && config.currentVerse.any (· < count) then 1 else 0 := by
  cases hcurrent : config.currentVerse with
  | none => simp [RenderConfig.highlights, hcurrent]
  | some current =>
      cases hon : config.highlight with
      | false => simp [RenderConfig.highlights, hon]
      | true =>
          have hsame : config.highlights = (· == current) := by
            funext verse
            simp [RenderConfig.highlights, hon, hcurrent, Bool.beq_comm]
          rw [hsame, ← List.count_eq_countP, List.nodup_range.count]
          simp

/-- The verse at the reading position is highlighted, if it is one. -/
theorem countP_isHighlighted (config : RenderConfig) (sections : List Section) :
    (blocks config sections).countP Block.isHighlighted =
      if config.highlight && config.currentVerse.any (· < verseCount sections) then 1 else 0 := by
  rw [← countP_highlights, ← filterMap_verse?_blocks config, List.countP_filterMap]
  refine List.countP_congr fun block hblock => ?_
  rw [isHighlighted_eq hblock]
  cases verse? block <;> simp

/-! ## The numbers of a document -/

/-- The verses of sections are numbered, anchored and highlighted by these blocks. -/
structure NumbersVerses (config : RenderConfig) (sections : List Section) (blocks : List Block) :
    Prop where
  /-- Dividers and sections with text leave a block each, in order, and nothing else does. -/
  blocks_eq : blocks = sections.zipIdx.filterMap fun (s, i) => blockAt? config sections s i
  /-- The anchors count the verses from zero. -/
  anchored : (anchors blocks).map Prod.fst = List.range (verseCount sections)
  /-- They stand in the order of the blocks. -/
  increasing : ((anchors blocks).map Prod.snd).Pairwise (· < ·)
  /-- Each is at the block that shows its verse. -/
  mem_anchors : ∀ verse i, (verse, i) ∈ anchors blocks ↔
    ∃ b, blocks[i]? = some (.content b) ∧ b.verse = some verse
  /-- The blocks of verses show their numbers, counted from one, and no other block has one. -/
  badge : ∀ b, .content b ∈ blocks →
    b.badge = if config.numbers then b.verse.map (· + 1) else none
  /-- Only the verse at the reading position is highlighted. -/
  highlighted : ∀ b, .content b ∈ blocks → (b.highlighted = true ↔
    config.highlight = true ∧ ∃ verse, b.verse = some verse ∧ config.currentVerse = some verse)
  /-- One block is highlighted if there is such a verse, and none otherwise. -/
  countP_highlighted : blocks.countP Block.isHighlighted =
    if config.highlight && config.currentVerse.any (· < verseCount sections) then 1 else 0

/-- The blocks of a document number its verses. -/
theorem numbersVerses (config : RenderConfig) (sections : List Section) :
    NumbersVerses config sections (blocks config sections) where
  blocks_eq := blocks_eq_filterMap config sections
  anchored := by rw [map_fst_anchors, filterMap_verse?_blocks]
  increasing := pairwise_snd_anchors _
  mem_anchors _ _ := mem_anchors_iff
  badge _ hb := badge_eq hb
  highlighted b hb := by
    have heq : b.highlighted = b.verse.any config.highlights := isHighlighted_eq hb
    rw [heq, Option.any_eq_true]
    simp only [RenderConfig.highlights, Bool.and_eq_true, beq_iff_eq]
    exact ⟨fun ⟨verse, hverse, hon, hcurrent⟩ => ⟨hon, verse, hverse, hcurrent⟩,
      fun ⟨hon, verse, hverse, hcurrent⟩ => ⟨verse, hverse, hon, hcurrent⟩⟩
  countP_highlighted := countP_isHighlighted config sections

/-- Verses are numbered in order and anchored at their blocks, whatever the configuration, which
decides about nothing but margins, badges and highlights. The flags for a verse counted from one
highlight that verse and nothing else. -/
theorem numbers_verses_exactly (config : RenderConfig) (sections : List Section) :
    NumbersVerses config sections (blocks config sections) ∧
      (∀ config', blocks config' sections = (blocks config sections).map (Block.redraw config')) ∧
      ∀ compact numbers n, 1 ≤ n → n ≤ verseCount sections →
        ∃ flags, Command.renderFlags compact numbers (some n) = .ok flags ∧
          (blocks flags sections).countP Block.isHighlighted = 1 ∧
          ∀ b, .content b ∈ blocks flags sections →
            (b.highlighted = true ↔ b.verse = some (n - 1)) := by
  refine ⟨numbersVerses config sections, fun config' => blocks_redraw config config' sections, ?_⟩
  intro compact numbers n hpos hle
  obtain ⟨verse, rfl⟩ : ∃ verse, n = verse + 1 := ⟨n - 1, by omega⟩
  have hnumbers := numbersVerses ⟨compact, true, some verse, numbers⟩ sections
  refine ⟨_, rfl, ?_, fun b hb => ?_⟩
  · have hlt : verse < verseCount sections := by omega
    rw [hnumbers.countP_highlighted]
    simp [hlt]
  · rw [hnumbers.highlighted b hb]
    simp

/-- A heading, a break with text of its own and a blank section stand before and between the
verses; the second verse is highlighted. -/
theorem numbers_verses_exactly_between_breaks :
    let sections : List Section :=
      [.header "title".toList, ⟨"stray".toList, .left, true, false⟩, .verse "one".toList .right,
        .verse " \n".toList .left, .divider, .verse "two\nthree".toList .indent]
    (1 ≤ 2 ∧ 2 ≤ verseCount sections) ∧
      ∃ flags, Command.renderFlags true true (some 2) = .ok flags ∧
        (blocks flags sections).countP Block.isHighlighted = 1 ∧
        anchors (blocks flags sections) = [(0, 2), (1, 4)] := by
  intro sections
  have hcount : verseCount sections = 2 := by decide +kernel
  obtain ⟨flags, hflags, hone, -⟩ :=
    (numbers_verses_exactly .plain sections).2.2 true true 2 (by omega) (by omega)
  refine ⟨by omega, flags, hflags, hone, ?_⟩
  obtain rfl : ⟨true, true, some 1, true⟩ = flags := Except.ok.inj hflags
  decide +kernel

end Layout

end MarkedVerse
