import MarkedVerse.Page
import MarkedVerse.Proofs.Blocks
import MarkedVerse.Proofs.Wrapping

/-!
# The parts of a page

The rows of a page are those of its blocks, and the rows of a block are those above its text, its
text, and those below. Above and below stand nothing but blank rows and rules. A page knows for
every verse the row with which the text of its block begins (`getElem?_verseRows_iff`).
-/

namespace MarkedVerse

/-! ## Places in lists -/

section Lists

variable {α β : Type} {l : List α} {i : Nat}

/-- What is found among the values of a partial function is the value at some place, behind as many
others. -/
theorem exists_of_getElem?_filterMap {f : α → Option β} {x : β}
    (h : (l.filterMap f)[i]? = some x) :
    ∃ front a behind, l = front ++ a :: behind ∧ f a = some x ∧ (front.filterMap f).length = i := by
  induction l generalizing i with
  | nil => cases h
  | cons a l ih =>
      cases ha : f a with
      | none =>
          rw [List.filterMap_cons_none ha] at h
          obtain ⟨front, a', behind, rfl, hx, hlength⟩ := ih h
          exact ⟨a :: front, a', behind, rfl, hx, by rw [List.filterMap_cons_none ha, hlength]⟩
      | some y =>
          rw [List.filterMap_cons_some ha] at h
          cases i with
          | zero => exact ⟨[], a, l, rfl, ha.trans h, rfl⟩
          | succ i =>
              obtain ⟨front, a', behind, rfl, hx, hlength⟩ := ih h
              refine ⟨a :: front, a', behind, rfl, hx, ?_⟩
              rw [List.filterMap_cons_some ha, List.length_cons, hlength]

/-- What is found among lists one behind the other is found in one of them, behind those in
front. -/
theorem exists_of_getElem?_flatMap {f : α → List β} {x : β} (h : (l.flatMap f)[i]? = some x) :
    ∃ front a behind k, l = front ++ a :: behind ∧ i = (front.flatMap f).length + k ∧
      (f a)[k]? = some x := by
  induction l generalizing i with
  | nil => cases h
  | cons a l ih =>
      rw [List.flatMap_cons, List.getElem?_append] at h
      split at h
      · exact ⟨[], a, l, i, rfl, (Nat.zero_add i).symm, h⟩
      · next hlength =>
          obtain ⟨front, a', behind, k, rfl, hi, hx⟩ := ih h
          refine ⟨a :: front, a', behind, k, rfl, ?_, hx⟩
          rw [List.flatMap_cons, List.length_append]
          omega

end Lists

namespace Page

variable {config : RenderConfig} {s : PageStyle} {before verse row : Nat} {blocks : List Block}

/-! ## Blocks -/

/-- The rows of a block. -/
structure Part where
  above : List Row
  text : List Row
  below : List Row

/-- The rows of a block, in order. -/
def Part.rows (p : Part) : List Row :=
  p.above ++ p.text ++ p.below

/-- The rows of a block, those of its text apart. A divider has no text. -/
def part (config : RenderConfig) (s : PageStyle) : Block → Part
  | .divider _ margin =>
    ⟨blankRows margin.rows ++ [rule s s.width], [], blankRows margin.rows⟩
  | .content b =>
    ⟨(if b.framed then [rule s (s.width / 3)] else []) ++
        blankRows (b.spacing.rows config.compact).1,
      textRows b s (gutter config s), blankRows (b.spacing.rows config.compact).2⟩

/-- A block is drawn as its rows. -/
theorem blockRows_snd (config : RenderConfig) (s : PageStyle) (block : Block) :
    (blockRows config s block).2 = (part config s block).rows := by
  cases block with
  | divider origin margin => simp [blockRows, part, Part.rows]
  | content b => rfl

/-- The text of a block begins behind the rows above it. -/
theorem blockRows_fst (config : RenderConfig) (s : PageStyle) (b : Content) :
    (blockRows config s (.content b)).1 = (part config s (.content b)).above.length :=
  rfl

/-- Around the text of a block stand blank rows and rules that fit into the column. -/
theorem blank_or_rule {block : Block} {row : Row}
    (h : row ∈ (part config s block).above ++ (part config s block).below) :
    row = [] ∨ ∃ length, length ≤ s.width ∧ row = rule s length := by
  have hblank : ∀ count, row ∈ blankRows count → row = [] := fun _ => List.eq_of_mem_replicate
  cases block with
  | divider origin margin =>
      simp only [part, List.mem_append, List.mem_singleton] at h
      obtain (h | h) | h := h
      · exact .inl (hblank _ h)
      · exact .inr ⟨s.width, Nat.le_refl _, h⟩
      · exact .inl (hblank _ h)
  | content b =>
      simp only [part, List.mem_append] at h
      obtain (h | h) | h := h
      · split at h
        · exact .inr ⟨s.width / 3, Nat.div_le_self _ _, List.mem_singleton.1 h⟩
        · cases h
      · exact .inl (hblank _ h)
      · exact .inl (hblank _ h)

/-! ## Pages -/

/-- The rows of blocks, in order. -/
def rowsOf (config : RenderConfig) (s : PageStyle) (blocks : List Block) : List Row :=
  blocks.flatMap fun block => (part config s block).rows

/-- The row with which the text of a block begins, behind the blocks in front of it. -/
def textStart (config : RenderConfig) (s : PageStyle) (front : List Block) (b : Content) : Nat :=
  (rowsOf config s front).length + (part config s (.content b)).above.length

theorem rows_ofBlocks (config : RenderConfig) (s : PageStyle) (before : Nat)
    (blocks : List Block) : (ofBlocks config s before blocks).rows = rowsOf config s blocks := by
  induction blocks generalizing before with
  | nil => rfl
  | cons block blocks ih =>
      rw [ofBlocks, rowsOf, List.flatMap_cons, ← blockRows_snd]
      exact congrArg (_ ++ ·) (ih _)

/-- Behind the blocks in front of it stand the rows of a block. -/
theorem getElem?_rowsOf (front behind : List Block) (block : Block) {k : Nat}
    (hk : k < (part config s block).rows.length) :
    (rowsOf config s (front ++ block :: behind))[(rowsOf config s front).length + k]? =
      (part config s block).rows[k]? := by
  rw [rowsOf, List.flatMap_append, List.flatMap_cons, ← rowsOf,
    List.getElem?_append_right (Nat.le_add_right _ _), Nat.add_sub_cancel_left,
    List.getElem?_append_left hk]

/-- The text of a block begins where it starts. -/
theorem getElem?_textStart (front behind : List Block) (b : Content) {k : Nat}
    (hk : k < (textRows b s (gutter config s)).length) :
    (rowsOf config s (front ++ .content b :: behind))[textStart config s front b + k]? =
      (textRows b s (gutter config s))[k]? := by
  have hrows : (part config s (.content b)).rows = (part config s (.content b)).above ++
      (textRows b s (gutter config s) ++ (part config s (.content b)).below) :=
    List.append_assoc _ _ _
  rw [textStart, Nat.add_assoc, getElem?_rowsOf, hrows,
    List.getElem?_append_right (Nat.le_add_right _ _), Nat.add_sub_cancel_left,
    List.getElem?_append_left hk]
  simp only [hrows, List.length_append]
  omega

/-- The rows of verses on a page begin with that of the first block, if it is one of a verse. -/
theorem verseRows_ofBlocks_cons (config : RenderConfig) (s : PageStyle) (before : Nat)
    (block : Block) (blocks : List Block) :
    (ofBlocks config s before (block :: blocks)).verseRows =
      (if (Layout.verse? block).isSome then [before + (blockRows config s block).1] else []) ++
        (ofBlocks config s (before + (part config s block).rows.length) blocks).verseRows := by
  rw [ofBlocks, ← blockRows_snd]
  dsimp only
  split <;> rfl

/-- A page knows a row for each block of a verse. -/
theorem length_verseRows_ofBlocks (config : RenderConfig) (s : PageStyle) (before : Nat)
    (blocks : List Block) :
    (ofBlocks config s before blocks).verseRows.length =
      (blocks.filterMap Layout.verse?).length := by
  induction blocks generalizing before with
  | nil => rfl
  | cons block blocks ih =>
      rw [verseRows_ofBlocks_cons, List.length_append, ih, List.filterMap_cons]
      cases Layout.verse? block <;> simp [Nat.add_comm 1]

/-- The row of a verse is where the text of its block begins. -/
theorem getElem?_verseRows_ofBlocks (config : RenderConfig) (s : PageStyle) (before : Nat)
    (front behind : List Block) {b : Content}
    (hverse : (Layout.verse? (.content b)).isSome = true) :
    (ofBlocks config s before (front ++ .content b :: behind)).verseRows[
        (front.filterMap Layout.verse?).length]? = some (before + textStart config s front b) := by
  induction front generalizing before with
  | nil =>
      rw [List.nil_append, verseRows_ofBlocks_cons, if_pos hverse]
      simp [textStart, rowsOf, blockRows_fst]
  | cons block front ih =>
      have hlater := ih (before + (part config s block).rows.length)
      have hstart : before + (part config s block).rows.length + textStart config s front b =
          before + textStart config s (block :: front) b := by
        simp only [textStart, rowsOf, List.flatMap_cons, List.length_append]
        omega
      rw [List.cons_append, verseRows_ofBlocks_cons, ← hstart]
      cases hblock : Layout.verse? block with
      | none =>
          rw [List.filterMap_cons_none hblock]
          exact hlater
      | some v =>
          rw [List.filterMap_cons_some hblock]
          exact hlater

/-- A row that a page knows is where the text of a block begins. -/
theorem exists_of_verseRows_ofBlocks
    (h : (ofBlocks config s before blocks).verseRows[verse]? = some row) :
    ∃ front b behind, blocks = front ++ .content b :: behind ∧
      (blocks.filterMap Layout.verse?)[verse]? = b.verse ∧
      row = before + textStart config s front b := by
  have hlt : verse < (blocks.filterMap Layout.verse?).length := by
    rw [← length_verseRows_ofBlocks config s before]
    exact (List.getElem?_eq_some_iff.1 h).1
  have hnumber := List.getElem?_eq_getElem hlt
  obtain ⟨front, block, behind, rfl, hverse, rfl⟩ := exists_of_getElem?_filterMap hnumber
  cases block with
  | divider origin margin => cases hverse
  | content b =>
      have hstart := getElem?_verseRows_ofBlocks config s before front behind
        (Option.isSome_of_mem hverse)
      exact ⟨front, b, behind, rfl, hnumber.trans hverse.symm,
        Option.some.inj (h.symm.trans hstart)⟩

/-! ## The page of a document -/

variable {sections : List Section}

/-- A block with lines of verse has rows. -/
theorem placeRows_ne_nil {b : Content} (hlines : b.lines ≠ [])
    (hverse : ∀ line ∈ b.lines, Text.IsVerseLine line) (column indent : Nat) :
    placeRows b column indent ≠ [] := by
  have hplaced : placeLines b.lines b.placement column indent ≠ [] := by
    obtain ⟨line, hline⟩ := List.exists_mem_of_ne_nil _ hlines
    have htrim : Text.trim line ≠ [] := by
      rw [(hverse line hline).trimmed]
      exact (hverse line hline).nonempty
    obtain ⟨row, hrow⟩ := List.exists_mem_of_ne_nil _ (Text.wrap_ne_nil htrim column)
    exact List.ne_nil_of_mem
      (List.mem_map.2 ⟨row, List.mem_flatMap.2 ⟨line, hline, hrow⟩, rfl⟩)
  rw [placeRows]
  split
  · simp only
    split
    · exact List.cons_ne_nil _ _
    · exact hplaced
  · exact hplaced

/-- The rows of text of a block are the placed rows, each drawn for itself, and the number of the
block stands on the first one. -/
theorem textRows_eq_mapIdx (b : Content) (s : PageStyle) (gutter : Nat) :
    textRows b s gutter = (placeRows b (s.width - gutter) s.indent).mapIdx fun k =>
      textRow b s gutter (if k = 0 then b.badge else none) := by
  rw [textRows]
  cases placeRows b (s.width - gutter) s.indent with
  | nil => rfl
  | cons first rest =>
      have hlater : rest.map (textRow b s gutter none) =
          rest.mapIdx fun k => textRow b s gutter (if k + 1 = 0 then b.badge else none) := by
        refine List.ext_getElem? fun k => ?_
        rw [List.getElem?_map, List.getElem?_mapIdx, if_neg k.succ_ne_zero]
      rw [List.mapIdx_cons, if_pos rfl, ← hlater]

/-- A block of a document has rows of text. -/
theorem textRows_ne_nil {b : Content} (h : .content b ∈ Layout.blocks config sections) :
    textRows b s (gutter config s) ≠ [] := by
  obtain ⟨-, hlines, hverses⟩ := Layout.of_mem_blocksFrom h
  rw [textRows_eq_mapIdx, ne_eq, List.mapIdx_eq_nil_iff]
  exact placeRows_ne_nil hlines hverses _ _

/-- On the page of a document, the first row of text of a block is the one with which its text
begins. -/
theorem exists_getElem?_textStart {front behind : List Block} {b : Content}
    (h : Layout.blocks config sections = front ++ .content b :: behind) :
    ∃ line, (textRows b s (gutter config s)).head? = some line ∧
      (render sections config s).rows[textStart config s front b]? = some line := by
  have hb : .content b ∈ Layout.blocks config sections := by simp [h]
  obtain ⟨line, later, hrows⟩ := List.exists_cons_of_ne_nil (textRows_ne_nil (s := s) hb)
  have hpos : 0 < (textRows b s (gutter config s)).length := by simp [hrows]
  have hfirst := getElem?_textStart front behind b hpos
  rw [Nat.add_zero, ← h, hrows] at hfirst
  exact ⟨line, by rw [hrows]; rfl, by rw [render, rows_ofBlocks, hfirst]; rfl⟩

/-- A page has a row for every verse of the document. -/
theorem isSome_rowOf_iff :
    ((render sections config s).rowOf verse).isSome = true ↔
      verse < Layout.verseCount sections := by
  have hlength : (render sections config s).verseRows.length = Layout.verseCount sections := by
    rw [render, length_verseRows_ofBlocks, Layout.filterMap_verse?_blocks, List.length_range]
  rw [rowOf, ← hlength]
  simp

/-- In front of the block of a verse stand the blocks of as many verses as its number says. -/
theorem length_verses_eq {front behind : List Block} {b : Content}
    (h : Layout.blocks config sections = front ++ .content b :: behind)
    (hverse : Layout.verse? (.content b) = some verse) :
    (front.filterMap Layout.verse?).length = verse := by
  have hnumbers := Layout.filterMap_verse?_blocks config sections
  rw [h, List.filterMap_append, List.filterMap_cons_some hverse] at hnumbers
  have hplace : (List.range (Layout.verseCount sections))[
      (front.filterMap Layout.verse?).length]? = some verse := by
    rw [← hnumbers, List.getElem?_append_right (Nat.le_refl _), Nat.sub_self]
    rfl
  obtain ⟨_, hnumber⟩ := List.getElem?_eq_some_iff.1 hplace
  rw [← hnumber, List.getElem_range]

/-- A page knows for a verse the row with which the text of its block begins. -/
theorem getElem?_verseRows_iff :
    (render sections config s).verseRows[verse]? = some row ↔
      ∃ front b behind, Layout.blocks config sections = front ++ .content b :: behind ∧
        b.verse = some verse ∧ row = textStart config s front b := by
  have hstart : ∀ {front b behind},
      Layout.blocks config sections = front ++ .content b :: behind → b.verse = some verse →
      (render sections config s).verseRows[verse]? = some (textStart config s front b) := by
    intro front b behind hblocks hverse
    rw [render, hblocks, ← length_verses_eq hblocks hverse,
      getElem?_verseRows_ofBlocks config s 0 front behind (Option.isSome_of_mem hverse),
      Nat.zero_add]
  constructor
  · intro h
    have hlt : verse < Layout.verseCount sections := isSome_rowOf_iff.1 (Option.isSome_of_mem h)
    obtain ⟨front, b, behind, hblocks, hverse, hrow⟩ := exists_of_verseRows_ofBlocks h
    rw [Layout.filterMap_verse?_blocks, List.getElem?_range hlt] at hverse
    exact ⟨front, b, behind, hblocks, hverse.symm, by rw [hrow, Nat.zero_add]⟩
  · rintro ⟨front, b, behind, hblocks, hverse, rfl⟩
    exact hstart hblocks hverse

end Page

end MarkedVerse
