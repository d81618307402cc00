import MarkedVerse.Proofs.PageParts
import MarkedVerse.Proofs.VerseNumbers

/-!
# Sections without text

A section that is no break and has no line of text leaves no block, but layout looks at neighbours
in the list of sections, where it stands in between. So deleting all such sections keeps the blocks
with all that they show but for the space and the frame of verses (`Layout.map_bare_blocks_shown`),
and changes the space or the frame of a verse exactly when some of them are all that stands between
it and a break (`Layout.map_atStart_blocks_shown_iff`).

That the page then changes too is shown by a count: the block of a verse with a break next to it
takes more rows, and deleting sections never takes a break away from a verse
(`Layout.CountsBreaks.output_eq_iff`).
-/

namespace MarkedVerse

/-! ## What a section leaves -/

/-- A verse leaves a block. -/
theorem Section.isShown_of_isVerse {s : Section} (h : s.isVerse = true) : s.isShown = true := by
  simp only [isVerse, Bool.and_eq_true] at h
  rw [isShown, h.2, Bool.or_true]

theorem Section.isBreak_of_not_isShown {s : Section} (h : s.isShown = false) :
    s.isBreak = false :=
  (Bool.or_eq_false_iff.1 h).1

/-- The block as if its section were the first one. -/
def Block.atStart : Block → Block
  | .divider _ margin => .divider 0 margin
  | .content b => .content { b with origin := 0 }

/-- The block as if its section were the first one and, for a verse, as if no break were next to it.
A heading keeps its space and its frame. -/
def Block.bare : Block → Block
  | .divider _ margin => .divider 0 margin
  | .content b =>
    if b.isHeader then .content { b with origin := 0 }
    else .content { b with origin := 0, spacing := .regular, framed := false }

namespace Layout

variable {config : RenderConfig} {sections : List Section}

/-- The sections that leave a block. -/
def shown (sections : List Section) : List Section :=
  sections.filter Section.isShown

/-! ## The sections that leave a block -/

@[simp]
theorem shown_append (front behind : List Section) :
    shown (front ++ behind) = shown front ++ shown behind :=
  List.filter_append ..

theorem shown_singleton (s : Section) : shown [s] = if s.isShown then [s] else [] := by
  cases h : s.isShown <;> simp [shown, h]

theorem shown_cons (s : Section) (behind : List Section) :
    shown (s :: behind) = (if s.isShown then [s] else []) ++ shown behind := by
  rw [← shown_singleton, ← shown_append, List.singleton_append]

/-- What holds wherever a list of sections is cut holds in front of all of it, and wherever the rest
is cut. -/
theorem forall_cut_cons {P : List Section → Section → List Section → Prop} {s : Section} :
    (∀ front t behind, s :: sections = front ++ t :: behind → P front t behind) ↔
      P [] s sections ∧
        ∀ front t behind, sections = front ++ t :: behind → P (s :: front) t behind := by
  constructor
  · intro h
    exact ⟨h [] s sections rfl, fun front t behind hcut => h (s :: front) t behind (hcut ▸ rfl)⟩
  · rintro ⟨hfirst, hrest⟩ front t behind hcut
    obtain ⟨rfl, hcut⟩ | ⟨front, rfl, rfl⟩ := List.cons_eq_append_iff.1 hcut
    · cases hcut
      exact hfirst
    · exact hrest front t behind rfl

/-- The blocks of sections compare with those of the sections that leave one when the block of each
section does, among all sections and among those that leave one. -/
theorem forall₂_blocksBehind {R : Block → Block → Prop} (front sections : List Section) :
    List.Forall₂ R (blocksBehind config front sections)
        (blocksBehind config (shown front) (shown sections)) ↔
      ∀ middle s behind, sections = middle ++ s :: behind → s.isShown = true →
        R (blockBetween config (front ++ middle) s behind)
          (blockBetween config (shown (front ++ middle)) s (shown behind)) := by
  induction sections generalizing front with
  | nil => simp [blocksBehind, shown, blocksFrom]
  | cons s sections ih =>
      rw [forall_cut_cons, blocksBehind_cons, shown_cons, List.append_nil]
      have hrest := ih (front ++ [s])
      simp only [List.append_assoc, List.singleton_append] at hrest
      rw [← hrest]
      cases hshown : s.isShown with
      | true => simp [blocksBehind_cons, shown_singleton, hshown]
      | false => simp [shown_singleton, hshown]

theorem forall₂_blocks_shown {R : Block → Block → Prop} :
    List.Forall₂ R (blocks config sections) (blocks config (shown sections)) ↔
      ∀ front s behind, sections = front ++ s :: behind → s.isShown = true →
        R (blockBetween config front s behind)
          (blockBetween config (shown front) s (shown behind)) :=
  forall₂_blocksBehind [] sections

/-- All verses are among the sections that leave a block. -/
theorem verseCount_shown (sections : List Section) :
    verseCount (shown sections) = verseCount sections := by
  rw [verseCount, verseCount, shown, List.filter_filter]
  refine congrArg List.length (List.filter_congr fun s _ => ?_)
  cases hverse : s.isVerse with
  | true => rw [Section.isShown_of_isVerse hverse, Bool.and_true]
  | false => rfl

/-! ## Sections between a break and a verse -/

variable {front behind : List Section}

/-- Between a break and a verse stand sections, and all of them leave no block. -/
def PartsBreak (sections : List Section) : Prop :=
  ∃ front a blanks b behind, sections = front ++ a :: (blanks ++ b :: behind) ∧ blanks ≠ [] ∧
    (∀ s ∈ blanks, s.isShown = false) ∧
    (a.isBreak = true ∧ b.isVerse = true ∨ a.isVerse = true ∧ b.isBreak = true)

/-- Of the sections that leave a block, the first one is a break exactly when a break stands behind
nothing but sections that leave none. -/
theorem isBeforeBreak_shown_iff :
    isBeforeBreak (shown behind) = true ↔
      ∃ blanks b rest, behind = blanks ++ b :: rest ∧ (∀ s ∈ blanks, s.isShown = false) ∧
        b.isBreak = true := by
  rw [isBeforeBreak, shown, List.head?_filter, Option.any_eq_true]
  constructor
  · rintro ⟨b, hfound, hbreak⟩
    obtain ⟨-, blanks, rest, rfl, hblanks⟩ := List.find?_eq_some_iff_append.1 hfound
    exact ⟨blanks, b, rest, rfl, by simpa using hblanks, hbreak⟩
  · rintro ⟨blanks, b, rest, rfl, hblanks, hbreak⟩
    refine ⟨b, List.find?_eq_some_iff_append.2 ⟨?_, blanks, rest, rfl, ?_⟩, hbreak⟩
    case refine_2 => simpa using hblanks
    rw [Section.isShown, hbreak, Bool.true_or]

/-- A break that stands next stays next when sections are skipped. -/
theorem isBeforeBreak_shown (h : isBeforeBreak behind = true) :
    isBeforeBreak (shown behind) = true := by
  cases behind with
  | nil => cases h
  | cons b rest => exact isBeforeBreak_shown_iff.2 ⟨[], b, rest, rfl, List.forall_mem_nil _, h⟩

/-- Skipping sections brings a break next to what is in front when it stands behind some of them. -/
theorem isBeforeBreak_shown_ne_iff :
    isBeforeBreak (shown behind) ≠ isBeforeBreak behind ↔
      ∃ blanks b rest, behind = blanks ++ b :: rest ∧ blanks ≠ [] ∧
        (∀ s ∈ blanks, s.isShown = false) ∧ b.isBreak = true := by
  constructor
  · intro hne
    cases hbreak : isBeforeBreak behind with
    | true => exact absurd (isBeforeBreak_shown hbreak) (hbreak ▸ hne)
    | false =>
        have hshown : isBeforeBreak (shown behind) = true := by simpa [hbreak] using hne
        obtain ⟨blanks, b, rest, rfl, hblanks, hb⟩ := isBeforeBreak_shown_iff.1 hshown
        refine ⟨blanks, b, rest, rfl, ?_, hblanks, hb⟩
        rintro rfl
        simp [isBeforeBreak, hb] at hbreak
  · rintro ⟨blanks, b, rest, rfl, hne, hblanks, hbreak⟩
    obtain ⟨blank, blanks, rfl⟩ := List.exists_cons_of_ne_nil hne
    have hfirst := Section.isBreak_of_not_isShown (hblanks blank List.mem_cons_self)
    rw [isBeforeBreak_shown_iff.2 ⟨_, b, rest, rfl, hblanks, hbreak⟩]
    simp [isBeforeBreak, hfirst]

theorem isBehindBreak_eq (front : List Section) :
    isBehindBreak front = isBeforeBreak front.reverse := by
  rw [isBehindBreak, isBeforeBreak, List.head?_reverse]

theorem shown_reverse (sections : List Section) :
    shown sections.reverse = (shown sections).reverse :=
  List.filter_reverse ..

/-- Skipping sections brings a break next to what is behind when it stands in front of some of
them. -/
theorem isBehindBreak_shown_ne_iff :
    isBehindBreak (shown front) ≠ isBehindBreak front ↔
      ∃ rest a blanks, front = rest ++ a :: blanks ∧ blanks ≠ [] ∧
        (∀ s ∈ blanks, s.isShown = false) ∧ a.isBreak = true := by
  rw [isBehindBreak_eq, isBehindBreak_eq, ← shown_reverse, isBeforeBreak_shown_ne_iff]
  constructor
  · rintro ⟨blanks, a, rest, hfront, hne, hblanks, ha⟩
    refine ⟨rest.reverse, a, blanks.reverse, ?_, by simpa using hne, by simpa using hblanks, ha⟩
    simp [List.reverse_eq_iff.1 hfront]
  · rintro ⟨rest, a, blanks, rfl, hne, hblanks, ha⟩
    exact ⟨blanks.reverse, a, rest.reverse, by simp, by simpa using hne, by simpa using hblanks, ha⟩

/-- No break is parted from a verse exactly when the neighbours of every verse are what they are
among the sections that leave a block. -/
theorem not_partsBreak_iff :
    ¬PartsBreak sections ↔ ∀ front s behind, sections = front ++ s :: behind → s.isVerse = true →
      isBehindBreak (shown front) = isBehindBreak front ∧
        isBeforeBreak (shown behind) = isBeforeBreak behind := by
  constructor
  · rintro hparts front s behind rfl hverse
    refine ⟨by_contra fun hne => hparts ?_, by_contra fun hne => hparts ?_⟩
    · obtain ⟨rest, a, blanks, rfl, hblanks, hall, ha⟩ := isBehindBreak_shown_ne_iff.1 hne
      exact ⟨rest, a, blanks, s, behind, by simp, hblanks, hall, .inl ⟨ha, hverse⟩⟩
    · obtain ⟨blanks, b, rest, rfl, hblanks, hall, hb⟩ := isBeforeBreak_shown_ne_iff.1 hne
      exact ⟨front, s, blanks, b, rest, rfl, hblanks, hall, .inr ⟨hverse, hb⟩⟩
  · rintro hsame ⟨front, a, blanks, b, behind, rfl, hne, hall, ⟨ha, hverse⟩ | ⟨hverse, hb⟩⟩
    · refine isBehindBreak_shown_ne_iff.2 ⟨front, a, blanks, rfl, hne, hall, ha⟩ ?_
      exact (hsame (front ++ a :: blanks) b behind (by simp) hverse).1
    · refine isBeforeBreak_shown_ne_iff.2 ⟨blanks, b, behind, rfl, hne, hall, hb⟩ ?_
      exact (hsame front a (blanks ++ b :: behind) rfl hverse).2

/-! ## The block of a section among others -/

/-- A verse is a block that tells whether a break stands right in front of it or right behind it. -/
theorem contentOf_eq_iff {s : Section} (h : s.isHeader = false) {verse : Option Nat}
    {after after' before before' : Bool} :
    contentOf config 0 verse after before s = contentOf config 0 verse after' before' s ↔
      after' = after ∧ before' = before := by
  constructor
  · intro heq
    have hspacing := congrArg Content.spacing heq
    simp only [contentOf, Spacing.classify, h, Bool.false_eq_true, if_false] at hspacing
    revert hspacing
    cases after <;> cases after' <;> cases before <;> cases before' <;> decide
  · rintro ⟨rfl, rfl⟩
    rfl

/-- A heading is the same block between all neighbours. -/
theorem contentOf_eq_of_isHeader {s : Section} (h : s.isHeader = true) (verse : Option Nat)
    (after after' before before' : Bool) :
    contentOf config 0 verse after before s = contentOf config 0 verse after' before' s := by
  simp [contentOf, Spacing.classify, h]

/-- Sections that leave no block can be deleted without a change to what blocks show, apart from the
space and the frame that verses have next to a break. -/
theorem map_bare_blocks_shown (config : RenderConfig) (sections : List Section) :
    (blocks config (shown sections)).map Block.bare = (blocks config sections).map Block.bare := by
  rw [eq_comm, ← List.forall₂_eq_eq_eq, List.forall₂_map_left_iff, List.forall₂_map_right_iff,
    forall₂_blocks_shown]
  intro front s behind _ _
  rw [blockBetween, blockBetween, verseCount_shown]
  cases s.isBreak with
  | true => rfl
  | false =>
      rw [if_neg Bool.false_ne_true, if_neg Bool.false_ne_true]
      -- The space and the frame of a heading do not depend on its neighbours.
      cases hheader : s.isHeader <;> simp [Block.bare, contentOf, Spacing.classify, hheader]

/-- The block of a section is the same among all sections and among those that leave a block, unless
it is a verse that gets other neighbours. -/
theorem atStart_blockBetween_eq_iff (config : RenderConfig) {s : Section}
    (hshown : s.isShown = true) :
    (blockBetween config front s behind).atStart =
        (blockBetween config (shown front) s (shown behind)).atStart ↔
      (s.isVerse = true → isBehindBreak (shown front) = isBehindBreak front ∧
        isBeforeBreak (shown behind) = isBeforeBreak behind) := by
  rw [blockBetween, blockBetween, verseCount_shown]
  cases hbreak : s.isBreak with
  | true => simp [Block.atStart, Section.isVerse, hbreak]
  | false =>
      have hcontent : s.hasContent = true := by
        rwa [Section.isShown, hbreak, Bool.false_or] at hshown
      rw [if_neg Bool.false_ne_true, if_neg Bool.false_ne_true, Block.atStart, Block.atStart,
        Block.content.injEq]
      cases hheader : s.isHeader with
      | true =>
          have hverse : s.isVerse = false := by simp [Section.isVerse, hheader]
          simp only [hverse, Bool.false_eq_true, false_implies, iff_true]
          exact contentOf_eq_of_isHeader hheader _ _ _ _ _
      | false =>
          have hverse : s.isVerse = true := by simp [Section.isVerse, hbreak, hheader, hcontent]
          simp only [hverse, if_true, forall_const]
          exact contentOf_eq_iff hheader

/-- Sections that leave no block can be deleted without a change to any block exactly when they part
no break from a verse. -/
theorem map_atStart_blocks_shown_iff (config : RenderConfig) (sections : List Section) :
    (blocks config sections).map Block.atStart =
        (blocks config (shown sections)).map Block.atStart ↔
      ¬PartsBreak sections := by
  rw [not_partsBreak_iff, ← List.forall₂_eq_eq_eq, List.forall₂_map_left_iff,
    List.forall₂_map_right_iff, forall₂_blocks_shown]
  constructor
  · intro h front s behind hcut hverse
    have hshown := Section.isShown_of_isVerse hverse
    exact (atStart_blockBetween_eq_iff config hshown).1 (h front s behind hcut hshown) hverse
  · intro h front s behind hcut hshown
    exact (atStart_blockBetween_eq_iff config hshown).2 (h front s behind hcut)

/-! ## Counting what blocks tell -/

/-- Something that is counted in blocks, and more of it in a verse with a break right in front of it
or right behind it. -/
def CountsBreaks (config : RenderConfig) (count : Block → Nat) : Prop :=
  ∀ s verse, s.isHeader = false → ∃ base step step', 0 < step ∧ 0 < step' ∧
    ∀ origin after before, count (.content (contentOf config origin verse after before s)) =
      base + step * after.toNat + step' * before.toNat

/-- With more breaks next to a verse, more is counted in its block. -/
theorem CountsBreaks.lt {count : Block → Nat} (h : CountsBreaks config count) {s : Section}
    (hheader : s.isHeader = false) {verse : Option Nat} {origin origin' : Nat}
    {after after' before before' : Bool} (hafter : after = true → after' = true)
    (hbefore : before = true → before' = true) (hne : ¬(after' = after ∧ before' = before)) :
    count (.content (contentOf config origin verse after before s)) <
      count (.content (contentOf config origin' verse after' before' s)) := by
  obtain ⟨base, step, step', hstep, hstep', hcount⟩ := h s verse hheader
  rw [hcount, hcount]
  revert hafter hbefore hne
  cases after <;> cases after' <;> cases before <;> cases before' <;> simp <;> omega

/-- Of blocks that are the same one by one or hold more, either all are the same or more is
counted in all of them. -/
theorem map_eq_or_total_lt {α β : Type} {f : α → β} {count : α → Nat} {l l' : List α}
    (h : List.Forall₂ (fun a a' => f a = f a' ∧ count a = count a' ∨ count a < count a') l l') :
    l.map f = l'.map f ∧ total count l = total count l' ∨ total count l < total count l' := by
  induction h with
  | nil => exact .inl ⟨rfl, rfl⟩
  | cons hfirst _ ih =>
      simp only [List.map_cons, List.cons.injEq, total]
      obtain ⟨hf, hcount⟩ | hlt := hfirst
      · obtain ⟨hmap, htotal⟩ | hrest := ih
        · exact .inl ⟨⟨hf, hmap⟩, by omega⟩
        · exact .inr (by omega)
      · obtain ⟨-, htotal⟩ | hrest := ih
        · exact .inr (by omega)
        · exact .inr (by omega)

/-- A break that stands right in front stays there when sections are skipped. -/
theorem isBehindBreak_shown (h : isBehindBreak front = true) :
    isBehindBreak (shown front) = true := by
  rw [isBehindBreak_eq] at h ⊢
  rw [← shown_reverse]
  exact isBeforeBreak_shown h

/-- Without the sections that leave no block, the block of each other section is the same, or more
is counted in it. -/
theorem CountsBreaks.forall₂ {count : Block → Nat} (h : CountsBreaks config count)
    (hstart : ∀ b, count b.atStart = count b) (sections : List Section) :
    List.Forall₂ (fun b b' => b.atStart = b'.atStart ∧ count b = count b' ∨ count b < count b')
      (blocks config sections) (blocks config (shown sections)) := by
  rw [forall₂_blocks_shown]
  intro front s behind _ hshown
  by_cases hsame : s.isVerse = true → isBehindBreak (shown front) = isBehindBreak front ∧
      isBeforeBreak (shown behind) = isBeforeBreak behind
  · have hblock := (atStart_blockBetween_eq_iff config hshown).2 hsame
    exact .inl ⟨hblock, by rw [← hstart, hblock, hstart]⟩
  · obtain ⟨hverse, hne⟩ := Classical.not_imp.1 hsame
    simp only [Section.isVerse, Bool.and_eq_true, Bool.not_eq_true'] at hverse
    rw [blockBetween, blockBetween, hverse.1.1, verseCount_shown]
    exact .inr (h.lt hverse.1.2 isBehindBreak_shown isBeforeBreak_shown hne)

/-- An output that shows the blocks, wherever their sections stand in the document, and the total of
what is counted in them, stays the same without the sections that leave no block exactly when they
part no break from a verse. -/
theorem CountsBreaks.output_eq_iff {α : Type} {count : Block → Nat}
    (h : CountsBreaks config count) (output : List Block → α)
    (hstart : ∀ b, count b.atStart = count b)
    (hblocks : ∀ bs, output (bs.map Block.atStart) = output bs)
    (htotal : ∀ bs bs', output bs = output bs' → total count bs = total count bs') :
    output (blocks config (shown sections)) = output (blocks config sections) ↔
      ¬PartsBreak sections := by
  rw [← map_atStart_blocks_shown_iff config]
  constructor
  · intro heq
    have hcount := htotal _ _ heq
    obtain ⟨hmap, -⟩ | hlt := map_eq_or_total_lt (h.forall₂ hstart sections)
    · exact hmap
    · omega
  · intro hmap
    rw [← hblocks, ← hmap, hblocks]

end Layout

/-! ## Pages -/

namespace Page

open Layout

variable {config : RenderConfig} {s : PageStyle}

/-- A block is drawn in the same rows wherever its section stands in the document. -/
theorem part_atStart (config : RenderConfig) (s : PageStyle) (block : Block) :
    part config s block.atStart = part config s block := by
  cases block <;> rfl

theorem ofBlocks_map_atStart (config : RenderConfig) (s : PageStyle) (before : Nat)
    (blocks : List Block) :
    ofBlocks config s before (blocks.map Block.atStart) = ofBlocks config s before blocks := by
  induction blocks generalizing before with
  | nil => rfl
  | cons block blocks ih =>
      have hrows : blockRows config s block.atStart = blockRows config s block := by
        cases block <;> rfl
      have hverse : verse? block.atStart = verse? block := by
        cases block <;> rfl
      simp only [List.map_cons, ofBlocks, hrows, hverse, ih]

/-- A verse takes two rows more behind a break, its frame among them, and one more before one. -/
theorem countsBreaks_rows (config : RenderConfig) (s : PageStyle) :
    CountsBreaks config fun block => (part config s block).rows.length := by
  intro stanza verse hheader
  let text := textRows (contentOf config 0 verse false false stanza) s (gutter config s)
  refine ⟨text.length + if config.compact then 0 else 1, 2, 1, by decide, by decide,
    fun origin after before => ?_⟩
  have hrows : (part config s (.content (contentOf config origin verse after before stanza))).rows =
      (if after && !stanza.isHeader then [rule s (s.width / 3)] else []) ++
        blankRows ((Spacing.classify stanza after before).rows config.compact).1 ++ text ++
        blankRows ((Spacing.classify stanza after before).rows config.compact).2 := rfl
  simp only [hrows, Spacing.classify, hheader, blankRows, List.length_append,
    List.length_replicate]
  cases after <;> cases before <;> cases config.compact <;> simp [Spacing.rows] <;> omega

/-- As many rows are on a page as its blocks take. -/
theorem length_rows_ofBlocks (config : RenderConfig) (s : PageStyle) (blocks : List Block) :
    (ofBlocks config s 0 blocks).rows.length =
      total (fun block => (part config s block).rows.length) blocks := by
  rw [rows_ofBlocks]
  induction blocks with
  | nil => rfl
  | cons block blocks ih => rw [rowsOf, List.flatMap_cons, List.length_append, ← rowsOf, ih, total]

/-- Sections that leave no block can be deleted without a change to the page exactly when they part
no break from a verse. -/
theorem render_shown_eq_iff (sections : List Section) (config : RenderConfig) (s : PageStyle) :
    render (shown sections) config s = render sections config s ↔ ¬PartsBreak sections := by
  refine (countsBreaks_rows config s).output_eq_iff (ofBlocks config s 0) (fun block => ?_)
    (ofBlocks_map_atStart config s 0) fun blocks blocks' heq => ?_
  · rw [part_atStart]
  · rw [← length_rows_ofBlocks, ← length_rows_ofBlocks, heq]

end Page

end MarkedVerse
