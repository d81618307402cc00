import Mathlib.Data.List.Forall2
import MarkedVerse.Layout
import MarkedVerse.Proofs.VerseLines

/-!
# The blocks of a document

A section leaves at most one block, and what the block says is taken from the section: its lines,
and the number of its verse. No line is lost (`Layout.flatMap_lines_blocks`), and the verses are
numbered in order (`Layout.filterMap_verse?_blocks`). Of the lines themselves layout reads only how
many there are, so sections that differ in the words of their lines alone are laid out as blocks
that differ in the same words (`Layout.alike_blocks`).
-/

namespace MarkedVerse

/-! ## The block of a section -/

/-- The lines that a block shows. -/
def Block.lines : Block → List Text
  | .divider _ _ => []
  | .content b => b.lines

namespace Layout

variable {config : RenderConfig} {origin next : Nat} {after : Bool} {sections : List Section}

/-- One more section is one more verse, if it is one. -/
theorem verseCount_cons (s : Section) (sections : List Section) :
    verseCount (s :: sections) = (if s.isVerse then 1 else 0) + verseCount sections := by
  rw [verseCount, List.filter_cons, verseCount]
  split <;> simp [Nat.add_comm]

/-- The blocks of a section and of those behind it: the section leaves no more than one. -/
theorem blocksFrom_cons (config : RenderConfig) (origin next : Nat) (after : Bool) (s : Section)
    (sections : List Section) :
    ∃ block before after', blocksFrom config origin next after (s :: sections) =
        block ++ blocksFrom config (origin + 1) (if s.isVerse then next + 1 else next) after'
          sections ∧
      ((block = [.content (contentOf config origin (if s.isVerse then some next else none) after
          before s)] ∧ s.hasContent = true) ∨
        (s.isVerse = false ∧ ∀ b, .content b ∉ block)) := by
  rw [blocksFrom]
  split
  · next hbreak =>
      have hverse : s.isVerse = false := by simp [Section.isVerse, hbreak]
      rw [hverse]
      exact ⟨[_], false, _, rfl, .inr ⟨rfl, by simp⟩⟩
  · split
    · next hcontent => exact ⟨[_], _, _, rfl, .inl ⟨rfl, hcontent⟩⟩
    · next hcontent =>
        have hverse : s.isVerse = false := by simp [Section.isVerse, hcontent]
        rw [hverse]
        exact ⟨[], false, _, rfl, .inr ⟨rfl, by simp⟩⟩

/-- The number of a verse is at most the count of verses, and a block has lines of verse. -/
theorem of_mem_blocksFrom {b : Content}
    (h : .content b ∈ blocksFrom config origin next after sections) :
    (∀ n, b.badge = some n → 0 < n ∧ n ≤ next + verseCount sections) ∧
      b.lines ≠ [] ∧ ∀ line ∈ b.lines, Text.IsVerseLine line := by
  induction sections generalizing origin next after with
  | nil => cases h
  | cons s sections ih =>
      obtain ⟨block, before, after', hblocks, hblock⟩ :=
        blocksFrom_cons config origin next after s sections
      rw [hblocks] at h
      rcases List.mem_append.1 h with h | h
      · rcases hblock with ⟨rfl, hcontent⟩ | ⟨-, hnone⟩
        · cases List.mem_singleton.1 h
          have hlines : s.lines ≠ [] := by simpa [Section.hasContent] using hcontent
          refine ⟨fun n hbadge => ?_, hlines, fun line => Text.isVerseLine_of_mem⟩
          rw [verseCount_cons]
          simp only [contentOf] at hbadge
          split at hbadge
          · cases hverse : s.isVerse with
            | true =>
                simp only [hverse, if_true, Option.map_some, Option.some.injEq] at hbadge ⊢
                omega
            | false => simp [hverse] at hbadge
          · cases hbadge
        · exact absurd h (hnone b)
      · obtain ⟨hbadge, hlines⟩ := ih h
        refine ⟨fun n hn => ?_, hlines⟩
        obtain ⟨hpos, hle⟩ := hbadge n hn
        rw [verseCount_cons]
        refine ⟨hpos, ?_⟩
        split at hle
        · next hverse => rw [if_pos hverse]; omega
        · next hverse => rw [if_neg hverse]; omega

/-- When numbers are shown, the last verse has that of their count. -/
theorem exists_badge_eq_verseCount (hnumbers : config.numbers = true)
    (hpos : 0 < verseCount sections) :
    ∃ b, .content b ∈ blocksFrom config origin next after sections ∧
      b.badge = some (next + verseCount sections) := by
  induction sections generalizing origin next after with
  | nil => cases hpos
  | cons s sections ih =>
      obtain ⟨block, before, after', hblocks, hblock⟩ :=
        blocksFrom_cons config origin next after s sections
      rw [hblocks]
      rw [verseCount_cons] at hpos ⊢
      by_cases hlater : 0 < verseCount sections
      · obtain ⟨b, hb, hbadge⟩ := ih hlater
        refine ⟨b, List.mem_append_right _ hb, hbadge.trans (congrArg some ?_)⟩
        split <;> omega
      · have hzero : verseCount sections = 0 := by omega
        cases hverse : s.isVerse with
        | false => simp [hverse, hzero] at hpos
        | true =>
            rcases hblock with ⟨rfl, -⟩ | ⟨hnone, -⟩
            · refine ⟨_, List.mem_append_left _ List.mem_cons_self, ?_⟩
              simp [contentOf, hnumbers, hverse, hzero]
            · rw [hverse] at hnone
              cases hnone

/-- The block shows this section, wherever it stands. -/
def Shows (config : RenderConfig) (b : Content) (s : Section) : Prop :=
  ∃ origin next after before,
    b = contentOf config origin (if s.isVerse then some next else none) after before s

/-- A block of text shows one of the sections. -/
theorem exists_of_mem_blocksFrom {b : Content}
    (h : .content b ∈ blocksFrom config origin next after sections) :
    ∃ s ∈ sections, Shows config b s := by
  induction sections generalizing origin next after with
  | nil => cases h
  | cons s sections ih =>
      obtain ⟨block, before, after', hblocks, hblock⟩ :=
        blocksFrom_cons config origin next after s sections
      rw [hblocks, List.mem_append] at h
      obtain hmem | hmem := h
      · obtain ⟨rfl, -⟩ | ⟨-, hnone⟩ := hblock
        · cases List.mem_singleton.1 hmem
          exact ⟨s, List.mem_cons_self, _, _, _, _, rfl⟩
        · exact absurd hmem (hnone b)
      · obtain ⟨s', hs', hshows⟩ := ih hmem
        exact ⟨s', List.mem_cons_of_mem s hs', hshows⟩

/-- The blocks of verses are numbered in order, one number for each verse. -/
theorem filterMap_verse?_blocksFrom (config : RenderConfig) (origin next : Nat) (after : Bool)
    (sections : List Section) :
    (blocksFrom config origin next after sections).filterMap verse? =
      List.range' next (verseCount sections) := by
  induction sections generalizing origin next after with
  | nil => rfl
  | cons s sections ih =>
      obtain ⟨block, before, after', hblocks, hblock⟩ :=
        blocksFrom_cons config origin next after s sections
      rw [hblocks, List.filterMap_append, ih, verseCount_cons]
      obtain ⟨rfl, -⟩ | ⟨hverse, hnone⟩ := hblock
      · cases s.isVerse with
        | true =>
            rw [if_pos rfl, if_pos rfl, if_pos rfl, List.filterMap_cons_some (f := verse?) rfl,
              Nat.add_comm 1, List.range'_succ]
            rfl
        | false => simp [verse?, contentOf]
      · have hskip : block.filterMap verse? = [] := by
          rw [List.filterMap_eq_nil_iff]
          rintro (⟨position, margin⟩ | content) hmem
          · rfl
          · exact absurd hmem (hnone content)
        simp [hskip, hverse]

/-- The blocks of the verses of a document are numbered from zero. -/
theorem filterMap_verse?_blocks (config : RenderConfig) (sections : List Section) :
    (blocks config sections).filterMap verse? = List.range (verseCount sections) := by
  rw [blocks, filterMap_verse?_blocksFrom, List.range_eq_range']

/-- The verses among sections are numbered in order. -/
theorem filterMap_verseIndicesFrom (next : Nat) (sections : List Section) :
    (verseIndicesFrom next sections).filterMap id = List.range' next (verseCount sections) := by
  induction sections generalizing next with
  | nil => rfl
  | cons s sections ih =>
      rw [verseIndicesFrom, verseCount_cons]
      cases s.isVerse with
      | true => simpa [Nat.add_comm 1, List.range'_succ] using ih (next + 1)
      | false => simpa using ih next

/-- A block shows the number of the verse that its section is. -/
theorem getElem?_verseIndicesFrom {b : Content}
    (h : .content b ∈ blocksFrom config origin next after sections) :
    origin ≤ b.origin ∧ (verseIndicesFrom next sections)[b.origin - origin]? = some b.verse := by
  induction sections generalizing origin next after with
  | nil => cases h
  | cons s sections ih =>
      obtain ⟨block, before, after', hblocks, hblock⟩ :=
        blocksFrom_cons config origin next after s sections
      have hindices : verseIndicesFrom next (s :: sections) =
          (if s.isVerse then some next else none) ::
            verseIndicesFrom (if s.isVerse then next + 1 else next) sections := by
        rw [verseIndicesFrom]
        split <;> rfl
      rw [hblocks, List.mem_append] at h
      rw [hindices]
      obtain hmem | hmem := h
      · obtain ⟨rfl, -⟩ | ⟨-, hnone⟩ := hblock
        · cases List.mem_singleton.1 hmem
          exact ⟨Nat.le_refl _, by simp [contentOf]⟩
        · exact absurd hmem (hnone b)
      · obtain ⟨hle, hverse⟩ := ih hmem
        have hindex : b.origin - origin = b.origin - (origin + 1) + 1 := by omega
        exact ⟨by omega, by rw [hindex, List.getElem?_cons_succ, hverse]⟩

/-- The badge of a block is the number of its verse, counted from one, if numbers are shown. -/
theorem badge_eq {b : Content} (h : .content b ∈ blocksFrom config origin next after sections) :
    b.badge = if config.numbers then b.verse.map (· + 1) else none := by
  obtain ⟨s, -, origin, next, after, before, rfl⟩ := exists_of_mem_blocksFrom h
  rfl

/-- The blocks show the lines of all sections but dividers, in order. -/
theorem flatMap_lines_blocksFrom (config : RenderConfig) (origin next : Nat) (after : Bool)
    (sections : List Section) :
    (blocksFrom config origin next after sections).flatMap Block.lines =
      (sections.filter fun s => !s.isBreak).flatMap Section.lines := by
  induction sections generalizing origin next after with
  | nil => rfl
  | cons s sections ih =>
      cases hbreak : s.isBreak with
      | true => simp [blocksFrom, hbreak, Block.lines, ih]
      | false =>
          have hfilter : (s :: sections).filter (fun s => !s.isBreak) =
              s :: sections.filter fun s => !s.isBreak := by simp [hbreak]
          rw [hfilter, List.flatMap_cons]
          cases hcontent : s.hasContent with
          | true => simp [blocksFrom, hbreak, hcontent, Block.lines, contentOf, ih]
          | false =>
              have hlines : s.lines = [] := by simpa [Section.hasContent] using hcontent
              simp [blocksFrom, hbreak, hcontent, hlines, ih]

/-- The blocks of a document show the lines of all its sections but dividers, in order. -/
theorem flatMap_lines_blocks (config : RenderConfig) (sections : List Section) :
    (blocks config sections).flatMap Block.lines =
      (sections.filter fun s => !s.isBreak).flatMap Section.lines :=
  flatMap_lines_blocksFrom config 0 0 false sections

end Layout

/-! ## Sections laid out alike -/

variable {R : List Text → List Text → Prop}

/-- Two sections with the same flags and style, whose lines are related. -/
structure Section.Alike (R : List Text → List Text → Prop) (s s' : Section) : Prop where
  style : s.style = s'.style
  isBreak : s.isBreak = s'.isBreak
  isHeader : s.isHeader = s'.isHeader
  lines : R s.lines s'.lines

/-- The same divider, or two blocks that differ in their lines alone, which are related. -/
inductive Block.Alike (R : List Text → List Text → Prop) : Block → Block → Prop where
  | divider (origin : Nat) (margin : Margin) :
      Alike R (.divider origin margin) (.divider origin margin)
  | content (b : Content) {lines : List Text} (h : R b.lines lines) :
      Alike R (.content b) (.content { b with lines })

/-- Blocks with the same lines that are otherwise alike are the same. -/
theorem Block.Alike.eq {b b' : Block} (h : Alike Eq b b') : b = b' := by
  cases h with
  | divider => rfl
  | content b h => rw [← h]

namespace Section.Alike

variable {s s' : Section}

/-- Of two sections with as many lines, both have text or neither has. -/
theorem hasContent_eq (hlength : s.lines.length = s'.lines.length) :
    s.hasContent = s'.hasContent := by
  rw [hasContent, hasContent, Bool.not_inj_iff, Bool.eq_iff_iff, List.isEmpty_iff_length_eq_zero,
    List.isEmpty_iff_length_eq_zero, hlength]

/-- Of two sections that are alike, with as many lines, both are verse or neither is. -/
theorem isVerse_eq (h : s.Alike R s') (hlength : s.lines.length = s'.lines.length) :
    s.isVerse = s'.isVerse := by
  rw [isVerse, isVerse, h.isBreak, h.isHeader, hasContent_eq hlength]

/-- Behind sections that are alike, a break is next for both or for neither. -/
theorem any_head?_eq {sections sections' : List Section}
    (h : List.Forall₂ (Section.Alike R) sections sections') :
    sections.head?.any Section.isBreak = sections'.head?.any Section.isBreak := by
  cases h with
  | nil => rfl
  | cons hfirst _ => simp [hfirst.isBreak]

/-- Between the same neighbours, sections that are alike leave blocks that differ in their lines. -/
theorem contentOf_eq (h : s.Alike R s') (hlength : s.lines.length = s'.lines.length)
    (config : RenderConfig) (origin : Nat) (verse : Option Nat) (after before : Bool) :
    Layout.contentOf config origin verse after before s' =
      { Layout.contentOf config origin verse after before s with lines := s'.lines } := by
  simp only [Layout.contentOf, Spacing.classify, Shape.of, h.style, h.isHeader, hlength]

end Section.Alike

namespace Layout

variable {sections sections' : List Section}

/-- Sections that are alike, with as many lines, are laid out as blocks that are alike. -/
theorem alike_blocksFrom (hlength : ∀ lines lines', R lines lines' → lines.length = lines'.length)
    (h : List.Forall₂ (Section.Alike R) sections sections') (config : RenderConfig)
    (origin next : Nat) (after : Bool) :
    List.Forall₂ (Block.Alike R) (blocksFrom config origin next after sections)
      (blocksFrom config origin next after sections') := by
  induction h generalizing origin next after with
  | nil => exact .nil
  | cons hfirst hrest ih =>
      have hlines := hlength _ _ hfirst.lines
      rw [blocksFrom, blocksFrom, ← hfirst.isBreak, ← Section.Alike.hasContent_eq hlines]
      split
      · exact .cons (.divider _ _) (ih _ _ _)
      · split
        · rw [← hfirst.isVerse_eq hlines, ← Section.Alike.any_head?_eq hrest]
          simp only [hfirst.contentOf_eq hlines]
          exact .cons (.content _ hfirst.lines) (ih _ _ _)
        · exact ih _ _ _

/-- Documents whose sections are alike, with as many lines, have blocks that are alike. -/
theorem alike_blocks (hlength : ∀ lines lines', R lines lines' → lines.length = lines'.length)
    (h : List.Forall₂ (Section.Alike R) sections sections') (config : RenderConfig) :
    List.Forall₂ (Block.Alike R) (blocks config sections) (blocks config sections') :=
  alike_blocksFrom hlength h config 0 0 false

/-- The blocks of a document depend on nothing of a section but flags, style and lines. -/
theorem blocks_eq (h : List.Forall₂ (Section.Alike Eq) sections sections')
    (config : RenderConfig) : blocks config sections = blocks config sections' := by
  rw [← List.forall₂_eq_eq_eq]
  exact (alike_blocks (fun _ _ => congrArg List.length) h config).imp fun _ _ => Block.Alike.eq

end Layout

end MarkedVerse
