import MarkedVerse.Proofs.CleanMarkup
import MarkedVerse.Proofs.PlacedRows

/-!
# What both renderers make of an alignment

A page centres the rows of a heading whatever the style of its section is, while the HTML writes the
class of that style, and cleaning lets no heading have another class than the centred one. So the
renderers agree on a block, and cleaning keeps its classes, exactly when the block is no heading or
one in the centred style (`Html.renderers_agree_iff`). The headings of a text are all of that kind
(`Html.renderers_agree_on_text`); a list of sections may have others.
-/

namespace MarkedVerse

/-! ## The alignment of rows -/

namespace Page

variable {b : Content} {a a' : Alignment} {column line : Nat}

/-- The rows of the block stand where those of a verse in this style would stand, in every column and
with every indentation. -/
def PaddedAs (a : Alignment) (b : Content) : Prop :=
  ∀ column indent, placeRows b column indent =
    placeRows { b with style := a, isHeader := false } column indent

theorem paddedAs_placement (b : Content) : PaddedAs b.placement b :=
  fun _ _ => rfl

/-- Four free cells tell the alignments apart. -/
theorem leadingPadding_inj (hfree : line + 4 ≤ column)
    (h : leadingPadding line column a 1 = leadingPadding line column a' 1) : a = a' := by
  cases a <;> cases a' <;> first | rfl | (simp only [leadingPadding] at h; omega)

/-- In a column that is wide enough, the padding of some row is that of something that leaves four
cells free, whatever the style is: of the first line, or of a couplet as a whole. -/
theorem exists_padding_eq (hlines : b.lines ≠ []) :
    ∃ column line row : Nat, line + 4 ≤ column ∧ ∀ a,
      (placeRows { b with style := a, isHeader := false } column 1)[row]?.map Prod.fst =
        some (leadingPadding line column a 1) := by
  by_cases hcouplet : b.shape = .couplet ∧ ∃ first second, b.lines = [first, second]
  · obtain ⟨hshape, first, second, hpair⟩ := hcouplet
    refine ⟨_, max (Text.width first) (Text.width second), 1, Nat.le_refl _, fun a => ?_⟩
    rw [placeRows]
    simp only [hshape, hpair, if_pos (Nat.le_add_right _ 4)]
    rfl
  · obtain ⟨first, rest, hfirst⟩ := List.exists_cons_of_ne_nil hlines
    refine ⟨_, Text.width first, 0, Nat.le_refl _, fun a => ?_⟩
    have hwrap : Text.wrap first (Text.width first + 4) = [first] :=
      if_pos (.inr (Nat.le_add_right _ 4))
    rw [placeRows]
    split
    · next first second hshape hpair => exact absurd ⟨hshape, first, second, hpair⟩ hcouplet
    · simp only [placeLines, hfirst, List.flatMap_cons, hwrap]
      rfl

/-- The rows of a block tell by which alignment they are padded. -/
theorem paddedAs_iff (hlines : b.lines ≠ []) : PaddedAs a b ↔ a = b.placement := by
  refine ⟨fun h => ?_, fun h => h ▸ paddedAs_placement b⟩
  obtain ⟨column, line, row, hfree, hpadding⟩ := exists_padding_eq hlines
  have hrows := (h column 1).symm.trans (paddedAs_placement b column 1)
  refine leadingPadding_inj hfree (Option.some.inj ?_)
  rw [← hpadding, ← hpadding, hrows]

end Page

/-! ## Classes in markup -/

namespace Html

variable {b : Content} {a : Alignment} {p : Piece} {tag : String} {names : List String}

/-- The classes that a piece of markup gives its element, as they are read from it. -/
def Piece.classes : Piece → List String
  | .opening _ attributes =>
    (attributes.filter fun a => a.name = "class").flatMap fun a =>
      (Text.runsOutside isBlank a.value).map String.ofList
  | _ => []

/-- The element may have all classes that the piece gives it. -/
def Piece.IsAllowed : Piece → Prop
  | .opening tag attributes =>
    ∀ name ∈ (Piece.opening tag attributes).classes,
      ∃ allowed, ownClasses? tag = some allowed ∧ name ∈ allowed
  | _ => True

/-- The class of the alignment is written for the block. -/
def NamedAs (a : Alignment) (b : Content) : Prop :=
  ∃ p ∈ contentMarkup b, alignClass a ∈ p.classes

/-- The classes of a tag are read as they were written. -/
theorem classes_opening (hnames : ∀ name ∈ names, IsClassName name) {more : List Attribute}
    (hmore : ∀ a ∈ more, a.name ≠ "class") (tag : String) :
    (Piece.opening tag (classes names :: more)).classes = names := by
  have hothers : more.filter (fun a => a.name = "class") = [] := by simpa using hmore
  have hfirst : (classes names :: more).filter (fun a => a.name = "class") = [classes names] := by
    rw [List.filter_cons_of_pos (by rfl), hothers]
  rw [Piece.classes, hfirst, List.flatMap_singleton, runsOutside_classes hnames, List.map_map]
  simp

/-- Of the piece no alignment can be read, and its element may have its classes. -/
structure Piece.IsNeutral (p : Piece) : Prop where
  allowed : p.IsAllowed
  unaligned : ∀ a, alignClass a ∉ p.classes

theorem isNeutral_closing (tag : String) : (Piece.closing tag).IsNeutral :=
  ⟨trivial, fun _ => List.not_mem_nil⟩

theorem isNeutral_line (t : Text) : (Piece.line t).IsNeutral :=
  ⟨trivial, fun _ => List.not_mem_nil⟩

theorem isNeutral_lineEnd : Piece.lineEnd.IsNeutral :=
  ⟨trivial, fun _ => List.not_mem_nil⟩

/-- The elements of dividers, numbers and lines, with their classes. -/
def neutralElements : List (String × List String) :=
  [("hr", ["divider", "divider-compact"]), ("hr", ["divider", "divider-regular"]),
   ("hr", ["divider", "divider-frame"]), ("span", ["verse-number"]), ("div", ["couplet"]),
   ("p", ["hemistich"]), ("p", ["line"])]

theorem isNeutral_opening (h : (tag, names) ∈ neutralElements) :
    (Piece.opening tag [classes names]).IsNeutral := by
  have hall : ∀ e ∈ neutralElements, (∀ name ∈ e.2, IsClassName name) ∧
      (∀ name ∈ e.2, ∃ allowed ∈ ownClasses? e.1, name ∈ allowed) ∧
      ∀ a ∈ [Alignment.right, .center, .indent, .left], alignClass a ∉ e.2 := by
    decide +kernel
  obtain ⟨hnames, hallowed, hunaligned⟩ := hall _ h
  have hread := classes_opening hnames (List.forall_mem_nil _) tag
  refine ⟨?_, fun a => ?_⟩
  · rw [Piece.IsAllowed, hread]
    exact hallowed
  · rw [hread]
    exact hunaligned a (by cases a <;> decide)

theorem isNeutral_of_mem_ruleMarkup (h : ("hr", names) ∈ neutralElements) :
    ∀ p ∈ ruleMarkup names, p.IsNeutral := by
  simp [ruleMarkup, isNeutral_opening h, isNeutral_lineEnd]

theorem isNeutral_of_mem_lineMarkup {name : String} (h : ("p", [name]) ∈ neutralElements)
    (line : Text) : ∀ p ∈ lineMarkup name line, p.IsNeutral := by
  simp [lineMarkup, isNeutral_opening h, isNeutral_line, isNeutral_closing, isNeutral_lineEnd]

theorem isNeutral_of_mem_badgeMarkup (number : Nat) : ∀ p ∈ badgeMarkup number, p.IsNeutral := by
  have htag : ("span", ["verse-number"]) ∈ neutralElements := by decide
  simp [badgeMarkup, isNeutral_opening htag, isNeutral_line, isNeutral_closing, isNeutral_lineEnd]

theorem isNeutral_of_mem_linesMarkup (h : p ∈ linesMarkup b) : p.IsNeutral := by
  have hlines : ∀ name, ("p", [name]) ∈ neutralElements →
      ∀ p ∈ b.lines.flatMap (lineMarkup name), p.IsNeutral := by
    intro name hname p hp
    obtain ⟨line, -, hp⟩ := List.mem_flatMap.1 hp
    exact isNeutral_of_mem_lineMarkup hname line p hp
  unfold linesMarkup at h
  split at h
  · have htag : ("div", ["couplet"]) ∈ neutralElements := by decide
    simp only [List.mem_append, List.mem_cons, List.not_mem_nil, or_false] at h
    obtain ((rfl | rfl) | h) | rfl | rfl := h
    · exact isNeutral_opening htag
    · exact isNeutral_lineEnd
    · exact hlines "hemistich" (by decide) p h
    · exact isNeutral_closing "div"
    · exact isNeutral_lineEnd
  · exact hlines "line" (by decide) p h

/-- The tag that opens a block. -/
def blockOpening (b : Content) : Piece :=
  .opening (blockTag b)
    (Html.classes (blockClasses b) :: (b.verse.map fun v => ⟨"id", verseId v⟩).toList)

theorem blockOpening_mem (b : Content) : blockOpening b ∈ contentMarkup b := by
  simp [contentMarkup, blockOpening]

/-- Only the tag that opens a block tells how the block is aligned. -/
theorem eq_or_isNeutral_of_mem (h : p ∈ contentMarkup b) : p = blockOpening b ∨ p.IsNeutral := by
  simp only [contentMarkup, List.mem_append, List.mem_cons, List.not_mem_nil, or_false] at h
  obtain (((h | rfl | rfl) | h) | h) | rfl | rfl := h
  · split at h
    · exact .inr (isNeutral_of_mem_ruleMarkup (by decide) p h)
    · cases h
  · exact .inl rfl
  · exact .inr isNeutral_lineEnd
  · cases hbadge : b.badge with
    | none => simp [hbadge] at h
    | some number =>
        rw [hbadge] at h
        exact .inr (isNeutral_of_mem_badgeMarkup number p h)
  · exact .inr (isNeutral_of_mem_linesMarkup h)
  · exact .inr (isNeutral_closing _)
  · exact .inr isNeutral_lineEnd

/-- The classes of a block are read from its tag as they were written. -/
theorem classes_blockOpening (b : Content) : (blockOpening b).classes = blockClasses b := by
  have hall : ∀ name ∈ blockClassNames, IsClassName name := by decide +kernel
  refine classes_opening (fun name hname => hall name (mem_blockClassNames hname)) (fun a ha => ?_) _
  obtain ⟨v, -, rfl⟩ := Option.map_eq_some_iff.1 (Option.mem_toList.1 ha)
  exact of_decide_eq_false rfl

theorem alignClass_inj {a a' : Alignment} (h : alignClass a = alignClass a') : a = a' := by
  revert h
  cases a <;> cases a' <;> decide

/-- The HTML names the style of the section that a block shows. -/
theorem namedAs_iff (a : Alignment) (b : Content) : NamedAs a b ↔ a = b.style := by
  have hmem : NamedAs a b ↔ alignClass a ∈ blockClasses b := by
    rw [← classes_blockOpening]
    refine ⟨fun ⟨p, hp, ha⟩ => ?_, fun ha => ⟨_, blockOpening_mem b, ha⟩⟩
    obtain rfl | hneutral := eq_or_isNeutral_of_mem hp
    · exact ha
    · exact absurd ha (hneutral.unaligned a)
  have hothers : ∀ name ∈ ["verse-header", "verse", "couplet", "highlight"],
      alignClass a ≠ name := by
    cases a <;> decide
  have hspacing : alignClass a ≠ b.spacing.className := by
    cases a <;> cases b.spacing <;> decide
  rw [hmem]
  refine ⟨fun h => ?_, fun h => by simp [blockClasses, h]⟩
  simp only [blockClasses, List.mem_append, List.mem_cons, List.not_mem_nil, or_false] at h
  obtain ((h | h | h) | h) | h := h
  · exact absurd h (by split <;> exact hothers _ (by decide))
  · exact alignClass_inj h
  · exact absurd h hspacing
  · split at h
    · exact absurd (List.mem_singleton.1 h) (hothers _ (by decide))
    · cases h
  · split at h
    · exact absurd (List.mem_singleton.1 h) (hothers _ (by decide))
    · cases h

/-- The element of a block may have all its classes, unless it is that of a heading in another style
than the centred one. -/
theorem isAllowed_contentMarkup_iff {config : RenderConfig} {s : Section}
    (h : Layout.Shows config b s) :
    (∀ p ∈ contentMarkup b, p.IsAllowed) ↔ (b.isHeader = true → b.style = .center) := by
  refine ⟨fun hallowed hheader => ?_, fun hcentred p hp => ?_⟩
  · have htag := hallowed _ (blockOpening_mem b)
    have hstyle : alignClass b.style ∈ (blockOpening b).classes := by
      simp [classes_blockOpening, blockClasses]
    obtain ⟨allowed, hown, hmem⟩ := htag _ hstyle
    rw [blockTag, if_pos hheader] at hown
    cases hown
    revert hmem
    cases b.style <;> decide
  · obtain rfl | hneutral := eq_or_isNeutral_of_mem hp
    · obtain ⟨allowed, hown, hnames⟩ := mem_ownClasses_block (isOfText_of_shows h hcentred)
      intro name hname
      rw [← blockOpening, classes_blockOpening] at hname
      exact ⟨allowed, hown, hnames name hname⟩
    · exact hneutral.allowed

/-! ## Documents -/

/-- The renderers agree on a block of text: the class of an alignment is written for it exactly when
its rows are padded by that alignment, a heading is centred by both, and all classes in its markup
are on elements that may have them. -/
structure Agree (b : Content) : Prop where
  aligned : ∀ a, NamedAs a b ↔ Page.PaddedAs a b
  centred : b.isHeader = true → NamedAs .center b ∧ Page.PaddedAs .center b
  allowed : ∀ p ∈ contentMarkup b, p.IsAllowed

theorem agree_iff {config : RenderConfig} {s : Section} (h : Layout.Shows config b s)
    (hlines : b.lines ≠ []) : Agree b ↔ (b.isHeader = true → b.style = .center) := by
  refine ⟨fun hagree hheader => ?_, fun hcentred => ?_⟩
  · exact ((namedAs_iff .center b).1 (hagree.centred hheader).1).symm
  · have hplacement : b.placement = b.style := by
      rw [Content.placement]
      split
      · next hheader => exact (hcentred hheader).symm
      · rfl
    have haligned : ∀ a, NamedAs a b ↔ Page.PaddedAs a b := fun a => by
      rw [namedAs_iff, Page.paddedAs_iff hlines, hplacement]
    have hcenter : b.isHeader = true → NamedAs .center b := fun hheader =>
      (namedAs_iff .center b).2 (hcentred hheader).symm
    exact ⟨haligned, fun hheader => ⟨hcenter hheader, (haligned .center).1 (hcenter hheader)⟩,
      (isAllowed_contentMarkup_iff h).2 hcentred⟩

/-- In every document the rows of a block are padded by one alignment, that of its section or the
centred one for a heading, and the HTML names that of the section for headings too. Its classes may
stay, and the renderers agree on it, exactly when it is no heading or one in the centred style. The
classes of dividers may stay in any case. -/
theorem renderers_agree_iff (sections : List Section) (config : RenderConfig) :
    (∀ b, .content b ∈ Layout.blocks config sections →
      (∀ a, Page.PaddedAs a b ↔ a = if b.isHeader then .center else b.style) ∧
      (∀ a, NamedAs a b ↔ a = b.style) ∧
      ((∀ p ∈ contentMarkup b, p.IsAllowed) ↔ (b.isHeader = true → b.style = .center)) ∧
      (Agree b ↔ (b.isHeader = true → b.style = .center))) ∧
    ∀ origin margin, ∀ p ∈ blockMarkup (.divider origin margin), p.IsAllowed := by
  refine ⟨fun b hb => ?_, fun origin margin p hp => ?_⟩
  · obtain ⟨s, -, hshows⟩ := Layout.exists_of_mem_blocksFrom hb
    have hlines := (Layout.of_mem_blocksFrom hb).2.1
    exact ⟨fun a => Page.paddedAs_iff hlines, fun a => namedAs_iff a b,
      isAllowed_contentMarkup_iff hshows, agree_iff hshows hlines⟩
  · have helement : ("hr", ["divider", margin.className]) ∈ neutralElements := by
      cases margin <;> decide
    exact (isNeutral_of_mem_ruleMarkup helement p hp).allowed

/-- On a verse aligned left the renderers agree, but not on a heading with the same style: its rows
are centred, and the HTML says that it is aligned left. -/
theorem renderers_agree_iff_of_left :
    let heading : Content := ⟨0, ["T".toList], .left, true, .header, false, .lines, none, none, false⟩
    let verse : Content := ⟨2, ["a".toList], .left, false, .afterBreak, true, .lines, some 0, none,
      false⟩
    let blocks := Layout.blocks .plain
      [⟨"T".toList, .left, false, true⟩, .divider, .verse "a".toList .left]
    (.content heading ∈ blocks ∧ .content verse ∈ blocks) ∧
      Agree verse ∧ Page.PaddedAs .left verse ∧
      ¬Agree heading ∧ Page.PaddedAs .center heading ∧ NamedAs .left heading := by
  intro heading verse blocks
  have hheading : .content heading ∈ blocks := by decide +kernel
  have hverse : .content verse ∈ blocks := by decide +kernel
  obtain ⟨hpadded, hnamed, -, hagree⟩ := (renderers_agree_iff _ _).1 heading hheading
  obtain ⟨hverses, -, -, hboth⟩ := (renderers_agree_iff _ _).1 verse hverse
  refine ⟨⟨hheading, hverse⟩, hboth.2 (fun h => absurd h (by decide)), (hverses .left).2 rfl, ?_,
    (hpadded .center).2 rfl, (hnamed .left).2 rfl⟩
  exact fun h => absurd (hagree.1 h rfl) (by decide)

/-- The renderers agree on all blocks of a text, since it centres its headings. -/
theorem agree_of_mem_blocks_parse {t : Text} {config : RenderConfig} {b : Content}
    (h : .content b ∈ Layout.blocks config (Section.parse t)) : Agree b := by
  obtain ⟨s, -, hshows⟩ := Layout.exists_of_mem_blocksFrom h
  refine (agree_iff hshows (Layout.of_mem_blocksFrom h).2.1).2 fun hheader => ?_
  exact ((isOfText_of_mem_blocks h).heading hheader).1

/-- They do not agree on a heading with another style. -/
theorem left_heading_not_agreed :
    ¬∀ (sections : List Section) (config : RenderConfig) (b : Content),
      .content b ∈ Layout.blocks config sections → Agree b := by
  intro h
  let heading : Content := ⟨0, ["T".toList], .left, true, .header, false, .lines, none, none, false⟩
  have hagree := h [⟨"T".toList, .left, false, true⟩] .plain heading (by decide +kernel)
  exact absurd ((namedAs_iff _ _).1 (hagree.centred rfl).1) (by decide)

end Html

end MarkedVerse
