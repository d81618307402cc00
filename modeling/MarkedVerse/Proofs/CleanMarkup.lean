import Mathlib.Data.List.Nodup
import MarkedVerse.Proofs.CleanTags
import MarkedVerse.Proofs.PageWidth
import MarkedVerse.Proofs.SectionForm

/-!
# The markup of a document is clean

Cleaning keeps everything that is written for a document (`sanitize_render`): its markup is balanced
(`balanced_markup`), with no class that may not stay where it stands, so all of it is read into the
tree and written again. Only the lines of verse are written in another way, with fewer references.
-/

namespace MarkedVerse

/-! ## The blocks of a text -/

namespace Section

/-- The headings of a text are centred. -/
theorem style_of_mem_parse {t : Text} {s : Section} (hs : s ∈ parse t)
    (hheader : s.isHeader = true) : s.style = .center := by
  by_cases h : Segment.markers t = []
  · obtain ⟨paragraph, -, rfl⟩ := (mem_parse_iff h).1 hs
    cases hheader
  · rw [parse_eq_sectionsFrom h] at hs
    obtain rfl | ⟨role, t, -, rfl⟩ := eq_divider_or_block hs
    · cases hheader
    · cases role with
      | aligned style => cases hheader
      | heading => rfl

end Section

namespace Html

/-- A block of a text: its lines are not empty, and a heading is centred and never highlighted. -/
structure IsOfText (b : Content) : Prop where
  lines : ∀ line ∈ b.lines, line ≠ []
  heading : b.isHeader = true →
    b.style = .center ∧ b.spacing = .header ∧ b.highlighted = false

/-- A block of any sections is like one of a text, unless it is a heading that is not centred. -/
theorem isOfText_of_shows {config : RenderConfig} {b : Content} {s : Section}
    (h : Layout.Shows config b s) (hcentred : b.isHeader = true → b.style = .center) :
    IsOfText b := by
  obtain ⟨origin, next, after, before, rfl⟩ := h
  refine ⟨fun line hline => (Text.isVerseLine_of_mem hline).nonempty, fun hheader => ?_⟩
  have hverse : s.isVerse = false := by
    have hsection : s.isHeader = true := hheader
    simp [Section.isVerse, hsection]
  refine ⟨hcentred hheader, ?_, by simp [Layout.contentOf, hverse]⟩
  simp only [Layout.contentOf] at hheader
  simp [Layout.contentOf, Spacing.classify, hheader]

theorem isOfText_of_mem_blocks {t : Text} {config : RenderConfig} {b : Content}
    (h : .content b ∈ Layout.blocks config (Section.parse t)) : IsOfText b := by
  obtain ⟨s, hs, hshows⟩ := Layout.exists_of_mem_blocksFrom h
  refine isOfText_of_shows hshows fun hheader => ?_
  obtain ⟨origin, next, after, before, rfl⟩ := hshows
  exact Section.style_of_mem_parse hs hheader

/-! ## Its markup -/

variable {pieces later : List Piece} {b : Content}

/-- Balanced markup behind balanced markup is balanced. -/
theorem Balanced.append (h : Balanced pieces) (hlater : Balanced later) :
    Balanced (pieces ++ later) := by
  induction h with
  | nil => exact hlater
  | rule tag _ ih => exact .rule tag ih
  | line hname tag hne _ ih => exact .line hname tag hne ih
  | @block name attributes inside pieces hname tag hinside _ _ ih =>
      have hall := Balanced.block hname tag hinside ih
      simpa using hall

theorem Balanced.flatMap {α : Type} {xs : List α} {f : α → List Piece}
    (h : ∀ x ∈ xs, Balanced (f x)) : Balanced (xs.flatMap f) := by
  induction xs with
  | nil => exact .nil
  | cons x xs ih =>
      rw [List.flatMap_cons]
      exact (h x List.mem_cons_self).append (ih fun y hy => h y (List.mem_cons_of_mem _ hy))

/-- A rule with classes that it may have. -/
theorem balanced_ruleMarkup {names : List String}
    (hnames : ∀ name ∈ names,
      name ∈ ["divider", "divider-compact", "divider-regular", "divider-frame"]) :
    Balanced (ruleMarkup names) :=
  .rule (isCleanTag_of_classes (by decide) rfl hnames) .nil

/-- A line with the class that it has in a couplet or outside. -/
theorem balanced_lineMarkup {name : String} (hname : name ∈ ["line", "hemistich"]) {line : Text}
    (hne : line ≠ []) : Balanced (lineMarkup name line) :=
  .line (by decide) (isCleanTag_of_classes (by decide) rfl (by simpa using hname)) hne .nil

theorem balanced_badgeMarkup (number : Nat) : Balanced (badgeMarkup number) :=
  .line (by decide) (isCleanTag_of_classes (by decide) rfl (by decide)) Nat.toDigits_ne_nil .nil

theorem balanced_linesMarkup (hb : IsOfText b) : Balanced (linesMarkup b) := by
  have hlines : ∀ name ∈ ["line", "hemistich"], Balanced (b.lines.flatMap (lineMarkup name)) :=
    fun name hname => .flatMap fun line hline => balanced_lineMarkup hname (hb.lines line hline)
  unfold linesMarkup
  split
  · have htag : IsCleanTag "div" [classes ["couplet"]] :=
      isCleanTag_of_classes (by decide) rfl (by decide)
    simpa using Balanced.block (by decide) htag (hlines "hemistich" (by decide)) .nil
  · exact hlines "line" (by decide)

/-- The classes of a block may stay on its element. A heading has fewer to choose from. -/
theorem mem_ownClasses_block (hb : IsOfText b) :
    ∃ allowed, ownClasses? (blockTag b) = some allowed ∧
      ∀ name ∈ blockClasses b, name ∈ allowed := by
  unfold blockTag blockClasses
  cases hheader : b.isHeader with
  | true =>
      obtain ⟨hstyle, hspacing, hhighlighted⟩ := hb.heading hheader
      rw [hstyle, hspacing, hhighlighted]
      exact ⟨_, rfl, by cases b.shape <;> decide⟩
  | false =>
      refine ⟨_, rfl, ?_⟩
      cases b.style <;> cases b.spacing <;> cases b.shape <;> cases b.highlighted <;> decide

/-- A property of all digits, and of what stands in front of the number, is one of the characters of
an identifier. -/
theorem forall_mem_verseId {p : Char → Prop} (hfixed : ∀ c ∈ "verse-".toList, p c)
    (hdigit : ∀ c : Char, c.isDigit = true → p c) (verse : Nat) : ∀ c ∈ verseId verse, p c := by
  intro c hc
  obtain hc | hc := List.mem_append.1 hc
  · exact hfixed c hc
  · exact hdigit c (Text.isDigit_of_mem_decimal hc)

/-- The identifier of a verse means nothing else in a tag. -/
theorem isPlain_verseId (verse : Nat) : (⟨"id", verseId verse⟩ : Attribute).IsPlain := by
  have hword : IsWord "id".toList := by decide
  refine ⟨hword, forall_mem_verseId (List.all_eq_true.1 (by decide)) (fun c hdigit => ?_) verse⟩
  simp [isPlain, Text.ne_of_isDigit hdigit]

/-- The tag of a block stays as it is. -/
theorem isCleanTag_block (hb : IsOfText b) :
    IsCleanTag (blockTag b)
      (classes (blockClasses b) :: (b.verse.map fun v => ⟨"id", verseId v⟩).toList) := by
  obtain ⟨allowed, hallowed, hnames⟩ := mem_ownClasses_block hb
  have helement : blockTag b ∈ documentNames := by
    unfold blockTag
    split <;> decide
  refine isCleanTag_classes helement hallowed hnames ?_ ?_
  · intro a ha
    obtain ⟨v, -, rfl⟩ := Option.map_eq_some_iff.1 (Option.mem_toList.1 ha)
    exact ⟨isPlain_verseId v, by simp⟩
  · cases b.verse with
    | none => exact List.nodup_nil
    | some v => exact List.nodup_singleton _

theorem balanced_contentMarkup (hb : IsOfText b) : Balanced (contentMarkup b) := by
  have hframe : Balanced (if b.framed then ruleMarkup ["divider", "divider-frame"] else []) := by
    split
    · exact balanced_ruleMarkup (by decide)
    · exact .nil
  have hbadge : Balanced ((b.badge.map badgeMarkup).getD []) := by
    cases b.badge with
    | none => exact .nil
    | some number => exact balanced_badgeMarkup number
  have htag : blockTag b ∈ Builder.containerNames := by
    unfold blockTag
    split <;> decide
  have hblock := Balanced.block htag (isCleanTag_block hb) (hbadge.append (balanced_linesMarkup hb))
    .nil
  simpa [contentMarkup] using hframe.append hblock

/-- The markup of a text is balanced. -/
theorem balanced_markup (t : Text) (config : RenderConfig) :
    Balanced (markup (Layout.blocks config (Section.parse t))) := by
  have hblocks : Balanced ((Layout.blocks config (Section.parse t)).flatMap blockMarkup) := by
    refine .flatMap fun block hblock => ?_
    cases block with
    | divider origin margin =>
        cases margin <;> exact balanced_ruleMarkup (by decide)
    | content b => exact balanced_contentMarkup (isOfText_of_mem_blocks hblock)
  have htag : IsCleanTag "div" [classes ["verse-document"], ⟨"dir", "rtl".toList⟩] := by
    refine isCleanTag_classes (by decide) rfl (by decide) ?_ (by decide)
    intro a ha
    cases List.mem_singleton.1 ha
    have hword : IsWord "dir".toList := by decide
    exact ⟨⟨hword, List.all_eq_true.1 (by decide)⟩, by decide⟩
  simpa [markup] using Balanced.block (by decide) htag hblocks .nil

/-! ## Cleaning -/

/-- Without carriage returns the line ends stay as they are. -/
theorem joinLineEnds_eq_self {t : Text} (h : '\r' ∉ t) : normalize.joinLineEnds t = t := by
  fun_induction normalize.joinLineEnds t with
  | case1 => rfl
  | case2 => exact absurd List.mem_cons_self h
  | case3 => exact absurd List.mem_cons_self h
  | case4 c t hpair hreturn ih => rw [ih (List.not_mem_of_not_mem_cons h)]

/-- Nothing in the names and the values of a clean tag is a line end. -/
theorem IsCleanTag.return_not_mem {name : String} {attributes : List Attribute}
    (tag : IsCleanTag name attributes) :
    '\r' ∉ (Piece.opening name attributes).print guard ∧
      '\r' ∉ (Piece.closing name).print guard := by
  have hword : ∀ t : Text, IsWord t → '\r' ∉ t := fun t ht hc => absurd (ht.2 _ hc) (by decide)
  have hattributes : '\r' ∉ attributes.flatMap Piece.printAttribute := by
    intro hc
    obtain ⟨a, ha, hc⟩ := List.mem_flatMap.1 hc
    have hname := hword _ (tag.plain a ha).name
    have hvalue : '\r' ∉ a.value := fun hc => absurd ((tag.plain a ha).value _ hc) (by decide)
    simp [Piece.printAttribute, hname, hvalue] at hc
  have hname := hword _ tag.word
  exact ⟨by simp [Piece.print, hname, hattributes], by simp [Piece.print, hname]⟩

/-- No carriage return stands in balanced markup. -/
theorem Balanced.return_not_mem (h : Balanced pieces) : '\r' ∉ printed pieces := by
  have hguard : ∀ t : Text, '\r' ∉ guard t := fun t hc => of_mem_guard hc (by decide)
  have hend : '\r' ∉ Piece.lineEnd.print guard := by decide
  unfold printed
  induction h with
  | nil => exact List.not_mem_nil
  | rule tag _ ih =>
      simp only [List.flatMap_cons, List.mem_append, not_or]
      exact ⟨tag.return_not_mem.1, hend, ih⟩
  | line hname tag hne _ ih =>
      simp only [List.flatMap_cons, List.mem_append, not_or]
      exact ⟨tag.return_not_mem.1, hguard _, tag.return_not_mem.2, hend, ih⟩
  | block hname tag hinside _ ihInside ih =>
      simp only [List.flatMap_cons, List.flatMap_append, List.mem_append, not_or]
      exact ⟨tag.return_not_mem.1, hend, ihInside, tag.return_not_mem.2, hend, ih⟩

/-- Balanced markup is read as it is printed, with nothing to put right before. -/
theorem Balanced.normalize_printed (h : Balanced pieces) :
    normalize (printed pieces) = printed pieces := by
  have hfirst := h.endsRun endsRun_nil
  rw [List.append_nil] at hfirst
  rw [normalize, joinLineEnds_eq_self h.return_not_mem]
  -- No mark stands at the front, since what stands there ends a run of text.
  intro t ht
  rw [ht] at hfirst
  exact absurd (hfirst _ rfl) (by decide)

/-- Before the first token only the root is open. -/
theorem calm_start : Builder.Calm Builder.start 0 ⟨.html, "html", []⟩ [] where
  mode := rfl
  formatting := rfl
  fostering := rfl
  skipLineEnd := rfl
  plain := rfl
  stack := rfl
  current := rfl
  vocabulary := rfl
  opened := by rintro j hj; cases hj
  container := by decide

/-- Cleaning keeps balanced markup. -/
theorem Balanced.cleanTree_printed (h : Balanced pieces) :
    cleanTree (Tree.ofMarkup (printed pieces)) = pieces.map Piece.asRead := by
  obtain ⟨tree, ids, hread, hadds⟩ := h.reads calm_start
  have hcalm := calm_start.withTree hadds.extends_tree
  have htree : Tree.ofMarkup (printed pieces) = tree := by
    have hall := hread [] endsRun_nil
    rw [List.append_nil, hcalm.feedAll_nil] at hall
    rw [Tree.ofMarkup, h.normalize_printed, hall]
    rfl
  have hchildren : tree.children 0 = ids := by
    rw [Tree.children, hadds.children]
    simp [Builder.start, Tree.empty]
  rw [htree, cleanTree, hchildren]
  exact hadds.written tree (fun _ _ _ => rfl) _ (Nat.sub_le _ _)

/-- A piece that was read is written like the piece that was printed. -/
theorem Piece.print_asRead (p : Piece) :
    p.asRead.print escapeText = p.print fun line => escapeText (line.map keepChar) := by
  cases p <;> rfl

/-- Cleaning the HTML of a text leaves the same pieces of markup, with all their classes, identifiers
and directions, in the same order. Only the lines of verse, which were guarded, are written with
nothing escaped but what means something between tags, and without null characters. -/
theorem sanitize_render (t : Text) (config : RenderConfig) :
    sanitize (render (Section.parse t) config) =
      (markup (Layout.blocks config (Section.parse t))).flatMap
        (Piece.print fun line => escapeText (line.map keepChar)) := by
  rw [render, ← printed, sanitize, (balanced_markup t config).cleanTree_printed, List.flatMap_map]
  rw [funext Piece.print_asRead]

end Html

end MarkedVerse
