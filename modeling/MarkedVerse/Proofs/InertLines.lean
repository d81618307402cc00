import MarkedVerse.Proofs.Blocks
import MarkedVerse.Proofs.CleanMarkup
import MarkedVerse.Proofs.TagCuts

/-!
# Lines of verse are inert

Whatever the lines of a document say, they leave its markup alone (`lines_are_inert`): two documents
whose sections are alike and have as many lines are written with the same tags and identifiers, and
the lines stand in their elements as texts that are read back.
-/

namespace MarkedVerse.Html

/-! ## Markup around two lists of lines -/

/-- The text is this frame with the lines woven into it. -/
def IsWoven (frame : List Cut) (lines : List Text) (html : Text) : Prop :=
  ∃ cs, Weaves frame lines cs ∧ html = cs.flatMap Cut.print

/-- Two texts have the same frame, with these identifiers, each around its own lines. -/
def Woven (ids lines lines' : List Text) (html html' : Text) : Prop :=
  ∃ frame, frame.filterMap Cut.identifier? = ids ∧ IsWoven frame lines html ∧
    IsWoven frame lines' html'

variable {ids ids' lines lines' later later' : List Text} {html html' rest rest' : Text}

theorem Woven.nil : Woven [] [] [] [] [] :=
  ⟨[], rfl, ⟨[], .nil, rfl⟩, ⟨[], .nil, rfl⟩⟩

theorem Woven.append (h : Woven ids lines lines' html html')
    (hrest : Woven ids' later later' rest rest') :
    Woven (ids ++ ids') (lines ++ later) (lines' ++ later') (html ++ rest) (html' ++ rest') := by
  obtain ⟨frame, rfl, ⟨cs, hcs, rfl⟩, ⟨cs', hcs', rfl⟩⟩ := h
  obtain ⟨frame', rfl, ⟨ds, hds, rfl⟩, ⟨ds', hds', rfl⟩⟩ := hrest
  exact ⟨frame ++ frame', by simp, ⟨cs ++ ds, hcs.append hds, by simp⟩,
    ⟨cs' ++ ds', hcs'.append hds', by simp⟩⟩

/-- A tag that is none of a line's is the same in both texts. -/
theorem Woven.tag {c : Cut} (hc : c.Closed) (hline : c.isLine = false) :
    Woven c.identifier?.toList [] [] c.print c.print := by
  have hwoven : IsWoven [c] [] c.print := ⟨[c], .tag c hc hline .nil, by simp⟩
  refine ⟨[c], ?_, hwoven, hwoven⟩
  rw [List.filterMap_cons]
  cases c.identifier? <;> rfl

/-! ## The pieces of a document -/

/-- A character that can stand inside a tag. -/
def isTagChar (c : Char) : Bool :=
  c != '<' && c != '>'

/-- An attribute that is plain, with no bracket in its value. -/
structure Attribute.IsSafe (a : Attribute) : Prop where
  plain : a.IsPlain
  value : ∀ c ∈ a.value, isTagChar c = true

/-- A name that can stand among classes, with no bracket in it. -/
def IsSafeName (name : String) : Prop :=
  IsClassName name ∧ ∀ c ∈ name.toList, isTagChar c = true

instance (name : String) : Decidable (IsSafeName name) :=
  decidable_of_iff (IsClassName name ∧ name.toList.all isTagChar = true) (by simp [IsSafeName])

theorem isSafe_classes {names : List String} (h : ∀ name ∈ names, IsSafeName name) :
    (classes names).IsSafe :=
  ⟨isPlain_classes fun name hname => (h name hname).1,
    forall_mem_classes (by decide) fun name hname => (h name hname).2⟩

theorem isSafe_verseId (verse : Nat) : (⟨"id", verseId verse⟩ : Attribute).IsSafe := by
  refine ⟨isPlain_verseId verse,
    forall_mem_verseId (List.all_eq_true.1 (by decide)) (fun c hdigit => ?_) verse⟩
  simp [isTagChar, Text.ne_of_isDigit hdigit]

/-- A word has no bracket, and no slash. -/
theorem IsWord.not_mem {t : Text} (h : IsWord t) {c : Char} (hc : c.isLower = false) : c ∉ t := by
  intro hmem
  rw [h.2 c hmem] at hc
  cases hc

/-- Tags in front of lines begin with the letter of a paragraph. -/
theorem isLine_eq_false {c : Cut} (h : c.tag.head? ≠ some 'p') : c.isLine = false := by
  have htags : ∀ tag ∈ Cut.lineTags, tag.head? = some 'p' := by decide
  rw [Cut.isLine, ← Bool.not_eq_true, List.contains_iff_mem]
  exact fun hmem => h (htags _ hmem)

/-- No bracket is printed with an attribute. -/
theorem Attribute.IsSafe.not_mem {a : Attribute} (h : a.IsSafe) :
    '<' ∉ Piece.printAttribute a ∧ '>' ∉ Piece.printAttribute a := by
  have hname := h.plain.name
  have hopening : '<' ∉ a.value := fun hmem => absurd (h.value _ hmem) (by decide)
  have hclosing : '>' ∉ a.value := fun hmem => absurd (h.value _ hmem) (by decide)
  constructor
  · simp [Piece.printAttribute, hname.not_mem (c := '<') rfl, hopening]
  · simp [Piece.printAttribute, hname.not_mem (c := '>') rfl, hclosing]

/-- An opening tag as it is printed, with a piece behind it. -/
def Cut.opening (name : String) (attributes : List Attribute) (p : Piece) : Cut :=
  ⟨name.toList ++ attributes.flatMap Piece.printAttribute, p.print guard⟩

variable {name : String} {attributes : List Attribute} {p : Piece}

theorem closed_opening (hname : IsWord name.toList) (hsafe : ∀ a ∈ attributes, a.IsSafe)
    (hp : '<' ∉ p.print guard) : (Cut.opening name attributes p).Closed where
  opening := by
    simp only [Cut.opening, List.mem_append, List.mem_flatMap, not_or, not_exists, not_and]
    exact ⟨hname.not_mem rfl, fun a ha => (hsafe a ha).not_mem.1⟩
  closing := by
    simp only [Cut.opening, List.mem_append, List.mem_flatMap, not_or, not_exists, not_and]
    exact ⟨hname.not_mem rfl, fun a ha => (hsafe a ha).not_mem.2⟩
  behind := hp

/-- The identifier of a printed tag is that among its attributes. -/
theorem identifier?_opening (hname : IsWord name.toList) (hsafe : ∀ a ∈ attributes, a.IsSafe)
    (hnames : (attributes.map Attribute.name).Nodup) :
    (Cut.opening name attributes p).identifier? =
      (attributes.find? (·.name == "id")).map Attribute.value := by
  have hread := readTag_print hname (fun a ha => (hsafe a ha).plain) hnames []
  obtain ⟨first, word, hword⟩ := List.exists_cons_of_ne_nil hname.1
  have hslash : first ≠ '/' := by
    rintro rfl
    exact hname.not_mem (c := '/') rfl (by simp [hword])
  rw [← List.append_assoc] at hread
  rw [Cut.identifier?, Cut.opening, hread, if_neg (by simpa [hword] using hslash)]
  rfl

/-- An opening tag with what is printed behind it is the same in both texts. -/
theorem woven_opening (hname : IsWord name.toList) (hfirst : name.toList.head? ≠ some 'p')
    (hsafe : ∀ a ∈ attributes, a.IsSafe) (hnames : (attributes.map Attribute.name).Nodup)
    (hp : '<' ∉ p.print guard) :
    Woven ((attributes.find? (·.name == "id")).map Attribute.value).toList [] []
      (printed [.opening name attributes, p]) (printed [.opening name attributes, p]) := by
  have hprinted : printed [.opening name attributes, p] =
      (Cut.opening name attributes p).print := by
    simp [printed, Piece.print, Cut.print, Cut.opening]
  have hline : (Cut.opening name attributes p).isLine = false := by
    obtain ⟨first, word, hword⟩ := List.exists_cons_of_ne_nil hname.1
    exact isLine_eq_false (by simpa [Cut.opening, hword] using hfirst)
  rw [hprinted, ← identifier?_opening hname hsafe hnames]
  exact .tag (closed_opening hname hsafe hp) hline

/-- A closing tag with the line end behind it is the same in both texts. -/
theorem woven_closing (hname : IsWord name.toList) :
    Woven [] [] [] (printed [.closing name, .lineEnd]) (printed [.closing name, .lineEnd]) := by
  have hclosed : Cut.Closed ⟨'/' :: name.toList, ['\n']⟩ := by
    refine ⟨?_, ?_, by simp⟩
    · simpa using hname.not_mem (c := '<') rfl
    · simpa using hname.not_mem (c := '>') rfl
  have hprinted : printed [.closing name, .lineEnd] = Cut.print ⟨'/' :: name.toList, ['\n']⟩ := by
    simp [printed, Piece.print, Cut.print]
  rw [hprinted]
  exact .tag hclosed (isLine_eq_false (by simp))

/-- A line is printed behind its tag, and its element ends behind it. -/
theorem exists_printed_lineMarkup (hname : name ∈ ["line", "hemistich"]) :
    ∃ tag ∈ Cut.lineTags, ∀ line : Text, printed (lineMarkup name line) =
      [⟨tag, guard line⟩, ⟨['/', 'p'], ['\n']⟩].flatMap Cut.print := by
  simp only [List.mem_cons, List.not_mem_nil, or_false] at hname
  obtain rfl | rfl := hname
  · exact ⟨"p class=\"line\"".toList, by decide, fun line => by
      simp [printed, lineMarkup, Piece.print, Cut.print, Piece.printAttribute, classes, Text.join]⟩
  · exact ⟨"p class=\"hemistich\"".toList, by decide, fun line => by
      simp [printed, lineMarkup, Piece.print, Cut.print, Piece.printAttribute, classes, Text.join]⟩

/-- Each text has its own line in the element. -/
theorem woven_line (hname : name ∈ ["line", "hemistich"]) (line line' : Text) :
    Woven [] [line] [line'] (printed (lineMarkup name line)) (printed (lineMarkup name line')) := by
  obtain ⟨tag, htag, hprinted⟩ := exists_printed_lineMarkup hname
  have hwoven : ∀ line, IsWoven [⟨tag, []⟩, ⟨['/', 'p'], ['\n']⟩] [line]
      (printed (lineMarkup name line)) := fun line => ⟨_, .line htag line .nil, hprinted line⟩
  have hids : ∀ tag ∈ Cut.lineTags,
      List.filterMap Cut.identifier? [⟨tag, []⟩, ⟨['/', 'p'], ['\n']⟩] = [] := by decide
  exact ⟨_, hids tag htag, hwoven line, hwoven line'⟩

/-- As many lines in as many elements. -/
theorem woven_lines (hname : name ∈ ["line", "hemistich"]) (h : lines.length = lines'.length) :
    Woven [] lines lines' (printed (lines.flatMap (lineMarkup name)))
      (printed (lines'.flatMap (lineMarkup name))) := by
  induction lines generalizing lines' with
  | nil =>
      obtain rfl := List.length_eq_zero_iff.1 h.symm
      exact .nil
  | cons line lines ih =>
      cases lines' with
      | nil => cases h
      | cons line' lines' =>
          rw [List.flatMap_cons, List.flatMap_cons, printed_append, printed_append]
          exact (woven_line hname line line').append (ih (Nat.succ.inj h))

/-- A tag that has nothing but classes. -/
theorem woven_classes {names : List String} (hname : IsWord name.toList)
    (hfirst : name.toList.head? ≠ some 'p') (hnames : ∀ name ∈ names, IsSafeName name)
    (hp : '<' ∉ p.print guard) :
    Woven [] [] [] (printed [.opening name [classes names], p])
      (printed [.opening name [classes names], p]) := by
  have hsafe : ∀ a ∈ [classes names], a.IsSafe := by simpa using isSafe_classes hnames
  exact woven_opening hname hfirst hsafe (List.nodup_singleton _) hp

theorem woven_rule {names : List String} (hnames : ∀ name ∈ names, IsSafeName name) :
    Woven [] [] [] (printed (ruleMarkup names)) (printed (ruleMarkup names)) :=
  woven_classes (by decide) (by decide) hnames (by decide)

theorem woven_badge (number : Nat) :
    Woven [] [] [] (printed (badgeMarkup number)) (printed (badgeMarkup number)) := by
  have hword : IsWord "span".toList := by decide
  have hnames : ∀ name ∈ ["verse-number"], IsSafeName name := by decide
  have hnumber : '<' ∉ (Piece.line (Text.decimal number)).print guard :=
    fun hmem => of_mem_guard hmem (by decide)
  have hall := (woven_classes hword (by decide) hnames hnumber).append (woven_closing hword)
  rwa [← printed_append] at hall

/-- The lines of a block, where the shape of the block is the same. -/
theorem woven_linesMarkup (b : Content) (h : b.lines.length = lines.length) :
    Woven [] b.lines lines (printed (linesMarkup b)) (printed (linesMarkup { b with lines })) := by
  unfold linesMarkup
  cases b.shape with
  | lines => exact woven_lines (by decide) h
  | couplet =>
      have hword : IsWord "div".toList := by decide
      have hnames : ∀ name ∈ ["couplet"], IsSafeName name := by decide
      have hname : "hemistich" ∈ ["line", "hemistich"] := by decide
      have hopening := woven_classes (p := .lineEnd) hword (by decide) hnames (by decide)
      have hall := (hopening.append (woven_lines hname h)).append (woven_closing hword)
      simp only [List.nil_append, List.append_nil, ← printed_append] at hall
      exact hall

/-- The classes of a block are safe. -/
theorem isSafeName_of_mem_blockClasses {b : Content} (h : name ∈ blockClasses b) :
    IsSafeName name := by
  have hall : ∀ name ∈ blockClassNames, IsSafeName name := by decide +kernel
  exact hall name (mem_blockClassNames h)

/-- The tag of a block has the identifier of its verse. -/
theorem woven_blockOpening (b : Content) :
    let attributes := classes (blockClasses b) :: (b.verse.map fun v => ⟨"id", verseId v⟩).toList
    Woven (b.verse.map verseId).toList [] []
      (printed [.opening (blockTag b) attributes, .lineEnd])
      (printed [.opening (blockTag b) attributes, .lineEnd]) := by
  have hclasses := isSafe_classes fun name hname => isSafeName_of_mem_blockClasses (b := b) hname
  have htag : IsWord (blockTag b).toList ∧ (blockTag b).toList.head? ≠ some 'p' := by
    unfold blockTag
    split <;> decide
  cases b.verse with
  | none =>
      have hsafe : ∀ a ∈ [classes (blockClasses b)], a.IsSafe := by simpa using hclasses
      exact woven_opening htag.1 htag.2 hsafe (List.nodup_singleton _) (by decide)
  | some v =>
      have hsafe : ∀ a ∈ [classes (blockClasses b), ⟨"id", verseId v⟩], a.IsSafe := by
        simpa using ⟨hclasses, isSafe_verseId v⟩
      have hnames : ([classes (blockClasses b), ⟨"id", verseId v⟩].map Attribute.name).Nodup := by
        simp [classes]
      exact woven_opening htag.1 htag.2 hsafe hnames (by decide)

theorem woven_contentMarkup (b : Content) (h : b.lines.length = lines.length) :
    Woven (b.verse.map verseId).toList b.lines lines (printed (contentMarkup b))
      (printed (contentMarkup { b with lines })) := by
  have hframe : Woven [] [] [] (printed (if b.framed then ruleMarkup ["divider", "divider-frame"]
      else [])) (printed (if b.framed then ruleMarkup ["divider", "divider-frame"] else [])) := by
    split
    · exact woven_rule (by decide)
    · exact .nil
  have hbadge : Woven [] [] [] (printed ((b.badge.map badgeMarkup).getD []))
      (printed ((b.badge.map badgeMarkup).getD [])) := by
    cases b.badge with
    | none => exact .nil
    | some number => exact woven_badge number
  have htag : IsWord (blockTag b).toList := by
    unfold blockTag
    split <;> decide
  have hall := (((hframe.append (woven_blockOpening b)).append hbadge).append
    (woven_linesMarkup b h)).append (woven_closing htag)
  simp only [List.nil_append, List.append_nil, ← printed_append] at hall
  exact hall

/-- Blocks with as many lines that are otherwise alike. -/
theorem woven_blockMarkup {block block' : Block}
    (h : block.Alike (fun lines lines' => lines.length = lines'.length) block') :
    Woven ((Layout.verse? block).map verseId).toList block.lines block'.lines
      (printed (blockMarkup block)) (printed (blockMarkup block')) := by
  cases h with
  | divider origin margin => cases margin <;> exact woven_rule (by decide)
  | content b h => exact woven_contentMarkup b h

theorem woven_blocks {blocks blocks' : List Block}
    (h : List.Forall₂ (Block.Alike fun lines lines' => lines.length = lines'.length)
      blocks blocks') :
    Woven ((blocks.filterMap Layout.verse?).map verseId) (blocks.flatMap Block.lines)
      (blocks'.flatMap Block.lines) (printed (blocks.flatMap blockMarkup))
      (printed (blocks'.flatMap blockMarkup)) := by
  induction h with
  | nil => exact .nil
  | @cons block block' blocks blocks' hfirst _ ih =>
      have hids : ((block :: blocks).filterMap Layout.verse?).map verseId =
          ((Layout.verse? block).map verseId).toList ++
            (blocks.filterMap Layout.verse?).map verseId := by
        cases hverse : Layout.verse? block <;> simp [hverse]
      rw [hids, List.flatMap_cons, List.flatMap_cons, List.flatMap_cons, List.flatMap_cons,
        printed_append, printed_append]
      exact (woven_blockMarkup hfirst).append ih

theorem woven_markup {blocks blocks' : List Block}
    (h : List.Forall₂ (Block.Alike fun lines lines' => lines.length = lines'.length)
      blocks blocks') :
    Woven ((blocks.filterMap Layout.verse?).map verseId) (blocks.flatMap Block.lines)
      (blocks'.flatMap Block.lines) (printed (markup blocks)) (printed (markup blocks')) := by
  have hword : IsWord "div".toList := by decide
  have hclasses : (classes ["verse-document"]).IsSafe := isSafe_classes (by decide)
  have hdirection : (⟨"dir", "rtl".toList⟩ : Attribute).IsSafe := by
    have hname : IsWord "dir".toList := by decide
    exact ⟨⟨hname, List.all_eq_true.1 (by decide)⟩, List.all_eq_true.1 (by decide)⟩
  have hsafe : ∀ a ∈ [classes ["verse-document"], ⟨"dir", "rtl".toList⟩], a.IsSafe := by
    simpa using ⟨hclasses, hdirection⟩
  have hopening := woven_opening (p := .lineEnd) hword (by decide) hsafe (by decide) (by decide)
  have hall := (hopening.append (woven_blocks h)).append (woven_closing hword)
  simp only [List.append_nil, ← printed_append] at hall
  exact hall

/-! ## What is written for a document -/

/-- The lines stand in their elements, in order and each once: inert, so that nothing but the end of
the element can follow, and read back up to null characters. -/
structure ShowsLines (html : Text) (lines : List Text) : Prop where
  complete : (cuts html).flatMap Cut.print = html
  ends : ∀ (front behind : List Cut) (c : Cut), cuts html = front ++ c :: behind →
    c.isLine = true → behind.head? = some ⟨['/', 'p'], ['\n']⟩
  inert : ∀ t ∈ lineTexts html, IsInert t
  readBack : (lineTexts html).map Reference.decode = lines.map fun line => line.map keepChar

/-- Woven lines are shown. -/
theorem IsWoven.showsLines {frame : List Cut} (h : IsWoven frame lines html) :
    ShowsLines html lines := by
  obtain ⟨cs, hcs, rfl⟩ := h
  have hcuts := cuts_flatMap_print hcs.closed
  have hlines : lineTexts (cs.flatMap Cut.print) = lines.map guard := by
    rw [lineTexts, hcuts, hcs.map_behind_filter]
  refine ⟨by rw [hcuts], fun front behind c => ?_, ?_, ?_⟩
  · rw [hcuts]
    exact hcs.head?_eq_of_isLine
  · rw [hlines]
    intro t ht
    obtain ⟨line, -, rfl⟩ := List.mem_map.1 ht
    exact isInert_guard line
  · rw [hlines, List.map_map]
    exact List.map_congr_left fun line _ => Reference.decode_guard line

/-- Without its lines, a woven text is its frame. -/
theorem IsWoven.withoutLines_eq {frame : List Cut} (h : IsWoven frame lines html) :
    withoutLines html = frame := by
  obtain ⟨cs, hcs, rfl⟩ := h
  rw [withoutLines, cuts_flatMap_print hcs.closed, hcs.map_withoutLine]

/-- The identifiers of a woven text are those of its frame. -/
theorem IsWoven.identifiers_eq {frame : List Cut} (h : IsWoven frame lines html) :
    identifiers html = frame.filterMap Cut.identifier? := by
  obtain ⟨cs, hcs, rfl⟩ := h
  rw [identifiers, cuts_flatMap_print hcs.closed, hcs.filterMap_identifier?]

/-- Verses have different identifiers. -/
theorem verseId_inj {v w : Nat} : verseId v = verseId w ↔ v = w := by
  refine ⟨fun h => ?_, congrArg verseId⟩
  exact Text.decimal_inj.1 (List.append_cancel_left h)

/-- The elements of verses and the anchors have the numbers of the verses, each once. -/
theorem anchors_eq (sections : List Section) (config : RenderConfig) :
    anchors sections config =
      (List.range (Layout.verseCount sections)).map fun v => (v, verseId v) := by
  rw [anchors, ← Layout.filterMap_verse?_blocks config sections, List.map_filterMap]

/-- Two documents whose sections are alike and have as many lines are written with the same tags,
and with the same texts behind them except in the elements of lines. There every line of the
document stands once, in order, as an inert text that is read back. Elements and anchors have the
identifiers of all verses, in order and each once. -/
theorem lines_are_inert {sections sections' : List Section}
    (h : List.Forall₂ (Section.Alike fun lines lines' => lines.length = lines'.length)
      sections sections') (config : RenderConfig) :
    withoutLines (render sections config) = withoutLines (render sections' config) ∧
    ShowsLines (render sections config)
      ((sections.filter fun s => !s.isBreak).flatMap Section.lines) ∧
    identifiers (render sections config) =
      (List.range (Layout.verseCount sections)).map verseId ∧
    anchors sections config =
      (List.range (Layout.verseCount sections)).map (fun v => (v, verseId v)) ∧
    ((List.range (Layout.verseCount sections)).map verseId).Nodup := by
  have hblocks := Layout.alike_blocks (fun _ _ => id) h config
  obtain ⟨frame, hids, hwoven, hwoven'⟩ := woven_markup hblocks
  rw [Layout.filterMap_verse?_blocks] at hids
  rw [← Layout.flatMap_lines_blocks config sections]
  refine ⟨hwoven.withoutLines_eq.trans hwoven'.withoutLines_eq.symm, hwoven.showsLines,
    hwoven.identifiers_eq.trans hids, anchors_eq sections config, ?_⟩
  exact List.nodup_range.map fun _ _ => verseId_inj.1

/-- A heading and a couplet made of markup leave the tags that a plain heading and couplet leave. -/
theorem lines_are_inert_of_markup :
    let plain := [Section.header "title".toList, .divider, .verse "one\ntwo".toList .left]
    let marked := [Section.header "<b>&amp;".toList, .divider, .verse "'1'\n</p>".toList .left]
    List.Forall₂ (Section.Alike fun lines lines' => lines.length = lines'.length) marked plain ∧
    ∀ config, withoutLines (render marked config) = withoutLines (render plain config) ∧
      ShowsLines (render marked config) ["<b>&amp;".toList, "'1'".toList, "</p>".toList] := by
  intro plain marked
  have h : List.Forall₂ (Section.Alike fun lines lines' => lines.length = lines'.length)
      marked plain :=
    .cons ⟨rfl, rfl, rfl, by decide⟩ (.cons ⟨rfl, rfl, rfl, by decide⟩
      (.cons ⟨rfl, rfl, rfl, by decide⟩ .nil))
  have hlines : (marked.filter fun s => !s.isBreak).flatMap Section.lines =
      ["<b>&amp;".toList, "'1'".toList, "</p>".toList] := by decide
  refine ⟨h, fun config => ?_⟩
  obtain ⟨hframe, hshows, -⟩ := lines_are_inert h config
  exact ⟨hframe, hlines ▸ hshows⟩

end MarkedVerse.Html
