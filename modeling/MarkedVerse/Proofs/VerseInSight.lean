import MarkedVerse.Proofs.DrawnRows
import MarkedVerse.Proofs.Scrolling
import MarkedVerse.Proofs.ValidConfig
import MarkedVerse.Screen.Draw

/-!
# The verse in sight

Drawing moves the window over the page so that the first row of the current verse is in it
(`Page.rowOf_in_window`). The rows in the window are then drawn, but only as long as the number of
the row behind the window has 16 bits; further down the program ends (`Reader.drawDocument?_eq`).
Both together say where the verse is on the screen (`Reader.verse_in_sight`), and that a verse
behind very many rows is never on one.
-/

namespace MarkedVerse

/-! ## The row of a verse -/

namespace Page

variable {config : RenderConfig} {s : PageStyle} {before verse row : Nat} {blocks : List Block}

/-- The row of a verse on a page is the first row of the text of a block that shows the verse. -/
theorem exists_content_of_rowOf {sections : List Section}
    (h : (render sections config s).rowOf verse = some row) :
    ∃ b line, .content b ∈ Layout.blocks config sections ∧ b.verse = some verse ∧
      (textRows b s (gutter config s)).head? = some line ∧
      (render sections config s).rows[row]? = some line := by
  obtain ⟨front, b, behind, hblocks, hverse, rfl⟩ := getElem?_verseRows_iff.1 h
  obtain ⟨line, hline⟩ := exists_getElem?_textStart hblocks
  exact ⟨b, line, by simp [hblocks], hverse, hline⟩

end Page

/-- Rows are drawn below others unless the number of the row behind the area has more than 16 bits.
It does not matter that the number of the others is cut to 16 bits first. -/
theorem Screen.drawBelow?_eq {a : Area} {rows : List Row} (hwidth : a.width ≠ 0)
    (hheight : a.height ≠ 0) (hrows : rows ≠ []) (s : Screen) (scroll : Nat) :
    s.drawBelow? a (min scroll Reader.maxRows) rows =
      if scroll + a.height < UInt16.size then some (s.drawRows .left a (rows.drop scroll))
      else none := by
  have hdrawn : ¬(a.width = 0 ∨ a.height = 0 ∨ rows.isEmpty = true) := by
    simp [hwidth, hheight, hrows]
  rw [drawBelow?, if_neg hdrawn, Reader.maxRows]
  simp only [UInt16.size]
  by_cases hfits : scroll + a.height < 65536
  · have hscroll : min scroll 65535 = scroll := by omega
    rw [hscroll]
  · rw [if_neg hfits, if_neg (by omega)]

namespace Reader

open Screen (SameOutside drawRow drawRow? emptyRow)

variable {config : Config} {r : Reader} {v width height i : Nat}

/-! ## The rows of the document -/

/-- The area between the title and the state of the reader. -/
def documentArea (width height : Nat) : Area :=
  ⟨0, 1, width, height - 3⟩

/-- A cell of the left or the right edge of the document. -/
def edge : Cell :=
  ⟨['│'], .colored .darkGray⟩

/-- The column keeps the rows of its area. A configuration that can be used leaves it at least one
cell. -/
theorem column_documentArea (hvalid : r.config.Valid) (hwidth : 3 ≤ width) (height : Nat) :
    (r.column (documentArea width height)).y = 1 ∧
      (r.column (documentArea width height)).height = height - 3 ∧
      (r.column (documentArea width height)).width ≠ 0 := by
  refine ⟨rfl, rfl, ?_⟩
  have hreader := hvalid.width.1
  show min r.config.reader.width (width - 2) ≠ 0
  omega

theorem sameOutside_drawState (r : Reader) (s : Screen) (a : Area) :
    SameOutside a.y a.height s (r.drawState s a) := by
  unfold drawState
  split
  · exact Screen.sameOutside_paragraph s a _ _ _
  · exact (Screen.sameOutside_paragraph s { a with width := a.width - min 48 a.width } _ _ _).trans
      (Screen.sameOutside_paragraph _ { a with
        x := a.x + (a.width - min 48 a.width), width := min 48 a.width } _ _ _)

theorem sameOutside_drawMessage (r : Reader) (s : Screen) (a : Area) :
    SameOutside a.y a.height s (r.drawMessage s a) := by
  unfold drawMessage
  split
  · exact Screen.sameOutside_paragraph s a _ _ _
  · exact SameOutside.refl _ _ _

/-- What is drawn when the document is shown, part by part. -/
theorem draw?_eq (hmode : r.mode ≠ .help) (hheight : 4 ≤ height) :
    r.draw? width height =
      (r.drawDocument? (r.drawTitle (.blank width height) ⟨0, 0, width, 1⟩)
        (documentArea width height)).map fun drawn =>
          (drawn.1, drawn.1.drawMessage (drawn.1.drawState drawn.2 ⟨0, height - 2, width, 1⟩)
            ⟨0, height - 2 + 1, width, 1⟩) := by
  have htop : min 1 height = 1 := by omega
  have hbottom : min 2 (height - 1) = 2 := by omega
  have hmiddle : height - 1 - 2 = height - 3 := by omega
  have hone : min 1 2 = 1 := rfl
  simp only [draw?, htop, hbottom, hmiddle, hone, if_neg hmode, documentArea]
  cases r.drawDocument? (r.drawTitle (.blank width height) ⟨0, 0, width, 1⟩)
    ⟨0, 1, width, height - 3⟩ <;> rfl

/-- The document is drawn row by row from the window on, unless the number of the row behind the
window has more than 16 bits. -/
theorem drawDocument?_eq (hvalid : r.config.Valid) (hwidth : 3 ≤ width) (hheight : 4 ≤ height)
    (s : Screen) :
    let column := r.column (documentArea width height)
    let shown := r.page column.width column.height
    shown.2.rows ≠ [] →
      r.drawDocument? s (documentArea width height) =
        if shown.1.scroll + (height - 3) < UInt16.size then
          some (shown.1, (s.drawSides (documentArea width height) (.colored .darkGray)).drawRows
            .left column (shown.2.rows.drop shown.1.scroll))
        else none := by
  intro column shown hrows
  obtain ⟨-, -, hne⟩ := column_documentArea hvalid hwidth height
  have hheight' : column.height ≠ 0 := by
    show height - 3 ≠ 0
    omega
  have hfilled : shown.2.rows.isEmpty = false := by simpa using hrows
  have hdrawn (s : Screen) := Screen.drawBelow?_eq hne hheight' hrows s shown.1.scroll
  show Option.map (fun s => (shown.1, s)) (if shown.2.rows.isEmpty then _ else
    Screen.drawBelow? _ column (min shown.1.scroll maxRows) shown.2.rows) = _
  rw [hfilled, if_neg (by decide), hdrawn]
  exact apply_ite _ _ _ _

/-- A row between the title and the state of the reader is blank until the document is drawn. -/
theorem getElem?_drawTitle (r : Reader) (width : Nat) (hi : 1 ≤ i ∧ i < height) :
    (r.drawTitle (.blank width height) ⟨0, 0, width, 1⟩).rows[i]? =
      some (List.replicate width .blank) := by
  rw [drawTitle, Screen.sameOutside_paragraph _ ⟨0, 0, width, 1⟩ _ _ _ i (by simp only; omega)]
  simp [Screen.blank, hi.2]

/-- Each row of the screen between the title and the state of the reader shows the row of the page
that the window has there, when the number of the row behind the window has 16 bits. -/
theorem exists_draw?_eq (hvalid : r.config.Valid) (hmode : r.mode ≠ .help) (hwidth : 3 ≤ width)
    (hheight : 4 ≤ height) :
    let column := r.column (documentArea width height)
    let shown := r.page column.width column.height
    shown.2.rows ≠ [] → shown.1.scroll + (height - 3) < UInt16.size →
      ∃ drawn, r.draw? width height = some drawn ∧ drawn.1 = shown.1 ∧ ∀ k < height - 3,
        drawn.2.rows[1 + k]? = some (drawRow? .left column.x column.width
          shown.2.rows[shown.1.scroll + k]? (emptyRow width edge)) := by
  intro column shown hrows hfits
  obtain ⟨hy, hcolumn, -⟩ := column_documentArea hvalid hwidth height
  rw [draw?_eq hmode hheight, drawDocument?_eq hvalid hwidth hheight _ hrows, if_pos hfits]
  refine ⟨_, rfl, rfl, fun k hk => ?_⟩
  have hinside : (documentArea width height).y ≤ 1 + k ∧
      1 + k < (documentArea width height).y + (documentArea width height).height := by
    simp only [documentArea]
    omega
  have hblank := getElem?_drawTitle r width (by omega : 1 ≤ 1 + k ∧ 1 + k < height)
  have hsides : ((r.drawTitle (.blank width height) ⟨0, 0, width, 1⟩).drawSides
      (documentArea width height) (.colored .darkGray)).rows[1 + k]? =
        some (emptyRow width edge) :=
    Screen.getElem?_drawSides (a := documentArea width height) (by simp only [documentArea]; omega)
      rfl hinside hblank
  -- What is drawn below the document leaves its rows.
  dsimp only
  rw [sameOutside_drawMessage _ _ ⟨0, height - 2 + 1, width, 1⟩ (1 + k) (by simp only; omega),
    sameOutside_drawState _ _ ⟨0, height - 2, width, 1⟩ (1 + k) (by simp only; omega),
    Screen.getElem?_drawRows, if_pos (by omega), hsides, hy, Nat.add_sub_cancel_left,
    List.getElem?_drop]
  rfl

/-- The program ends when the number of the row behind the window has more than 16 bits. -/
theorem draw?_eq_none (hvalid : r.config.Valid) (hmode : r.mode ≠ .help) (hwidth : 3 ≤ width)
    (hheight : 4 ≤ height) :
    let column := r.column (documentArea width height)
    let shown := r.page column.width column.height
    shown.2.rows ≠ [] → UInt16.size ≤ shown.1.scroll + (height - 3) →
      r.draw? width height = none := by
  intro column shown hrows hlong
  rw [draw?_eq hmode hheight, drawDocument?_eq hvalid hwidth hheight _ hrows,
    if_neg (Nat.not_lt.2 hlong)]
  rfl

/-- The page that is drawn has a row for the current verse, the first one of its text, and drawing
moves the window so that this row is in it. -/
theorem exists_row_in_window (h : Reachable config r)
    (hverse : r.render.currentVerse = some v) (width : Nat) (hheight : 4 ≤ height) :
    let column := r.column (documentArea width height)
    let style := (PageStyle.ofConfig config.reader).fitTo column.width
    let shown := r.page column.width column.height
    ∃ b row line,
      (.content b ∈ Layout.blocks r.render r.document.sections ∧ b.verse = some v ∧
        (Page.textRows b style (Page.gutter r.render style)).head? = some line) ∧
      shown.2.rowOf v = some row ∧ shown.2.rows[row]? = some line ∧
      shown.1.scroll ≤ row ∧ row < shown.1.scroll + (height - 3) := by
  obtain rfl := h.config_eq
  intro column style shown
  obtain ⟨row, hrow⟩ : ∃ row, shown.2.rowOf v = some row :=
    Option.isSome_iff_exists.1 (Page.isSome_rowOf_iff.2 (h.onVerse v hverse))
  obtain ⟨b, line, hb, hnumber, htext, hline⟩ :
      ∃ b line, .content b ∈ Layout.blocks r.render r.document.sections ∧ b.verse = some v ∧
        (Page.textRows b style (Page.gutter r.render style)).head? = some line ∧
        shown.2.rows[row]? = some line := Page.exists_content_of_rowOf hrow
  have hlt : row < shown.2.rows.length := (List.getElem?_eq_some_iff.1 hline).1
  have hscroll : shown.1.scroll = scrollTo r.scroll (height - 3) shown.2 (some v) := by
    rw [← hverse]
    rfl
  refine ⟨b, row, line, ⟨hb, hnumber, htext⟩, hrow, hline, ?_⟩
  have hbind : (some v).bind shown.2.rowOf = some row := hrow
  have hwindow := Page.rowOf_in_window hbind hlt r.scroll (height - 3)
  rw [← hscroll] at hwindow
  have hone : max (height - 3) 1 = height - 3 := by omega
  rwa [hone] at hwindow

/-- A configuration that can be used is in force, and a document is shown at a verse on a screen of
at least three cells and four rows. The page has a row for the verse, the first one of its text, and
drawing moves the window so that this row is in it. When the number of the row behind the window has
16 bits, the row is drawn there. When it has more, the program ends. -/
theorem verse_in_sight (h : Reachable config r) (hvalid : config.Valid) (hmode : r.mode ≠ .help)
    (hverse : r.render.currentVerse = some v) (hwidth : 3 ≤ width) (hheight : 4 ≤ height) :
    let column := r.column (documentArea width height)
    let style := (PageStyle.ofConfig config.reader).fitTo column.width
    let shown := r.page column.width column.height
    let scroll := shown.1.scroll
    ∃ b row line,
      (.content b ∈ Layout.blocks r.render r.document.sections ∧ b.verse = some v ∧
        (Page.textRows b style (Page.gutter r.render style)).head? = some line) ∧
      shown.2.rowOf v = some row ∧ shown.2.rows[row]? = some line ∧
      (scroll ≤ row ∧ row < scroll + (height - 3)) ∧
      (scroll + (height - 3) < UInt16.size →
        ∃ drawn, r.draw? width height = some drawn ∧ drawn.1.scroll = scroll ∧
          drawn.2.rows[1 + (row - scroll)]? =
            some (drawRow .left column.x column.width line (emptyRow width edge))) ∧
      (UInt16.size ≤ scroll + (height - 3) → r.draw? width height = none) := by
  intro column style shown scroll
  obtain ⟨b, row, line, hblock, hrow, hline, hwindow⟩ :=
    exists_row_in_window h hverse width hheight
  have hfilled : shown.2.rows ≠ [] :=
    List.ne_nil_of_length_pos (Nat.zero_lt_of_lt (List.getElem?_eq_some_iff.1 hline).1)
  have husable : r.config.Valid := h.config_eq ▸ hvalid
  refine ⟨b, row, line, hblock, hrow, hline, hwindow, fun hfits => ?_,
    draw?_eq_none husable hmode hwidth hheight hfilled⟩
  obtain ⟨drawn, hdraw, hreader, hdrawn⟩ :=
    exists_draw?_eq husable hmode hwidth hheight hfilled hfits
  have hplace : scroll + (row - scroll) = row := Nat.add_sub_cancel' hwindow.1
  have hshown := hdrawn (row - scroll) (Nat.sub_lt_left_of_lt_add hwindow.1 hwindow.2)
  rw [show shown.1.scroll + (row - scroll) = row from hplace, hline] at hshown
  exact ⟨drawn, hdraw, congrArg Reader.scroll hreader, hshown⟩

/-- Two verses on a screen that has one row for the document: the second one is shown. -/
theorem verse_in_sight_of_two :
    let r := (((new .standard).setDocument ⟨"moon\n\nstars".toList⟩).nextVerse).nextVerse
    let column := r.column (documentArea 9 4)
    let page := (r.page column.width column.height).2
    (Reachable .standard r ∧ Config.standard.Valid ∧ r.mode ≠ .help ∧
        r.render.currentVerse = some 1 ∧ 3 ≤ 9 ∧ 4 ≤ 4) ∧
      ∃ row line drawn, page.rowOf 1 = some row ∧ page.rows[row]? = some line ∧
        r.draw? 9 4 = some drawn ∧
        drawn.2.rows[1]? =
          some (drawRow .left column.x column.width line (emptyRow 9 edge)) := by
  intro r column page
  have h : Reachable .standard r := (Reachable.new.shown _).next.next
  have hmode : r.mode ≠ .help := by decide +kernel
  have hverse : r.render.currentVerse = some 1 := by decide +kernel
  have hscroll : (r.page column.width column.height).1.scroll + (4 - 3) < UInt16.size := by
    decide +kernel
  obtain ⟨b, row, line, -, hrow, hline, ⟨-, hlt⟩, hfits, -⟩ :=
    verse_in_sight h Config.valid_standard hmode hverse (by decide : 3 ≤ 9) (by decide : 4 ≤ 4)
  obtain ⟨drawn, hdraw, -, hdrawn⟩ := hfits hscroll
  have hfirst : row - (r.page column.width column.height).1.scroll = 0 :=
    Nat.sub_eq_zero_of_le (Nat.le_of_lt_succ hlt)
  rw [show row - _ = 0 from hfirst] at hdrawn
  exact ⟨⟨h, Config.valid_standard, hmode, hverse, by decide, by decide⟩,
    row, line, drawn, hrow, hline, hdraw, hdrawn⟩

end Reader

/-! ## A verse far down -/

/-- A text with so many breaks in front of it. -/
def Marker.breaksBefore (n : Nat) (t : Text) : Text :=
  (List.replicate n Marker.plainBreak.source).flatten ++ t

namespace Section

variable {n : Nat} {t : Text}

theorem lex_breaksBefore (n : Nat) (t : Text) :
    Segment.lex (Marker.breaksBefore n t) =
      List.replicate n (.marker .plainBreak) ++ Segment.lex t := by
  have hbreak : Marker.plainBreak.WellFormed := trivial
  induction n with
  | zero => rfl
  | succ n ih =>
      rw [Marker.breaksBefore, List.replicate_succ, List.flatten_cons, List.append_assoc,
        Segment.lex_source_append hbreak, ← Marker.breaksBefore, ih]
      rfl

/-- Every break leaves a divider. -/
theorem parse_breaksBefore (hn : 0 < n) (t : Text) :
    parse (Marker.breaksBefore n t) =
      List.replicate n divider ++ sectionsFrom (.aligned .right) (Segment.lex t) := by
  have hdividers (segments : List Segment) (n : Nat) :
      sectionsFrom (.aligned .right) (List.replicate n (.marker .plainBreak) ++ segments) =
        List.replicate n divider ++ sectionsFrom (.aligned .right) segments := by
    induction n with
    | zero => rfl
    | succ n ih => exact congrArg (divider :: ·) ih
  have hmarkers : Segment.markers (Marker.breaksBefore n t) ≠ [] := by
    rw [Segment.markers, lex_breaksBefore, ← Nat.sub_add_cancel hn, List.replicate_succ]
    exact List.cons_ne_nil _ _
  rw [parse_eq_sectionsFrom hmarkers, lex_breaksBefore, hdividers]

end Section

namespace Page

variable {config : RenderConfig} {s : PageStyle} {sections : List Section} {n verse row : Nat}

/-- Every divider takes a row, so the verses behind so many of them start further down. -/
theorem le_of_verseRows {before origin : Nat} {after : Bool}
    (h : (ofBlocks config s before (Layout.blocksFrom config origin 0 after
      (List.replicate n .divider ++ sections))).verseRows[verse]? = some row) :
    before + n ≤ row := by
  induction n generalizing before origin after with
  | zero =>
      obtain ⟨front, b, behind, -, -, rfl⟩ := exists_of_verseRows_ofBlocks h
      exact Nat.le_add_right _ _
  | succ n ih =>
      have hlater := ih h
      simp only [blankRows, List.length_append, List.length_replicate,
        List.length_singleton] at hlater
      omega

end Page

namespace Reader

/-- A document that has verses and is at none of them is shown at the first one next. -/
theorem nextVerse_of_none {r : Reader} (hcount : r.verseCount ≠ 0)
    (hnone : r.render.currentVerse = none) :
    r.nextVerse = { r with render := { r.render with currentVerse := some 0 } } := by
  unfold nextVerse moveVerse
  split
  · next hzero => exact absurd hzero hcount
  · rw [hnone]

/-- The reader of a document with one verse behind breaks, after one step. -/
theorem nextVerse_behind_breaks {n : Nat} (hn : 0 < n) {r : Reader}
    (hr : r = ((new .standard).setDocument ⟨Marker.breaksBefore n ['b']⟩).nextVerse) :
    r.mode = .reading ∧ r.render = ⟨false, true, some 0, true⟩ ∧
      r.document.sections = List.replicate n .divider ++ [.verse ['b'] .right] := by
  have hlast : Section.sectionsFrom (.aligned .right) (Segment.lex ['b']) =
      [.verse ['b'] .right] := by decide +kernel
  have hsections : (⟨Marker.breaksBefore n ['b']⟩ : Document).sections =
      List.replicate n .divider ++ [.verse ['b'] .right] :=
    hlast ▸ Section.parse_breaksBefore hn ['b']
  have hcount : ((new .standard).setDocument ⟨Marker.breaksBefore n ['b']⟩).verseCount ≠ 0 := by
    show Layout.verseCount (⟨Marker.breaksBefore n ['b']⟩ : Document).sections ≠ 0
    rw [hsections, Layout.verseCount, List.filter_append, List.length_append]
    exact Nat.ne_of_gt (Nat.lt_of_lt_of_le (by decide +kernel) (Nat.le_add_left _ _))
  rw [hr, nextVerse_of_none hcount rfl]
  exact ⟨rfl, rfl, hsections⟩

/-- Behind 65535 breaks a verse starts on a row whose number does not leave room for a window with
16 bits. The reader is at that verse, and drawing it on the smallest screen ends the program. -/
theorem verse_out_of_sight :
    let text := Marker.breaksBefore 65535 ['b']
    let r := ((new .standard).setDocument ⟨text⟩).nextVerse
    (Reachable .standard r ∧ Config.standard.Valid ∧ r.mode ≠ .help ∧
        r.render.currentVerse = some 0) ∧
      r.draw? 3 4 = none := by
  intro text r
  have h : Reachable .standard r := (Reachable.new.shown _).next
  have hr : r = ((new .standard).setDocument ⟨text⟩).nextVerse := rfl
  obtain ⟨hreading, hrender, hsections⟩ := nextVerse_behind_breaks (by decide : 0 < 65535) hr
  -- From here on the long text only matters through its sections.
  clear_value text r
  have hmode : r.mode ≠ .help := by simp [hreading]
  have hverse : r.render.currentVerse = some 0 := congrArg RenderConfig.currentVerse hrender
  refine ⟨⟨h, Config.valid_standard, hmode, hverse⟩, ?_⟩
  obtain ⟨b, row, line, -, hrow, hline, -, hlt⟩ :=
    exists_row_in_window h hverse 3 (by decide : 4 ≤ 4)
  have hfar : 65535 ≤ row := by
    have hplace : (Page.render r.document.sections r.render _).rowOf 0 = some row := hrow
    rw [hsections] at hplace
    simpa using Page.le_of_verseRows hplace
  have hfilled := List.ne_nil_of_length_pos
    (Nat.zero_lt_of_lt (List.getElem?_eq_some_iff.1 hline).1)
  refine draw?_eq_none (h.config_eq ▸ Config.valid_standard) hmode (by decide) (by decide)
    hfilled ?_
  simp only [UInt16.size]
  omega

end Reader

end MarkedVerse
