import MarkedVerse.Layout
import MarkedVerse.Proofs.Paragraphs
import MarkedVerse.Proofs.Restyling

/-!
# Breaks between paragraphs

A template on a text without breaks writes one between every two paragraphs. `inserts_exactly` says
that nothing else changes: cut at its breaks, the result has the paragraphs of the text, its headers
are those of the text, and if the text has no markers at all, its paragraphs are read as the same
lines from the result, although a text with breaks is read in another way than one without.
-/

namespace MarkedVerse

namespace Text

/-- Puts a text in front of the first piece. -/
def appendHead (t : Text) (pieces : List Text) : List Text :=
  t.foldr consHead pieces

@[simp]
theorem appendHead_cons (t piece : Text) (pieces : List Text) :
    appendHead t (piece :: pieces) = (t ++ piece) :: pieces := by
  induction t with
  | nil => rfl
  | cons c t ih => rw [appendHead, List.foldr_cons, ← appendHead, ih, consHead, List.cons_append]

/-- Blanks in front of the first piece are trimmed with its own. -/
theorem map_trim_appendHead {t : Text} (h : ∀ c ∈ t, isBlank c = true) {pieces : List Text}
    (hne : pieces ≠ []) : (appendHead t pieces).map trim = pieces.map trim := by
  obtain ⟨piece, pieces, rfl⟩ := List.exists_cons_of_ne_nil hne
  rw [appendHead_cons, List.map_cons, List.map_cons, trim_blank_append h]

end Text

namespace Segment

/-- The texts between the breaks of segments, headers included; there is one more than breaks. -/
def cutAtBreaks : List Segment → List Text
  | [] => [[]]
  | s :: segments =>
    if s.marker?.any Marker.isBreak then [] :: cutAtBreaks segments
    else Text.appendHead s.source (cutAtBreaks segments)

/-- There is always a piece. -/
theorem cutAtBreaks_ne_nil (segments : List Segment) : cutAtBreaks segments ≠ [] := by
  induction segments with
  | nil => simp [cutAtBreaks]
  | cons s segments ih =>
      obtain ⟨piece, pieces, hcut⟩ := List.exists_cons_of_ne_nil ih
      rw [cutAtBreaks, hcut, Text.appendHead_cons]
      split <;> simp

/-- A text in front of segments stands in front of the first piece. -/
theorem cutAtBreaks_consText (t : Text) (segments : List Segment) :
    cutAtBreaks (consText t segments) = Text.appendHead t (cutAtBreaks segments) := by
  have hchar : ∀ c later, Text.consHead c (cutAtBreaks later) = cutAtBreaks (consChar c later) := by
    intro c later
    unfold consChar
    split <;> rfl
  exact (List.foldr_hom cutAtBreaks hchar).symm

/-- Whether segments are free of breaks is seen at the first one and the others. -/
theorem free_cons {s : Segment} {segments : List Segment}
    (h : ∀ m ∈ (s :: segments).filterMap marker?, m.isBreak = false) :
    s.marker?.any Marker.isBreak = false ∧
      ∀ m ∈ segments.filterMap marker?, m.isBreak = false := by
  cases s with
  | text t => exact ⟨rfl, h⟩
  | marker m => exact ⟨h m List.mem_cons_self, fun m' hm' => h m' (List.mem_cons_of_mem _ hm')⟩

/-- Segments without breaks are one piece. -/
theorem cutAtBreaks_eq_singleton {segments : List Segment}
    (h : ∀ m ∈ segments.filterMap marker?, m.isBreak = false) :
    cutAtBreaks segments = [segments.flatMap source] := by
  induction segments with
  | nil => rfl
  | cons s segments ih =>
      obtain ⟨hs, hrest⟩ := free_cons h
      rw [cutAtBreaks, hs, ih hrest]
      simp

/-- Segments without breaks in front of segments stand in front of the first piece. -/
theorem cutAtBreaks_glue {segments : List Segment}
    (h : ∀ m ∈ segments.filterMap marker?, m.isBreak = false) (later : List Segment) :
    cutAtBreaks (glue segments later) =
      Text.appendHead (segments.flatMap source) (cutAtBreaks later) := by
  fun_induction glue segments later with
  | case1 later => rfl
  | case2 later t => simp [cutAtBreaks_consText, source]
  | case3 s segments later _ ih =>
      obtain ⟨hs, hrest⟩ := free_cons h
      rw [cutAtBreaks, hs, ih hrest, List.flatMap_cons, Text.appendHead, Text.appendHead,
        Text.appendHead, List.foldr_append]
      rfl

end Segment

namespace Template

open Segment

/-- A paragraph, a break behind it and what follows are cut around the break. -/
theorem lex_append_insertedAfter (p : Pattern) (index : Nat) (paragraph next : Text)
    (rest : List Text) :
    lex (paragraph ++ insertedAfter p index (next :: rest)) =
      glue (lex paragraph) (.text ['\n', '\n'] :: .marker (p.styleAt index).marker ::
        consText ['\n', '\n'] (lex (next ++ insertedAfter p (index + 1) rest))) := by
  rw [← lex_append_break, insertedAfter]
  simp only [List.append_assoc]

/-- The markers are those of the paragraphs with the breaks between them. -/
theorem markers_append_insertedAfter (p : Pattern) (index : Nat) (paragraph next : Text)
    (rest : List Text) :
    markers (paragraph ++ insertedAfter p index (next :: rest)) =
      markers paragraph ++ (p.styleAt index).marker ::
        markers (next ++ insertedAfter p (index + 1) rest) := by
  rw [markers, lex_append_insertedAfter, filterMap_marker?_glue]
  simp [List.filterMap_cons, markers]

variable {p : Pattern} {index : Nat} {paragraph : Text} {rest : List Text}

/-- Between paragraphs without breaks, the breaks are those of the pattern, in its order. -/
theorem breakMarkers_insertedAfter (h : ∀ q ∈ paragraph :: rest, breakMarkers q = []) :
    breakMarkers (paragraph ++ insertedAfter p index rest) =
      (List.range' index rest.length).map fun i => (p.styleAt i).marker := by
  induction rest generalizing paragraph index with
  | nil => simpa [insertedAfter] using h paragraph List.mem_cons_self
  | cons next rest ih =>
      have hfirst := h paragraph List.mem_cons_self
      have hrest : breakMarkers (next ++ insertedAfter p (index + 1) rest) = _ :=
        ih fun q hq => h q (List.mem_cons_of_mem _ hq)
      rw [breakMarkers] at hfirst hrest
      rw [breakMarkers, markers_append_insertedAfter, List.filter_append, hfirst]
      simp [hrest, List.range'_succ]

/-- The headers are those of the paragraphs. -/
theorem headers_insertedAfter :
    (markers (paragraph ++ insertedAfter p index rest)).filter (fun m => !m.isBreak) =
      ((paragraph :: rest).flatMap markers).filter fun m => !m.isBreak := by
  induction rest generalizing paragraph index with
  | nil => simp [insertedAfter]
  | cons next rest ih =>
      have hrest : (markers (next ++ insertedAfter p (index + 1) rest)).filter _ = _ := ih
      rw [markers_append_insertedAfter, List.flatMap_cons, List.filter_append, List.filter_append,
        ← hrest]
      simp

/-- The segments of a text without breaks hold none. -/
theorem free_lex {t : Text} (h : breakMarkers t = []) :
    ∀ m ∈ (lex t).filterMap marker?, m.isBreak = false := by
  rw [breakMarkers, List.filter_eq_nil_iff] at h
  exact fun m hm => by simpa using h m hm

/-- Cut at its breaks and trimmed, the text has the paragraphs between which they were inserted. -/
theorem cutAtBreaks_insertedAfter (h : ∀ q ∈ paragraph :: rest, breakMarkers q = []) :
    (cutAtBreaks (lex (paragraph ++ insertedAfter p index rest))).map Text.trim =
      (paragraph :: rest).map Text.trim := by
  have hblank : ∀ c ∈ ['\n', '\n'], Text.isBlank c = true := List.all_eq_true.1 rfl
  induction rest generalizing paragraph index with
  | nil =>
      have hfree := free_lex (h paragraph List.mem_cons_self)
      rw [insertedAfter, List.append_nil, cutAtBreaks_eq_singleton hfree, flatMap_source_lex]
  | cons next rest ih =>
      have hfree := free_lex (h paragraph List.mem_cons_self)
      have hrest : (cutAtBreaks (lex (next ++ insertedAfter p (index + 1) rest))).map Text.trim =
          (next :: rest).map Text.trim := ih fun q hq => h q (List.mem_cons_of_mem _ hq)
      -- The line feeds around the break are trimmed with the pieces that they fall to.
      have htrim : Text.trim (paragraph ++ ['\n', '\n']) = Text.trim paragraph :=
        Text.trim_append_blank paragraph hblank
      rw [lex_append_insertedAfter, cutAtBreaks_glue hfree, flatMap_source_lex, cutAtBreaks,
        marker?_text, cutAtBreaks, marker?_marker, Option.any_some, Alignment.isBreak_marker,
        cutAtBreaks_consText]
      simp only [Option.any_none, if_true, Bool.false_eq_true, if_false, source,
        Text.appendHead_cons, List.append_nil, List.map_cons, htrim,
        Text.map_trim_appendHead hblank (cutAtBreaks_ne_nil _)]
      rw [hrest, List.map_cons]

end Template

/-! ## Sections -/

namespace Section

open Segment Template

variable {p : Pattern} {index : Nat} {style : Alignment} {paragraph next : Text}
  {rest : List Text}

/-- A paragraph leaves its sections, and the break behind it a divider. -/
theorem sectionsFrom_insertedAfter (role : Role) :
    sectionsFrom role (lex (paragraph ++ insertedAfter p index (next :: rest))) =
      sectionsFrom role (lex paragraph) ++ divider :: sectionsFrom (.aligned (p.styleAt index))
        (lex (next ++ insertedAfter p (index + 1) rest)) := by
  rw [lex_append_insertedAfter, sectionsFrom_glue_break]

/-- A paragraph without markers leaves one block. -/
theorem sectionsFrom_lex_paragraph {q : Text}
    (h : q ≠ [] ∧ markers q = [] ∧ Text.verseLines q ≠ []) (role : Role) :
    sectionsFrom role (lex q) = [block role q] := by
  rw [lex_eq_text h.1 h.2.1, sectionsFrom, sectionsFrom, ofText_eq_block h.2.2, List.append_nil]

/-- Between the dividers stands one block for each paragraph, and behind each divider it has the
style of the break. -/
theorem blocks_insertedAfter
    (h : ∀ q ∈ paragraph :: rest, q ≠ [] ∧ markers q = [] ∧ Text.verseLines q ≠ []) :
    (sectionsFrom (.aligned style) (lex (paragraph ++ insertedAfter p index rest))).filter
        (fun s => !s.isBreak) =
      block (.aligned style) paragraph ::
        (rest.zipIdx index).map fun (q, i) => block (.aligned (p.styleAt i)) q := by
  have hparagraph := h paragraph List.mem_cons_self
  induction rest generalizing paragraph index style with
  | nil =>
      rw [insertedAfter, List.append_nil, sectionsFrom_lex_paragraph hparagraph]
      rfl
  | cons next rest ih =>
      have hnext : ∀ q ∈ next :: rest, q ≠ [] ∧ markers q = [] ∧ Text.verseLines q ≠ [] :=
        fun q hq => h q (List.mem_cons_of_mem _ hq)
      rw [sectionsFrom_insertedAfter, sectionsFrom_lex_paragraph hparagraph, List.zipIdx_cons,
        List.map_cons, ← ih hnext (hnext next List.mem_cons_self)]
      rfl

/-- Without headings, the verses are the sections between dividers that have lines. -/
theorem verseCount_eq {sections : List Section}
    (h : ∀ s ∈ sections.filter (fun s => !s.isBreak), s.isHeader = false) :
    Layout.verseCount sections =
      (((sections.filter fun s => !s.isBreak).map lines).filter fun l => !l.isEmpty).length := by
  rw [List.filter_map, List.length_map, List.filter_filter, Layout.verseCount]
  refine congrArg List.length (List.filter_congr fun s hs => ?_)
  by_cases hbreak : s.isBreak
  · simp [isVerse, hbreak]
  · have hheader := h s (List.mem_filter.2 ⟨hs, by simpa using hbreak⟩)
    simp [isVerse, hbreak, hheader, hasContent]

end Section

/-! ## The inserted breaks -/

namespace Template

open Segment

variable {p : Pattern} {t first : Text} {rest : List Text}

/-- The paragraphs of a text without breaks have none either. -/
theorem breakMarkers_of_mem_paragraphs (h : breakMarkers t = []) {q : Text}
    (hq : q ∈ Text.paragraphs t) : breakMarkers q = [] := by
  rw [breakMarkers, List.filter_eq_nil_iff] at h ⊢
  intro m hm
  refine h m ?_
  rw [← flatMap_markers_paragraphs]
  exact List.mem_flatMap.2 ⟨q, hq, hm⟩

/-- The paragraphs of a text without markers have none either, and each has a line of verse. -/
theorem markers_of_mem_paragraphs (h : markers t = []) {q : Text} (hq : q ∈ Text.paragraphs t) :
    q ≠ [] ∧ markers q = [] ∧ Text.verseLines q ≠ [] := by
  rw [← flatMap_markers_paragraphs, List.flatMap_eq_nil_iff] at h
  exact ⟨(Text.trim_of_mem_paragraphs hq).2, h q hq,
    Text.verseLines_ne_nil_of_mem_paragraphs hq⟩

/-- The result on a text with at least two paragraphs. -/
theorem insertBreaks_eq_ok {second : Text}
    (h : Text.paragraphs t = first :: second :: rest) (p : Pattern) :
    insertBreaks t p =
      .ok ⟨first ++ insertedAfter p 0 (second :: rest), .insert (rest.length + 1)⟩ := by
  rw [insertBreaks, h]

/-- The result on a text with fewer paragraphs. -/
theorem insertBreaks_eq_error (h : (Text.paragraphs t).length < 2) (p : Pattern) :
    insertBreaks t p = .error (.tooFewParagraphs (Text.paragraphs t).length) := by
  rw [insertBreaks]
  split
  · next heq =>
      rw [heq, List.length_cons, List.length_cons] at h
      omega
  · rfl

/-- With breaks between them, the paragraphs of a text without markers are read as the same lines,
the first one aligned right and each other one as the break in front of it says. -/
theorem blocks_inserted (h : markers t = []) {second : Text}
    (hparagraphs : Text.paragraphs t = first :: second :: rest) :
    (Section.parse (first ++ insertedAfter p 0 (second :: rest))).filter (fun s => !s.isBreak) =
      Section.block (.aligned .right) first ::
        ((second :: rest).zipIdx 0).map fun (q, i) =>
          Section.block (.aligned (p.styleAt i)) q := by
  have hmarkers : markers (first ++ insertedAfter p 0 (second :: rest)) ≠ [] := by
    rw [markers_append_insertedAfter]
    simp
  rw [Section.parse_eq_sectionsFrom hmarkers]
  exact Section.blocks_insertedAfter fun q hq => markers_of_mem_paragraphs h (hparagraphs ▸ hq)

/-- What is read of paragraphs with breaks between them, against what is read of the text without
markers that they come from. -/
theorem sections_inserted (h : markers t = []) {second : Text}
    (hparagraphs : Text.paragraphs t = first :: second :: rest) :
    let out := first ++ insertedAfter p 0 (second :: rest)
    ((Section.parse out).filter fun s => !s.isBreak).map Section.lines =
        (Section.parse t).map Section.lines ∧
      ((Section.parse out).filter fun s => !s.isBreak).map Section.style =
        .right :: (List.range (rest.length + 1)).map p.styleAt ∧
      Layout.verseCount (Section.parse out) = Layout.verseCount (Section.parse t) := by
  intro out
  have hblocks : (Section.parse out).filter (fun s => !s.isBreak) = _ :=
    blocks_inserted h hparagraphs
  have hparse : Section.parse t =
      (first :: second :: rest).map fun q => Section.verse q .right := by
    rw [Section.parse_eq_paragraphs h, hparagraphs]
  have hlines : ((Section.parse out).filter fun s => !s.isBreak).map Section.lines =
      (Section.parse t).map Section.lines := by
    have hfst : ((second :: rest).zipIdx 0).map (fun q => Text.verseLines q.1) =
        (second :: rest).map Text.verseLines := by
      conv_rhs => rw [← List.zipIdx_map_fst 0 (second :: rest), List.map_map]
      rfl
    rw [hblocks, hparse, List.map_cons, List.map_map, List.map_map]
    simp only [Function.comp_def, Section.lines_block, hfst]
    rfl
  refine ⟨hlines, ?_, ?_⟩
  · rw [hblocks, List.map_cons, List.map_map, ← List.length_cons, List.range_eq_range',
      ← List.zipIdx_map_snd 0 (second :: rest), List.map_map]
    rfl
  · have hout : ∀ s ∈ (Section.parse out).filter (fun s => !s.isBreak), s.isHeader = false := by
      rw [hblocks]
      intro s hs
      rcases List.mem_cons.1 hs with rfl | hs
      · rfl
      · obtain ⟨q, -, rfl⟩ := List.mem_map.1 hs
        rfl
    have hverse : (Section.parse t).filter (fun s => !s.isBreak) = Section.parse t := by
      rw [hparse, List.filter_map]
      simp [Function.comp_def, Section.verse]
    have ht : ∀ s ∈ (Section.parse t).filter (fun s => !s.isBreak), s.isHeader = false := by
      rw [hverse, hparse]
      intro s hs
      obtain ⟨q, -, rfl⟩ := List.mem_map.1 hs
      rfl
    rw [Section.verseCount_eq hout, Section.verseCount_eq ht, hlines, hverse]

end Template

/-- A template with styles on a text without breaks fails when there are fewer than two paragraphs.
Otherwise it writes the literals of its styles in order, one between every two paragraphs: cut at
its breaks and trimmed, the result has the paragraphs of the text, and its headers are those of the
text. If the text has no markers at all, the result is read as the same lines, the first section
aligned right and each other one as the break in front of it says. -/
theorem inserts_exactly {p : Pattern} (hp : p.styles ≠ []) {t : Text}
    (h : Segment.breakMarkers t = []) :
    ((Text.paragraphs t).length < 2 →
      Template.apply t p = .error (.tooFewParagraphs (Text.paragraphs t).length)) ∧
    (2 ≤ (Text.paragraphs t).length → ∃ out,
      Template.apply t p = .ok ⟨out, .insert ((Text.paragraphs t).length - 1)⟩ ∧
      (Segment.breakMarkers out).map Marker.source =
        (List.range ((Text.paragraphs t).length - 1)).map (fun k => (p.styleAt k).breakLiteral) ∧
      (Segment.cutAtBreaks (Segment.lex out)).map Text.trim = Text.paragraphs t ∧
      (Segment.markers out).filter (fun m => !m.isBreak) =
        (Segment.markers t).filter (fun m => !m.isBreak) ∧
      (Segment.markers t = [] →
        ((Section.parse out).filter fun s => !s.isBreak).map Section.lines =
          (Section.parse t).map Section.lines ∧
        ((Section.parse out).filter fun s => !s.isBreak).map Section.style =
          .right :: (List.range ((Text.paragraphs t).length - 1)).map p.styleAt ∧
        Layout.verseCount (Section.parse out) = Layout.verseCount (Section.parse t))) := by
  rw [Template.apply_eq_insertBreaks hp h]
  refine ⟨fun hfew => Template.insertBreaks_eq_error hfew p, fun htwo => ?_⟩
  match hparagraphs : Text.paragraphs t with
  | [] | [_] =>
      rw [hparagraphs] at htwo
      simp at htwo
  | first :: second :: rest =>
      have hfree : ∀ q ∈ first :: second :: rest, Segment.breakMarkers q = [] :=
        fun q hq => Template.breakMarkers_of_mem_paragraphs h (hparagraphs ▸ hq)
      have htrim : (first :: second :: rest).map Text.trim = first :: second :: rest := by
        rw [List.map_congr_left fun q hq => (Text.trim_of_mem_paragraphs (hparagraphs ▸ hq)).1]
        exact List.map_id' _
      refine ⟨_, Template.insertBreaks_eq_ok hparagraphs p, ?_, ?_, ?_, fun hmarkers => ?_⟩
      · rw [Template.breakMarkers_insertedAfter hfree, List.map_map, List.range_eq_range']
        exact List.map_congr_left fun k _ => Alignment.source_marker _
      · rw [Template.cutAtBreaks_insertedAfter hfree, htrim]
      · rw [Template.headers_insertedAfter, ← hparagraphs, Segment.flatMap_markers_paragraphs]
      · exact Template.sections_inserted hmarkers hparagraphs

/-- Stray bars at the ends of paragraphs and a gap with returns: both breaks are inserted, and what
stands next to them makes no further marker. -/
theorem inserts_exactly_next_to_bars :
    let p : Pattern := ⟨"alternate", [.left, .right], ""⟩
    let t : Text := "one||\r\n\r\n||BREAK|\ntwo\n\n |three".toList
    (p.styles ≠ [] ∧ Segment.breakMarkers t = [] ∧ 2 ≤ (Text.paragraphs t).length ∧
      Segment.markers t = []) ∧
    ∃ out, Template.apply t p = .ok ⟨out, .insert ((Text.paragraphs t).length - 1)⟩ ∧
      (Segment.cutAtBreaks (Segment.lex out)).map Text.trim = Text.paragraphs t ∧
      ((Section.parse out).filter fun s => !s.isBreak).map Section.lines =
        (Section.parse t).map Section.lines := by
  have hp : (⟨"alternate", [.left, .right], ""⟩ : Pattern).styles ≠ [] := by decide
  have hmarkers : Segment.markers "one||\r\n\r\n||BREAK|\ntwo\n\n |three".toList = [] := by
    decide +kernel
  have hbreaks : Segment.breakMarkers "one||\r\n\r\n||BREAK|\ntwo\n\n |three".toList = [] := by
    decide +kernel
  have htwo : 2 ≤ (Text.paragraphs "one||\r\n\r\n||BREAK|\ntwo\n\n |three".toList).length := by
    decide +kernel
  obtain ⟨out, happly, -, hcut, -, hsections⟩ := (inserts_exactly hp hbreaks).2 htwo
  exact ⟨⟨hp, hbreaks, htwo, hmarkers⟩, out, happly, hcut, (hsections hmarkers).1⟩

end MarkedVerse
