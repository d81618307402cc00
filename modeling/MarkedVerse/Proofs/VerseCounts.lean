import MarkedVerse.Proofs.LastTemplate
import MarkedVerse.Proofs.Parts

/-!
# Templates take no verse away

A template that can be applied leaves a document at least the verses that it had
(`Template.verseCount_le_of_apply`). Restyling changes nothing but styles. Where breaks are inserted
into a text that has headings but no breaks, only the text in front of all headings was a verse, and
the first paragraph begins with it (`exists_trimStart_eq_append`).
-/

namespace MarkedVerse

namespace Text

/-- What is left of a text without the blanks at its front does not begin with a blank. -/
theorem isBlank_of_trimStart_eq_cons {c : Char} {t u : Text} (h : trimStart t = c :: u) :
    isBlank c = false := by
  have hhead := List.head?_dropWhile_not isBlank t
  rw [← trimStart, h] at hhead
  exact hhead

/-- The first paragraph stands at the front of the text, behind blanks. -/
theorem exists_trimStart_eq_append {t first : Text} {rest : List Text}
    (h : paragraphs t = first :: rest) : ∃ behind, trimStart t = first ++ behind := by
  have hend (u : Text) : ∃ behind, trimStart u = trim u ++ behind :=
    ⟨_, (List.rdropWhile_append_rtakeWhile (p := isBlank)).symm⟩
  -- Behind the gap stands a shorter text, but not the tail of this one.
  induction hlength : t.length using Nat.strongRecOn generalizing t with
  | _ n ih =>
      rcases splitGaps_eq (fun _ => false) 1 t with hone | ⟨piece, gap, later, hgap, ht, hsplit⟩
      · rw [paragraphs, hone, List.map_cons, List.map_nil, List.filter_cons] at h
        split at h
        · obtain ⟨rfl, -⟩ := List.cons.inj h
          exact hend t
        · cases h
      · have hblank := isBlank_of_gapChars (by simp) hgap.chars
        have hshorter : later.length < n := by
          have hpos : 0 < gap.length := List.length_pos_of_mem hgap.newline
          simp only [ht, List.length_append] at hlength
          omega
        rw [paragraphs, hsplit, List.map_cons, List.filter_cons] at h
        split at h
        · next hne =>
            obtain ⟨rfl, -⟩ := List.cons.inj h
            obtain ⟨behind, hpiece⟩ := hend piece
            have hnonempty : trimStart piece ≠ [] := by
              intro hnil
              simp [trim, hnil, trimEnd] at hne
            refine ⟨behind ++ (gap ++ later), ?_⟩
            rw [ht, trimStart, List.append_assoc, List.dropWhile_append, ← trimStart, hpiece]
            simp [hpiece ▸ hnonempty]
        · next hempty =>
            have hpiece : ∀ c ∈ piece, isBlank c = true := trim_eq_nil_iff.1 (by simpa using hempty)
            obtain ⟨behind, hbehind⟩ := ih _ hshorter h rfl
            refine ⟨behind, ?_⟩
            rw [ht, List.append_assoc, trimStart_append hpiece, trimStart_append hblank, hbehind]

end Text

namespace Segment

variable {t : Text}

/-- A text in front of segments stands in front of their lead. -/
theorem lead_parts_consText (t : Text) (segments : List Segment) :
    (parts (consText t segments)).lead = t ++ (parts segments).lead := by
  have hchar : ∀ c later, (parts (consChar c later)).lead = c :: (parts later).lead := by
    intro c later
    unfold consChar
    split <;> rfl
  induction t with
  | nil => rfl
  | cons c t ih => rw [consText, List.foldr_cons, ← consText, hchar, ih, List.cons_append]

/-- There is text in front of all markers exactly when the text does not begin, apart from blanks,
with a marker. -/
theorem verseLines_lead_ne_nil_iff :
    Text.verseLines (parts (lex t)).lead ≠ [] ↔
      Text.trimStart t ≠ [] ∧ Marker.at? (Text.trimStart t) = none := by
  have hfront : ∀ c ∈ t.takeWhile Text.isBlank, Text.isBlank c = true :=
    fun c hc => List.mem_takeWhile_imp hc
  have ht : t = t.takeWhile Text.isBlank ++ Text.trimStart t :=
    List.takeWhile_append_dropWhile.symm
  have hlex : lex t = consText (t.takeWhile Text.isBlank) (lex (Text.trimStart t)) := by
    conv_lhs => rw [ht, lex_append_of_bar_not_mem (Text.bar_not_mem_of_blank hfront)]
  rw [ne_eq, Text.verseLines_eq_nil_iff, hlex, lead_parts_consText]
  match hstart : Text.trimStart t with
  | [] =>
      rw [lex_nil, parts, List.append_nil]
      simpa using hfront
  | c :: u =>
      have hc := Text.isBlank_of_trimStart_eq_cons hstart
      cases hread : Marker.at? (c :: u) with
      | none =>
          have hlead := lead_parts_consText [c] (lex u)
          rw [lex_of_at?_eq_none hread]
          simp only [ne_eq, reduceCtorEq, not_false_eq_true, and_true, iff_true]
          intro hall
          have hmem : c ∈ t.takeWhile Text.isBlank ++ (parts (consChar c (lex u))).lead :=
            List.mem_append_right _ (hlead ▸ List.mem_cons_self)
          simp [hall c hmem] at hc
      | some found =>
          rw [lex_of_at? hread, parts, List.append_nil]
          simpa using hfront

end Segment

namespace Section

open Segment

variable {t : Text} {style : Alignment}

theorem verseCount_append (sections later : List Section) :
    Layout.verseCount (sections ++ later) =
      Layout.verseCount sections + Layout.verseCount later := by
  simp [Layout.verseCount]

/-- A heading is no verse. -/
theorem verseCount_stanza_heading (u : Text) : Layout.verseCount (stanza .heading u) = 0 := by
  rw [stanza]
  split <;> rfl

/-- An aligned text is one verse, unless it is blank. -/
theorem verseCount_stanza_aligned (style : Alignment) (u : Text) :
    Layout.verseCount (stanza (.aligned style) u) = if Text.verseLines u = [] then 0 else 1 := by
  rw [stanza_eq_ofText]
  split
  · next hnil => rw [ofText, hnil]; rfl
  · next hne =>
      rw [ofText_eq_block hne]
      have hverse : (block (.aligned style) u).isVerse = true := by
        rw [isVerse, hasContent, lines_block]
        simp [block, ofRole, verse, hne]
      rw [Layout.verseCount, List.filter_cons_of_pos hverse, List.filter_nil, List.length_singleton]

/-- A heading and the text behind it are no verse. -/
theorem verseCount_ofBlock_of_heading {m : Marker} (hm : m.isBreak = false) (u : Text) :
    Layout.verseCount (ofBlock m u) = 0 := by
  have hrole : Role.behind m = .heading := by
    have hstyle : m.style? = none := by simpa [Marker.isBreak] using hm
    rw [Role.behind, hstyle]
  rw [ofBlock, hm, hrole, if_neg Bool.false_ne_true, List.nil_append, verseCount_stanza_heading]

/-- The verses of a text with markers are those of its parts. -/
theorem verseCount_parse_of_markers (hmarkers : markers t ≠ []) :
    Layout.verseCount (parse t) =
      (if Text.verseLines (parts (lex t)).lead = [] then 0 else 1) +
        Layout.verseCount ((parts (lex t)).blocks.flatMap fun (m, u) => ofBlock m u) := by
  rw [parse_eq_sectionsFrom hmarkers, sectionsFrom_eq (wellCut_lex t).alternating, Parts.sections,
    verseCount_append, verseCount_stanza_aligned]

/-- Without breaks, only the text in front of all headings can be a verse. -/
theorem verseCount_parse_of_headings (hmarkers : markers t ≠ []) (hbreaks : breakMarkers t = []) :
    Layout.verseCount (parse t) =
      if Text.verseLines (parts (lex t)).lead = [] then 0 else 1 := by
  have hheading : ∀ block ∈ (parts (lex t)).blocks, block.1.isBreak = false := by
    intro block hblock
    have hmem : block.1 ∈ markers t := by
      rw [markers, ← map_fst_blocks_parts]
      exact List.mem_map_of_mem hblock
    rw [breakMarkers, List.filter_eq_nil_iff] at hbreaks
    simpa using hbreaks _ hmem
  have hnone : ∀ blocks : List (Marker × Text), (∀ block ∈ blocks, block.1.isBreak = false) →
      Layout.verseCount (blocks.flatMap fun (m, u) => ofBlock m u) = 0 := by
    intro blocks hblocks
    induction blocks with
    | nil => rfl
    | cons block blocks ih =>
        rw [List.flatMap_cons, verseCount_append,
          ih fun b hb => hblocks b (List.mem_cons_of_mem _ hb),
          verseCount_ofBlock_of_heading (hblocks block List.mem_cons_self)]
  rw [verseCount_parse_of_markers hmarkers, hnone _ hheading, Nat.add_zero]

/-- The sections of a restyled text are restyled sections. -/
theorem parse_restyle {p : Pattern} (hbreaks : breakMarkers t ≠ []) :
    parse ((Segment.restyle p 0 (lex t)).flatMap source) = restyle p 0 (parse t) := by
  have hlex := lex_restyle p t
  have hout : breakMarkers ((Segment.restyle p 0 (lex t)).flatMap source) ≠ [] := by
    have hpos : 0 < (breakMarkers t).length := List.length_pos_iff.2 hbreaks
    rw [breakMarkers, markers] at hpos
    rw [← List.length_pos_iff, breakMarkers, markers, hlex, breaks_restyle, List.length_map,
      List.length_range']
    exact hpos
  rw [parse_eq_sectionsFrom (markers_ne_nil hout), parse_eq_sectionsFrom (markers_ne_nil hbreaks),
    hlex]
  exact sectionsFrom_restyle p 0 (.aligned .right) (lex t)

/-- Restyling changes the style of verses, but they stay verses. -/
theorem verseCount_restyle (p : Pattern) (dividers : Nat) (sections : List Section) :
    Layout.verseCount (restyle p dividers sections) = Layout.verseCount sections := by
  have hcons : ∀ (s s' : Section) (rest rest' : List Section), s'.isVerse = s.isVerse →
      Layout.verseCount rest' = Layout.verseCount rest →
      Layout.verseCount (s' :: rest') = Layout.verseCount (s :: rest) := by
    intro s s' rest rest' hverse hrest
    have hone : Layout.verseCount [s'] = Layout.verseCount [s] := by
      cases h : s.isVerse <;> simp [Layout.verseCount, hverse, h]
    rw [← List.singleton_append, verseCount_append, hrest, hone, ← verseCount_append]
    rfl
  induction sections generalizing dividers with
  | nil => rfl
  | cons s sections ih =>
      rw [restyle]
      split
      · exact hcons _ _ _ _ rfl (ih _)
      · split
        · exact hcons _ _ _ _ rfl (ih _)
        · exact hcons _ _ _ _ rfl (ih _)

end Section

namespace Template

open Segment

variable {p : Pattern} {t : Text}

/-- Inserting breaks into a text that has headings but no breaks takes no verse away: if the text
began with verse, its first paragraph still does. -/
theorem verseCount_le_of_headings (hmarkers : markers t ≠ []) (hbreaks : breakMarkers t = [])
    {first second : Text} {rest : List Text}
    (hparagraphs : Text.paragraphs t = first :: second :: rest) :
    Layout.verseCount (Section.parse t) ≤
      Layout.verseCount (Section.parse (first ++ insertedAfter p 0 (second :: rest))) := by
  have hout : markers (first ++ insertedAfter p 0 (second :: rest)) ≠ [] := by
    rw [markers_append_insertedAfter]
    simp
  rw [Section.verseCount_parse_of_headings hmarkers hbreaks]
  split
  · exact Nat.zero_le _
  · next hlead =>
      obtain ⟨-, hread⟩ := verseLines_lead_ne_nil_iff.1 hlead
      obtain ⟨behind, hstart⟩ := Text.exists_trimStart_eq_append hparagraphs
      obtain ⟨-, hne⟩ := Text.trim_of_mem_paragraphs (hparagraphs ▸ List.mem_cons_self)
      obtain ⟨c, paragraph, rfl⟩ := List.exists_cons_of_ne_nil hne
      have hc := Text.isBlank_of_trimStart_eq_cons hstart
      -- A marker at the front of the paragraph would have stood at the front of the text.
      have hfirst : Marker.at? (c :: paragraph) = none := by
        rw [Option.eq_none_iff_forall_ne_some]
        rintro ⟨m, behindMarker⟩ hmarker
        rw [hstart, Marker.at?_append hmarker] at hread
        cases hread
      obtain ⟨out, hnewline⟩ : ∃ out, insertedAfter p 0 (second :: rest) = '\n' :: out := ⟨_, rfl⟩
      have hbegin : Text.trimStart (c :: paragraph ++ insertedAfter p 0 (second :: rest)) =
          c :: paragraph ++ insertedAfter p 0 (second :: rest) :=
        List.dropWhile_cons_of_neg (by simp [hc])
      have hplain : Text.verseLines
          (parts (lex (c :: paragraph ++ insertedAfter p 0 (second :: rest)))).lead ≠ [] := by
        rw [verseLines_lead_ne_nil_iff, hbegin, hnewline]
        exact ⟨List.cons_ne_nil _ _, Marker.at?_newline_eq_none hfirst out⟩
      rw [Section.verseCount_parse_of_markers hout, if_neg hplain]
      exact Nat.le_add_right 1 _

/-- A template that can be applied takes no verse away. -/
theorem verseCount_le_of_apply {outcome : Outcome} (h : apply t p = .ok outcome) :
    Layout.verseCount (Section.parse t) ≤ Layout.verseCount (Section.parse outcome.text) := by
  have hp := styles_ne_nil_of_apply h
  by_cases hbreaks : breakMarkers t = []
  · rw [apply_eq_insertBreaks hp hbreaks] at h
    match hparagraphs : Text.paragraphs t with
    | [] | [_] => simp [insertBreaks, hparagraphs] at h
    | first :: second :: rest =>
        rw [insertBreaks_eq_ok hparagraphs] at h
        cases h
        by_cases hmarkers : markers t = []
        · obtain ⟨-, -, hcount⟩ := sections_inserted (p := p) hmarkers hparagraphs
          exact hcount.ge
        · exact verseCount_le_of_headings hmarkers hbreaks hparagraphs
  · rw [apply_eq_restyle hp hbreaks] at h
    cases h
    rw [Section.parse_restyle hbreaks, Section.verseCount_restyle]

end Template

end MarkedVerse
