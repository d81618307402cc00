import MarkedVerse.Proofs.GapStanzas
import MarkedVerse.Proofs.Paragraphs
import MarkedVerse.Proofs.Parts
import MarkedVerse.Proofs.Recognition

/-!
# Stripping a text of its markers

What is left of a text are the plain texts between its markers, each behind an empty line
(`strip_eq`). No two of them make up a marker, and no line of one comes into a paragraph with a line
of another. `strip_exactly` says so of the sections.
-/

namespace MarkedVerse

/-- The plain texts of parts, in order. -/
def Parts.texts (parts : Parts) : List Text :=
  parts.lead :: parts.blocks.map Prod.snd

/-! ## What is left -/

namespace Segment

/-- What is left of a text are its plain texts with empty lines between them. -/
theorem strip_eq (t : Text) :
    strip t = Text.trim (Text.collapseGaps (Text.join ['\n', '\n'] (parts (lex t)).texts)) := by
  rw [strip]
  refine congrArg (fun u => Text.trim (Text.collapseGaps u)) ?_
  induction lex t with
  | nil => rfl
  | cons s segments ih =>
      rw [List.flatMap_cons, ih]
      cases s with
      | text u => cases h : (parts segments).blocks <;> simp [parts, Parts.texts, Text.join, h]
      | marker m => simp [parts, Parts.texts, Text.join]

/-! ## Markers -/

/-- Texts with empty lines between them have the markers of each. -/
theorem markers_join (pieces : List Text) :
    markers (Text.join ['\n', '\n'] pieces) = pieces.flatMap markers := by
  induction pieces with
  | nil => simp [Text.join, markers]
  | cons piece pieces ih =>
      cases pieces with
      | nil => simp [Text.join]
      | cons second pieces =>
          have htext : Text.join ['\n', '\n'] (piece :: second :: pieces) =
              piece ++ ['\n', '\n'] ++ Text.join ['\n', '\n'] (second :: pieces) := by
            simp [Text.join]
          rw [htext, markers_append_gap (by decide) (by decide), ih]
          rfl

/-- A text in which no marker starts has none, whatever followed it. -/
theorem NoMarkerIn.markers_eq_nil {t behind : Text} (h : NoMarkerIn t behind) : markers t = [] := by
  have hnone : NoMarkerIn t [] := by
    intro front rest heq hrest
    cases hread : Marker.at? (rest ++ []) with
    | none => rfl
    | some found =>
        have hlonger := Marker.at?_append hread behind
        rw [List.append_nil, h front rest heq hrest] at hlonger
        cases hlonger
  have hlex := lex_append_of_noMarkerIn hnone
  rw [List.append_nil] at hlex
  rw [markers, hlex, filterMap_marker?_consText]
  simp

/-- The plain texts of a text have no markers. -/
theorem markers_of_mem_texts {t u : Text} (h : u ∈ (parts (lex t)).texts) : markers u = [] := by
  have hcut := wellCut_lex t
  by_cases hu : u = []
  · simp [hu, markers]
  · have hplain : Segment.text u ∈ ofPlain u := by simp [ofPlain, hu]
    have hmem : Segment.text u ∈ lex t := by
      rw [← hcut.segments_parts, Parts.segments, List.mem_append, List.mem_flatMap]
      rcases List.mem_cons.1 h with rfl | h
      · exact .inl hplain
      · obtain ⟨block, hblock, rfl⟩ := List.mem_map.1 h
        exact .inr ⟨block, hblock, List.mem_cons_of_mem _ hplain⟩
    obtain ⟨before, behind, hlex⟩ := List.append_of_mem hmem
    exact (complete_lex hlex).markers_eq_nil

/-- What is left of a text has no markers. -/
theorem markers_strip (t : Text) : markers (strip t) = [] := by
  have htexts : (parts (lex t)).texts.flatMap markers = [] := by
    rw [List.flatMap_eq_nil_iff]
    exact fun u hu => markers_of_mem_texts hu
  rw [strip_eq, markers_trim, Text.collapseGaps, markers_join,
    flatMap_markers_splitGaps (by decide), markers_join, htexts]

/-! ## Stanzas -/

open Text

/-- No stanza of what is left has verse of two plain texts. -/
theorem refines_stanzas_strip (t : Text) :
    Refines (stanzas isBare (strip t)) ((parts (lex t)).texts.flatMap (stanzas isBare)) := by
  have hcollapse := refines_stanzas_collapseGaps separator_isBare rfl
    (join ['\n', '\n'] (parts (lex t)).texts)
  rwa [stanzas_join rfl, ← stanzas_trim separator_isBare, ← strip_eq] at hcollapse

/-- Between blank lines, the stanzas of what is left are those of the plain texts. -/
theorem stanzas_strip (t : Text) :
    stanzas isBlankLine (strip t) = (parts (lex t)).texts.flatMap (stanzas isBlankLine) := by
  rw [strip_eq, stanzas_trim separator_isBlankLine, stanzas_collapseGaps, stanzas_join rfl]

/-- A text without markers is its only plain text. -/
theorem texts_of_markers_eq_nil {t : Text} (h : markers t = []) : (parts (lex t)).texts = [t] := by
  by_cases ht : t = []
  · rw [ht, lex_nil]
    rfl
  · rw [lex_eq_text ht h]
    simp [parts, Parts.texts]

end Segment

/-! ## Sections -/

namespace Section

open Text

/-- Without markers, the sections have the lines of the stanzas between bare lines. -/
theorem map_lines_of_markers_eq_nil {t : Text} (h : Segment.markers t = []) :
    (parse t).map lines = stanzas isBare t := by
  rw [parse_eq_paragraphs h, List.map_map, ← map_verseLines_paragraphs]
  rfl

/-- A plain text leaves its lines of verse. -/
theorem map_lines_stanza (role : Role) (t : Text) :
    ((stanza role t).filter fun s => !s.isBreak).map lines = whole (verseLines t) := by
  by_cases h : verseLines t = []
  · rw [stanza_eq_ofText, ofText, h]
    rfl
  · have hblock : (block role t).isBreak = false := by cases role <;> rfl
    rw [stanza_eq_ofText, ofText_eq_block h]
    simp [hblock, lines_block, whole, h]

/-- With markers, the sections that are no dividers have the lines of the plain texts. -/
theorem map_lines_of_markers_ne_nil {t : Text} (h : Segment.markers t ≠ []) :
    ((parse t).filter fun s => !s.isBreak).map lines =
      (Segment.parts (Segment.lex t)).texts.flatMap fun u => whole (verseLines u) := by
  have hblock : ∀ block : Marker × Text,
      ((ofBlock block.1 block.2).filter fun s => !s.isBreak).map lines =
        whole (verseLines block.2) := by
    rintro ⟨m, u⟩
    rw [ofBlock, List.filter_append, List.map_append, map_lines_stanza]
    split <;> rfl
  have hcut := Segment.wellCut_lex t
  rw [parse_eq_sectionsFrom h, sectionsFrom_eq hcut.alternating, Parts.sections, Parts.texts,
    List.filter_append, List.map_append, map_lines_stanza, List.filter_flatMap, List.map_flatMap,
    List.flatMap_cons, List.flatMap_map]
  exact congrArg (_ ++ ·) (List.flatMap_congr fun block _ => hblock block)

/-- No section of what is left of a text has lines of two sections. -/
theorem refines_lines_strip (t : Text) :
    Refines ((parse (Segment.strip t)).map lines)
      (((parse t).filter fun s => !s.isBreak).map lines) := by
  rw [map_lines_of_markers_eq_nil (Segment.markers_strip t)]
  refine (Segment.refines_stanzas_strip t).trans ?_
  by_cases h : Segment.markers t = []
  · have hsections : ∀ s ∈ parse t, (!s.isBreak) = true := by
      intro s hs
      obtain ⟨paragraph, -, rfl⟩ := List.mem_map.1 (parse_eq_paragraphs h ▸ hs)
      rfl
    rw [List.filter_eq_self.2 hsections, map_lines_of_markers_eq_nil h,
      Segment.texts_of_markers_eq_nil h, List.flatMap_singleton]
    exact .refl _
  · rw [map_lines_of_markers_ne_nil h]
    exact .flatMap (refines_stanzas separator_isBare) _

end Section

/-- What is left of a text has no marker. Its sections have the lines of the sections of the text
that are no dividers, in the same order, and they can be grouped such that each group has the lines
of one of these sections. So no section of what is left has lines of two sections. -/
theorem strip_exactly (t : Text) :
    (Segment.hasMarkers (Segment.strip t) = false ∧ Segment.markers (Segment.strip t) = []) ∧
    (Section.parse (Segment.strip t)).flatMap Section.lines =
      ((Section.parse t).filter fun s => !s.isBreak).flatMap Section.lines ∧
    ∃ groups : List (List Section), groups.flatten = Section.parse (Segment.strip t) ∧
      groups.map (fun group => group.flatMap Section.lines) =
        ((Section.parse t).filter fun s => !s.isBreak).map Section.lines := by
  have hmarkers := Segment.markers_strip t
  have hrefines := Section.refines_lines_strip t
  refine ⟨⟨?_, hmarkers⟩, ?_, hrefines.exists_groups⟩
  · rw [Segment.hasMarkers_eq, Segment.any_marker?_eq, ← Segment.markers, hmarkers]
    rfl
  · rw [List.flatMap_def, List.flatMap_def, hrefines.flatten_eq]

/-- What stood on either side of a marker does not make up another one. -/
example : Segment.strip "||BR||HEADER||EAK||".toList = "||BR\n\nEAK||".toList := by
  decide +kernel

end MarkedVerse
