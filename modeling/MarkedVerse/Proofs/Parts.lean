import MarkedVerse.Proofs.SectionMeaning
import MarkedVerse.Proofs.WellCut

/-!
# The parts of a text between its markers

A text with markers is a plain text, and then each marker with the plain text up to the next one.
`parse_eq_sections_parts` says that its sections are those of these parts, one after the other, each
stated without regard to the others.
-/

namespace MarkedVerse

/-! ## Parts -/

/-- A text between its markers: the plain text in front of them all, and each marker with the plain
text up to the next one. Any of these texts may be empty. -/
structure Parts where
  lead : Text
  blocks : List (Marker × Text)
  deriving DecidableEq, Repr

namespace Segment

/-- The parts of segments. -/
def parts : List Segment → Parts
  | [] => ⟨[], []⟩
  | .text t :: segments => ⟨t ++ (parts segments).lead, (parts segments).blocks⟩
  | .marker m :: segments => ⟨[], (m, (parts segments).lead) :: (parts segments).blocks⟩

/-- A plain text as a segment, unless it is empty. -/
def ofPlain (t : Text) : List Segment :=
  if t.isEmpty then [] else [.text t]

end Segment

/-- The segments of parts. -/
def Parts.segments (parts : Parts) : List Segment :=
  Segment.ofPlain parts.lead ++ parts.blocks.flatMap fun (m, t) => .marker m :: Segment.ofPlain t

namespace Segment

/-- Behind a plain text stands a marker or nothing. -/
theorem lead_eq_nil {t : Text} {segments : List Segment}
    (h : Alternating (.text t :: segments)) : (parts segments).lead = [] := by
  match segments, h with
  | [], _ => rfl
  | .marker m :: segments, _ => rfl
  | .text u :: segments, h => simp [Alternating] at h

/-- Well-cut segments are those of their parts. -/
theorem WellCut.segments_parts {segments : List Segment} (h : WellCut segments) :
    (parts segments).segments = segments := by
  induction segments with
  | nil => rfl
  | cons s segments ih =>
      have hrest := ih h.tail
      rw [Parts.segments] at hrest
      cases s with
      | text t =>
          have hlead := lead_eq_nil h.alternating
          have hne : t.isEmpty = false := by simpa using h.nonempty t List.mem_cons_self
          rw [hlead, ofPlain, List.isEmpty_nil, if_pos rfl, List.nil_append] at hrest
          rw [Parts.segments, parts, hlead, List.append_nil, hrest, ofPlain, hne]
          rfl
      | marker m =>
          rw [Parts.segments, parts, List.flatMap_cons, List.cons_append, hrest]
          rfl

end Segment

/-! ## Their sections -/

namespace Section

/-- What a marker says about the text behind it. -/
def Role.behind (m : Marker) : Role :=
  match m.style? with
  | some style => .aligned style
  | none => .heading

/-- The section that a plain text of this role leaves: its lines, trimmed and without those that are
blank, one below the other. A blank text leaves none. -/
def stanza (role : Role) (t : Text) : List Section :=
  match ((Text.lines t).map Text.trim).filter fun line => !line.isEmpty with
  | [] => []
  | verses => [ofRole (Text.join ['\n'] verses) role]

/-- The sections that a marker and the plain text behind it leave. -/
def ofBlock (m : Marker) (t : Text) : List Section :=
  (if m.isBreak then [divider] else []) ++ stanza (.behind m) t

theorem stanza_eq_ofText (role : Role) (t : Text) : stanza role t = ofText role t := by
  cases hlines : Text.verseLines t with
  | nil => simp [stanza, ← Text.verseLines_eq, ofText, hlines]
  | cons line lines => simp [stanza, ← Text.verseLines_eq, ofText, hlines]

/-- The empty text leaves no section. -/
theorem stanza_nil (role : Role) : stanza role [] = [] :=
  rfl

/-- A plain text leaves no divider. -/
theorem countP_isBreak_stanza (role : Role) (t : Text) : (stanza role t).countP isBreak = 0 := by
  rw [stanza]
  split
  · rfl
  · cases role <;> rfl

end Section

/-- The sections of parts, where the text in front of all markers has this role. -/
def Parts.sections (role : Section.Role) (parts : Parts) : List Section :=
  Section.stanza role parts.lead ++ parts.blocks.flatMap fun (m, t) => Section.ofBlock m t

namespace Section

/-- A marker in front of segments leaves a divider if it is a break, and says what their first text
is. -/
theorem sections_parts_marker_cons (role : Role) (m : Marker) (segments : List Segment) :
    (Segment.parts (.marker m :: segments)).sections role =
      (if m.isBreak then [divider] else []) ++ (Segment.parts segments).sections (.behind m) :=
  List.append_assoc _ _ _

/-- Reading segments in turn gives the sections of their parts. -/
theorem sectionsFrom_eq {segments : List Segment} (h : Segment.Alternating segments)
    (role : Role) : sectionsFrom role segments = (Segment.parts segments).sections role := by
  induction segments generalizing role with
  | nil => rfl
  | cons s segments ih =>
      have hrest := ih (List.IsChain.of_cons h)
      cases s with
      | text t =>
          have hlead := Segment.lead_eq_nil h
          rw [sectionsFrom, hrest, ← stanza_eq_ofText]
          simp only [Parts.sections, Segment.parts, hlead, List.append_nil, stanza_nil,
            List.nil_append]
      | marker m =>
          rw [sections_parts_marker_cons, ← hrest, sectionsFrom, Marker.isBreak, Role.behind]
          cases m.style? <;> rfl

/-- A marker and the text behind it leave a divider exactly when the marker is a break. -/
theorem countP_isBreak_ofBlock (m : Marker) (t : Text) :
    (ofBlock m t).countP isBreak = if m.isBreak then 1 else 0 := by
  rw [ofBlock, List.countP_append, countP_isBreak_stanza]
  cases m.isBreak <;> rfl

/-- Parts leave one divider for each break. -/
theorem countP_isBreak_sections (role : Role) (parts : Parts) :
    (parts.sections role).countP isBreak = (parts.blocks.map Prod.fst).countP Marker.isBreak := by
  have hblocks : ∀ blocks : List (Marker × Text),
      (blocks.flatMap fun (m, t) => ofBlock m t).countP isBreak =
        (blocks.map Prod.fst).countP Marker.isBreak := by
    intro blocks
    induction blocks with
    | nil => rfl
    | cons block blocks ih =>
        rw [List.flatMap_cons, List.countP_append, ih, countP_isBreak_ofBlock, List.map_cons,
          List.countP_cons, Nat.add_comm]
  rw [Parts.sections, List.countP_append, countP_isBreak_stanza, Nat.zero_add, hblocks]

/-- The markers of segments stand between their parts. -/
theorem map_fst_blocks_parts (segments : List Segment) :
    (Segment.parts segments).blocks.map Prod.fst = segments.filterMap Segment.marker? := by
  induction segments with
  | nil => rfl
  | cons s segments ih => cases s <;> simp [Segment.parts, List.filterMap_cons, ih]

/-- A text leaves one divider for each break, whatever the role of the text in front of them. -/
theorem countP_isBreak_sections_lex (role : Role) (t : Text) :
    ((Segment.parts (Segment.lex t)).sections role).countP isBreak =
      (Segment.breakMarkers t).length := by
  rw [countP_isBreak_sections, map_fst_blocks_parts, Segment.breakMarkers, Segment.markers,
    List.countP_eq_length_filter]

end Section

/-- A text with markers is a plain text, and then each marker with the plain text up to the next
one. Its sections are the section of the first text, aligned right, and then for each marker a
divider if it is a break and the section of the text behind it, with the alignment of the break or
as a heading. Blank texts leave no section, and there are as many dividers as breaks. -/
theorem parse_eq_sections_parts {t : Text} (h : Segment.markers t ≠ []) :
    let parts := Segment.parts (Segment.lex t)
    parts.segments = Segment.lex t ∧
    parts.blocks.map Prod.fst = Segment.markers t ∧
    Section.parse t = Section.stanza (.aligned .right) parts.lead ++
      parts.blocks.flatMap (fun (m, u) =>
        (if m.isBreak then [Section.divider] else []) ++ Section.stanza (.behind m) u) ∧
    (Section.parse t).countP Section.isBreak = (Segment.breakMarkers t).length := by
  have hcut := Segment.wellCut_lex t
  have hparse : Section.parse t =
      (Segment.parts (Segment.lex t)).sections (.aligned .right) := by
    rw [Section.parse_eq_sectionsFrom h, Section.sectionsFrom_eq hcut.alternating]
  refine ⟨hcut.segments_parts, Section.map_fst_blocks_parts _, hparse, ?_⟩
  rw [hparse, Section.countP_isBreak_sections_lex]

/-- Adjacent markers, markers in the middle of lines, a heading behind a break and a blank text: the
sections are those of the parts. -/
theorem parse_eq_sections_parts_mid_line :
    let t : Text := " a ||BREAK:left||||HEADER||b\r\n\n c||BREAK|| \n||BREAK:Center||d".toList
    Segment.markers t ≠ [] ∧
    Section.parse t = [.verse "a".toList .right, .divider, .header "b\nc".toList, .divider,
      .divider, .verse "d".toList .center] := by
  have h : Segment.markers
      " a ||BREAK:left||||HEADER||b\r\n\n c||BREAK|| \n||BREAK:Center||d".toList ≠ [] := by
    decide +kernel
  obtain ⟨-, -, hparse, -⟩ := parse_eq_sections_parts h
  refine ⟨h, hparse.trans ?_⟩
  decide +kernel

end MarkedVerse
