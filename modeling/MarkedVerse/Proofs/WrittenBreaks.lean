import MarkedVerse.Proofs.SectionMeaning

/-!
# Breaks as they are written

The editing tools write the break of an alignment with an empty line on either side. Such a break
stands by itself: what is in front of it and what is behind it are cut and read as if the other were
not there (`lex_append_break`, `sectionsFrom_glue_break`).
-/

namespace MarkedVerse

/-! ## The break of an alignment -/

namespace Alignment

/-- The break that an author writes for the alignment. -/
def marker : Alignment → Marker
  | right => .plainBreak
  | a => .styledBreak a.name.toList

@[simp]
theorem source_marker (a : Alignment) : a.marker.source = a.breakLiteral := by
  cases a <;> decide

@[simp]
theorem style?_marker (a : Alignment) : a.marker.style? = some a := by
  cases a <;> decide

theorem wellFormed_marker (a : Alignment) : a.marker.WellFormed := by
  cases a with
  | right => trivial
  | center | indent | left => exact List.all_eq_true.1 rfl

@[simp]
theorem isBreak_marker (a : Alignment) : a.marker.isBreak = true := by
  simp [Marker.isBreak]

end Alignment

/-! ## What stands around it -/

namespace Segment

/-- Two texts with a break and empty lines between them are cut around the break. -/
theorem lex_append_break (t : Text) (a : Alignment) (u : Text) :
    lex (t ++ ['\n', '\n'] ++ a.breakLiteral ++ ['\n', '\n'] ++ u) =
      glue (lex t) (.text ['\n', '\n'] :: .marker a.marker ::
        consText ['\n', '\n'] (lex u)) := by
  have htext : t ++ ['\n', '\n'] ++ a.breakLiteral ++ ['\n', '\n'] ++ u =
      t ++ '\n' :: ('\n' :: (a.marker.source ++ (['\n', '\n'] ++ u))) := by simp
  have hbar : '|' ∉ ['\n', '\n'] := by decide
  rw [htext, lex_append_newline, lex_cons_of_ne_bar (by decide), lex_cons_of_ne_bar (by decide),
    lex_source_append (Alignment.wellFormed_marker _), lex_append_of_bar_not_mem hbar]
  rfl

end Segment

namespace Section

open Segment

/-- An empty line behind a text leaves its section alone. -/
theorem ofText_append_newlines (role : Role) (t : Text) :
    ofText role (t ++ ['\n', '\n']) = ofText role t := by
  have hlines : Text.verseLines (t ++ ['\n', '\n']) = Text.verseLines t := by
    rw [Text.verseLines_append_newline, Text.verseLines_newline_cons]
    exact List.append_nil _
  rw [ofText, hlines, ofText]

/-- An empty line in front of segments leaves their sections alone. -/
theorem sectionsFrom_consText_newlines (role : Role) (segments : List Segment) :
    sectionsFrom role (consText ['\n', '\n'] segments) = sectionsFrom role segments := by
  have hchar : ∀ later, sectionsFrom role (consChar '\n' later) = sectionsFrom role later := by
    intro later
    unfold consChar
    split
    · rw [sectionsFrom, sectionsFrom, ofText, Text.verseLines_newline_cons, ofText]
    · rfl
  exact (hchar _).trans (hchar _)

/-- Segments with a break and empty lines between them leave their sections and a divider, and the
later ones are read behind that break. -/
theorem sectionsFrom_glue_break (role : Role) (segments : List Segment) (a : Alignment)
    (later : List Segment) :
    sectionsFrom role (glue segments (.text ['\n', '\n'] :: .marker a.marker ::
        consText ['\n', '\n'] later)) =
      sectionsFrom role segments ++ divider :: sectionsFrom (.aligned a) later := by
  have hbreak : ∀ role, sectionsFrom role (.marker a.marker :: consText ['\n', '\n'] later) =
      divider :: sectionsFrom (.aligned a) later := by
    intro role
    rw [sectionsFrom, Alignment.style?_marker]
    exact congrArg (divider :: ·) (sectionsFrom_consText_newlines _ _)
  induction segments generalizing role with
  | nil => exact hbreak role
  | cons s segments ih =>
      cases s with
      | text t =>
          cases segments with
          | nil =>
              -- The empty line in front of the break is glued to the last text.
              rw [glue, consText_text_cons, sectionsFrom, ofText_append_newlines, hbreak,
                sectionsFrom, sectionsFrom, List.append_nil]
          | cons next segments =>
              rw [glue, sectionsFrom, ih, sectionsFrom, List.append_assoc]
              simp
      | marker m =>
          rw [glue_marker_cons, sectionsFrom, sectionsFrom]
          cases m.style? with
          | none => exact ih .heading
          | some style => exact congrArg (divider :: ·) (ih (.aligned style))

end Section

end MarkedVerse
