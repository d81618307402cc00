import MarkedVerse.Proofs.Lexing
import MarkedVerse.Proofs.VerseLines
import MarkedVerse.Section

/-!
# What the segments of a text mean

The sections of a marked text are read with a state: the role of the text to come, an open section,
and the closed ones. `parse_eq_sectionsFrom` says what the state computes: a break leaves a divider,
and every plain text leaves one section of the role that the last marker gave it, unless it is
blank. A marker says nothing about the text in front of it or behind the next one.
-/

namespace MarkedVerse

namespace Section

/-- The section that a plain text of this role leaves, if it is not blank. -/
def ofText (role : Role) (t : Text) : List Section :=
  match Text.verseLines t with
  | [] => []
  | lines => [ofRole (Text.join ['\n'] lines) role]

/-- The sections of segments, the first of which stands behind a marker that asks for `role`. -/
def sectionsFrom (role : Role) : List Segment → List Section
  | [] => []
  | .text t :: segments => ofText role t ++ sectionsFrom role segments
  | .marker m :: segments =>
    match m.style? with
    | some style => divider :: sectionsFrom (.aligned style) segments
    | none => sectionsFrom .heading segments

/-- The section that a text with verse lines leaves. -/
def block (role : Role) (t : Text) : Section :=
  ofRole (Text.join ['\n'] (Text.verseLines t)) role

/-- The lines of a block are the verse lines of its text. -/
theorem lines_block (role : Role) (t : Text) : (block role t).lines = Text.verseLines t := by
  cases role <;> exact Text.verseLines_join fun _ h => Text.isVerseLine_of_mem h

/-- A text that is not blank leaves its block. -/
theorem ofText_eq_block {t : Text} (h : Text.verseLines t ≠ []) (role : Role) :
    ofText role t = [block role t] := by
  rw [ofText]
  split
  · next hnil => exact absurd hnil h
  · rfl

namespace Reading

/-- Closing the open section puts it behind the closed ones. -/
theorem reverse_closed_flush (r : Reading) :
    r.flush.closed.reverse = r.closed.reverse ++ r.pending.toList := by
  cases h : r.pending <;> simp [flush, h]

/-- Lines are added to an open section one below the other. -/
theorem foldl_addLine_open (lines : List Text) (role : Role) (s : Section)
    (closed : List Section) :
    lines.foldl addLine ⟨role, some s, closed⟩ =
      ⟨role, some { s with content := s.content ++ lines.flatMap ('\n' :: ·) }, closed⟩ := by
  induction lines generalizing s with
  | nil => simp
  | cons line lines ih =>
      rw [List.foldl_cons, addLine, ih]
      simp

/-- Without an open section, a plain text opens the section that it leaves. -/
theorem step_text (role : Role) (closed : List Section) (t : Text) :
    step ⟨role, none, closed⟩ (.text t) = ⟨role, (ofText role t).head?, closed⟩ := by
  rw [step, ofText]
  cases Text.verseLines t with
  | nil => rfl
  | cons line lines =>
      rw [List.foldl_cons, addLine, foldl_addLine_open]
      simp only [List.head?_cons, Text.join_newline_cons]
      cases role <;> rfl

/-- What was closed, what is open, and what the remaining segments leave are the sections that a
reading ends with. Behind an open section there has to be a marker. -/
theorem finish_foldl_step {segments : List Segment} (h : Segment.Alternating segments)
    (r : Reading) (hopen : ∀ t rest, segments = .text t :: rest → r.pending = none) :
    (segments.foldl step r).finish =
      r.closed.reverse ++ r.pending.toList ++ sectionsFrom r.role segments := by
  induction segments generalizing r with
  | nil => simp [finish, reverse_closed_flush, sectionsFrom]
  | cons s segments ih =>
      have hrest : Segment.Alternating segments := List.IsChain.of_cons h
      cases s with
      | text t =>
          obtain ⟨role, pending, closed⟩ := r
          obtain rfl : pending = none := hopen t segments rfl
          have hlist : (ofText role t).head?.toList = ofText role t := by
            rw [ofText]
            split <;> rfl
          rw [List.foldl_cons, step_text, ih hrest, sectionsFrom, hlist]
          · simp
          · -- The section that the text opened is closed by the marker that has to follow.
            rintro u rest rfl
            simp [Segment.Alternating, Segment.marker?] at h
      | marker m =>
          rw [List.foldl_cons, step, sectionsFrom]
          cases m.style? with
          | some style =>
              rw [ih hrest _ fun _ _ _ => rfl]
              simp [reverse_closed_flush]
          | none =>
              rw [ih hrest _ fun _ _ _ => rfl]
              simp [reverse_closed_flush]

end Reading

/-- The sections of a text with markers are what its segments mean, where text in front of every
marker is aligned right. -/
theorem parse_eq_sectionsFrom {t : Text} (h : Segment.markers t ≠ []) :
    parse t = sectionsFrom (.aligned .right) (Segment.lex t) := by
  have hany : ((Segment.lex t).any fun s => s.marker?.isSome) = true := by
    rw [Segment.any_marker?_eq]
    simpa [Segment.markers] using h
  rw [parse]
  simp only [hany, if_true]
  rw [ofSegments, Reading.finish_foldl_step (Segment.alternating_lex t) _ (fun _ _ _ => rfl)]
  rfl

/-- The sections of a text without markers are its paragraphs. -/
theorem parse_eq_paragraphs {t : Text} (h : Segment.markers t = []) :
    parse t = (Text.paragraphs t).map fun p => verse p .right := by
  have hany : ((Segment.lex t).any fun s => s.marker?.isSome) = false := by
    rw [Segment.any_marker?_eq]
    simpa [Segment.markers] using h
  rw [parse]
  simp only [hany]
  rfl

end Section

end MarkedVerse
