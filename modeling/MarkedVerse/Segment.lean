import MarkedVerse.Marker
import MarkedVerse.Text.Gap

/-!
# Segments of a marked text

A marked text is read once from left to right into plain texts and markers. Nothing is lost: the
written forms of the segments, one after the other, are the text (`flatMap_source_lex`).
-/

namespace MarkedVerse

/-- A piece of marked text. -/
inductive Segment where
  | text (t : Text)
  | marker (m : Marker)
  deriving DecidableEq, Repr

namespace Segment

/-- The written form of a segment. -/
def source : Segment → Text
  | text t => t
  | marker m => m.source

/-- The marker, when the segment is one. -/
def marker? : Segment → Option Marker
  | text _ => none
  | marker m => some m

/-- Puts a character in front of segments, inside the first one when that is plain text. -/
def consChar (c : Char) : List Segment → List Segment
  | text t :: segments => text (c :: t) :: segments
  | segments => text [c] :: segments

/-- The segments of a text, in order. A marker starts as early as it can, and two plain texts
never stand side by side. -/
def lex : Text → List Segment
  | [] => []
  | c :: t =>
    match _h : Marker.at? (c :: t) with
    | some (m, rest) => marker m :: lex rest
    | none => consChar c (lex t)
  termination_by t => t.length
  decreasing_by
    · exact Marker.length_at? _h
    · simp

/-- The markers of a text, in order. -/
def markers (t : Text) : List Marker :=
  (lex t).filterMap marker?

/-- Some marker starts somewhere in the text. -/
def hasMarkers : Text → Bool
  | [] => false
  | c :: t => (Marker.at? (c :: t)).isSome || hasMarkers t

/-- The break markers of a text, in order. -/
def breakMarkers (t : Text) : List Marker :=
  (markers t).filter Marker.isBreak

/-- A segment with the place that it takes. -/
structure Placed where
  segment : Segment
  start : Nat
  stop : Nat
  deriving DecidableEq, Repr

/-- Adjacent segments with their places, the first one at `start`, when a segment is as long as
`size` says. -/
def placeFrom (size : Text → Nat) (start : Nat) : List Segment → List Placed
  | [] => []
  | s :: segments =>
    let stop := start + size s.source
    ⟨s, start, stop⟩ :: placeFrom size stop segments

/-- The segments of a text with their places, counted in bytes. -/
def spans (t : Text) : List Placed :=
  placeFrom Text.byteLength 0 (lex t)

/-- The break markers of a text with their places, counted in characters. -/
def breakPlaces (t : Text) : List Placed :=
  (placeFrom List.length 0 (lex t)).filter fun p => p.segment.marker?.any Marker.isBreak

/-- The text without its markers: each becomes a paragraph gap, long gaps become one blank line,
and blanks at the ends are dropped. -/
def strip (t : Text) : Text :=
  Text.trim (Text.collapseGaps ((lex t).flatMap fun
    | text s => s
    | marker _ => ['\n', '\n']))

/-- A character in front of segments is a character in front of their written forms. -/
@[simp]
theorem flatMap_source_consChar (c : Char) (segments : List Segment) :
    (consChar c segments).flatMap source = c :: segments.flatMap source := by
  unfold consChar
  split <;> simp [source]

/-- The written forms of the segments of a text, one after the other, are the text. -/
theorem flatMap_source_lex (t : Text) : (lex t).flatMap source = t := by
  fun_induction lex t with
  | case1 => rfl
  | case2 c t m rest h ih =>
    simp only [List.flatMap_cons, source, ih]
    exact Marker.source_append_of_at? h
  | case3 c t h ih => simp [ih]

end Segment

end MarkedVerse
