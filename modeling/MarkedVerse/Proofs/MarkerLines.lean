import MarkedVerse.Proofs.Places
import MarkedVerse.Proofs.VerseLines

/-!
# Markers and lines

No marker reaches past a line feed, so each line of a text can be read by itself: the markers that a
line holds in the text are those of the line alone (`markersOnLine_eq`), and another line in its
place leaves the markers of all others where they are on their lines
(`markers_are_local_to_lines`).
-/

namespace MarkedVerse

/-! ## Lines -/

namespace Text

/-- The byte at which a line of a text starts: each line in front of it takes its own bytes and that
of its line feed. -/
def lineStart (t : Text) (index : Nat) : Nat :=
  total (fun line => byteLength line + 1) ((splitOn '\n' t).take index)

/-- The text with another line in this place. A text without such a line stays as it is. -/
def setLine (t : Text) (index : Nat) (line : Text) : Text :=
  join ['\n'] ((splitOn '\n' t).set index line)

variable {line : Text}

/-- A line and what follows it are the first line and the further ones. -/
theorem splitOn_line (h : '\n' ∉ line) (t : Text) :
    splitOn '\n' (line ++ '\n' :: t) = line :: splitOn '\n' t := by
  rw [splitOn_eq, List.splitOn_append_cons_self, List.splitOn_eq_singleton h, splitOn_eq]
  rfl

/-- A text without a line feed is its only line. -/
theorem splitOn_of_newline_not_mem (h : '\n' ∉ line) : splitOn '\n' line = [line] := by
  rw [splitOn_eq, List.splitOn_eq_singleton h]

/-- The first line starts with the text. -/
@[simp]
theorem lineStart_zero (t : Text) : lineStart t 0 = 0 :=
  rfl

/-- Behind the first line, lines start as much further behind as it is long. -/
theorem lineStart_line_succ (h : '\n' ∉ line) (t : Text) (index : Nat) :
    lineStart (line ++ '\n' :: t) (index + 1) = lineStart t index + (byteLength line + 1) := by
  rw [lineStart, splitOn_line h, List.take_succ_cons, total, Nat.add_comm]
  rfl

/-- Behind the last line, there is room for one more line feed. -/
theorem lineStart_last_succ (h : '\n' ∉ line) (index : Nat) :
    lineStart line (index + 1) = byteLength line + 1 := by
  rw [lineStart, splitOn_of_newline_not_mem h, List.take_succ_cons, List.take_nil]
  rfl

/-- The lines of a text with another line are its own with the other one in its place. -/
theorem splitOn_setLine (h : '\n' ∉ line) (t : Text) (index : Nat) :
    splitOn '\n' (setLine t index line) = (splitOn '\n' t).set index line := by
  have hlines : ∀ piece ∈ splitOn '\n' t, '\n' ∉ piece := fun piece hpiece hmem =>
    forall_mem_splitOn.2 (fun _ _ hc => hc) piece hpiece _ hmem rfl
  have hne : splitOn '\n' t ≠ [] := splitOn_eq '\n' t ▸ List.splitOn_ne_nil '\n' t
  rw [setLine, splitOn_eq, join]
  refine List.splitOn_intercalate '\n' (fun piece hpiece => ?_) (by simpa using hne)
  rcases List.mem_or_eq_of_mem_set hpiece with hpiece | rfl
  · exact hlines piece hpiece
  · exact h

end Text

namespace Segment

/-! ## Two texts with a line feed between them -/

/-- The markers of two texts with a line feed between them are those of the first one and those of
the second one, which stand behind the line feed. -/
theorem placedMarkers_append_newline {size : Text → Nat} (hsize : IsSize size) (t u : Text) :
    placedMarkers size 0 (lex (t ++ '\n' :: u)) =
      placedMarkers size 0 (lex t) ++
        (placedMarkers size 0 (lex u)).map (Placed.shift (size t + size ['\n'])) := by
  have hbehind := placedMarkers_add size 0 (size t + size ['\n']) (lex u)
  rw [Nat.zero_add] at hbehind
  rw [lex_append_newline, placedMarkers_glue hsize, flatMap_source_lex, Nat.zero_add,
    lex_cons_of_ne_bar (by decide), placedMarkers_consChar hsize, hbehind]

/-- The markers of a text with their places, counted in bytes. -/
def markerSpans (t : Text) : List Placed :=
  (spans t).filter fun p => p.segment.marker?.isSome

theorem markerSpans_append_newline (t u : Text) :
    markerSpans (t ++ '\n' :: u) =
      markerSpans t ++ (markerSpans u).map (Placed.shift (t.byteLength + 1)) :=
  placedMarkers_append_newline Text.isSize_byteLength t u

theorem bounds_of_mem_markerSpans {t : Text} {p : Placed} (h : p ∈ markerSpans t) :
    p.start < p.stop ∧ p.stop ≤ t.byteLength :=
  bounds_of_mem_placedMarkers Text.isSize_byteLength h

/-- A marker ends in front of each line feed, or it starts behind it. -/
theorem marker_beside_newline {t front behind : Text} {p : Placed} (hp : p ∈ markerSpans t)
    (ht : t = front ++ '\n' :: behind) :
    p.stop ≤ front.byteLength ∨ front.byteLength + 1 ≤ p.start := by
  rw [ht, markerSpans_append_newline] at hp
  rcases List.mem_append.1 hp with hp | hp
  · exact .inl (bounds_of_mem_markerSpans hp).2
  · obtain ⟨q, -, rfl⟩ := List.mem_map.1 hp
    exact .inr (Nat.le_add_left _ _)

/-! ## The markers that a line holds -/

/-- The same segment so much further in front. -/
def Placed.unshift (offset : Nat) (p : Placed) : Placed :=
  ⟨p.segment, p.start - offset, p.stop - offset⟩

/-- The markers of a text between the start of this line and its end, with their places counted from
the start of the line. -/
def markersOnLine (t : Text) (index : Nat) : List Placed :=
  ((markerSpans t).filter fun p =>
    t.lineStart index ≤ p.start && p.stop < t.lineStart (index + 1)).map
      (Placed.unshift (t.lineStart index))

variable {line t : Text}

/-- A line that starts with the text holds the markers that end in front of its line feed. -/
theorem markersOnLine_zero (h : Text.lineStart t 1 = line.byteLength + 1) :
    markersOnLine t 0 = (markerSpans t).filter fun p => p.stop < line.byteLength + 1 := by
  rw [markersOnLine, h, Text.lineStart_zero]
  simp only [Nat.zero_le, decide_true, Bool.true_and]
  exact List.map_id _

/-- All markers of a text end in front of a line feed behind it. -/
theorem filter_markerSpans (t : Text) :
    ((markerSpans t).filter fun p => p.stop < t.byteLength + 1) = markerSpans t := by
  refine List.filter_eq_self.2 fun p hp => ?_
  have hbounds := bounds_of_mem_markerSpans hp
  exact decide_eq_true (by omega)

/-- No marker of a text starts behind it. -/
theorem filter_markerSpans_behind {start : Nat} (h : t.byteLength ≤ start) (stop : Nat) :
    ((markerSpans t).filter fun p => start ≤ p.start && p.stop < stop) = [] := by
  refine List.filter_eq_nil_iff.2 fun p hp hinside => ?_
  have hbounds := bounds_of_mem_markerSpans hp
  rw [Bool.and_eq_true, decide_eq_true_eq] at hinside
  omega

/-- The first line of several holds its own markers. -/
theorem markersOnLine_line_zero (h : '\n' ∉ line) (t : Text) :
    markersOnLine (line ++ '\n' :: t) 0 = markerSpans line := by
  have hstop : Text.lineStart (line ++ '\n' :: t) 1 = line.byteLength + 1 := by
    rw [Text.lineStart_line_succ h, Text.lineStart_zero, Nat.zero_add]
  have hlater : (((markerSpans t).map (Placed.shift (line.byteLength + 1))).filter fun p =>
      p.stop < line.byteLength + 1) = [] := by
    refine List.filter_eq_nil_iff.2 fun p hp hlt => ?_
    obtain ⟨q, -, rfl⟩ := List.mem_map.1 hp
    exact Nat.not_lt.2 (Nat.le_add_left _ _) (of_decide_eq_true hlt)
  rw [markersOnLine_zero hstop, markerSpans_append_newline, List.filter_append,
    filter_markerSpans, hlater, List.append_nil]

/-- The further lines hold what they would without the first one. -/
theorem markersOnLine_line_succ (h : '\n' ∉ line) (t : Text) (index : Nat) :
    markersOnLine (line ++ '\n' :: t) (index + 1) = markersOnLine t index := by
  have hfirst := filter_markerSpans_behind
    (show line.byteLength ≤ t.lineStart index + (line.byteLength + 1) by omega)
    (t.lineStart (index + 1) + (line.byteLength + 1))
  have hshift : Placed.unshift (t.lineStart index + (line.byteLength + 1)) ∘
      Placed.shift (line.byteLength + 1) = Placed.unshift (t.lineStart index) := by
    funext p
    simp only [Function.comp, Placed.unshift, Placed.shift, Nat.add_sub_add_right]
  rw [markersOnLine, markersOnLine, Text.lineStart_line_succ h, Text.lineStart_line_succ h,
    markerSpans_append_newline, List.filter_append, hfirst, List.nil_append, List.filter_map,
    List.map_map, hshift]
  refine congrArg _ (List.filter_congr fun p _ => ?_)
  simp only [Function.comp, Placed.shift, Nat.add_le_add_iff_right, Nat.add_lt_add_iff_right]

/-- A text without a line feed holds all its markers on its only line. -/
theorem markersOnLine_last_zero (h : '\n' ∉ line) :
    markersOnLine line 0 = markerSpans line := by
  rw [markersOnLine_zero (Text.lineStart_last_succ h 0), filter_markerSpans]

/-- Behind the last line there are no markers. -/
theorem markersOnLine_last_succ (h : '\n' ∉ line) (index : Nat) :
    markersOnLine line (index + 1) = [] := by
  rw [markersOnLine, Text.lineStart_last_succ h, Text.lineStart_last_succ h,
    filter_markerSpans_behind (Nat.le_succ _), List.map_nil]

/-- Each line of a text holds the markers that it has by itself. -/
theorem markersOnLine_eq (t : Text) (index : Nat) :
    markersOnLine t index = ((Text.splitOn '\n' t)[index]?.map markerSpans).getD [] := by
  induction t using Text.line_induction generalizing index with
  | last t h =>
      rw [Text.splitOn_of_newline_not_mem h]
      cases index with
      | zero => exact markersOnLine_last_zero h
      | succ index => exact markersOnLine_last_succ h index
  | line line t h ih =>
      rw [Text.splitOn_line h]
      cases index with
      | zero => exact markersOnLine_line_zero h t
      | succ index => rw [markersOnLine_line_succ h, ih t (Nat.le_refl _), List.getElem?_cons_succ]

/-- Another line in its place leaves the markers of all other lines alone. -/
theorem markersOnLine_setLine (h : '\n' ∉ line) (t : Text) {index other : Nat}
    (hother : other ≠ index) :
    markersOnLine (t.setLine index line) other = markersOnLine t other := by
  rw [markersOnLine_eq, markersOnLine_eq, Text.splitOn_setLine h,
    List.getElem?_set_ne (Ne.symm hother)]

end Segment

open Segment in
/-- The markers of two texts with a line feed between them are those of the first one, and then those
of the second one, which stand as many bytes further behind as the first one and the line feed take.
So every marker of a text ends in front of each line feed or starts behind it: what a line holds of
the markers of a text are its own markers, and when another line stands in its place, all other
lines hold the markers that they held, at the same places on the line. -/
theorem markers_are_local_to_lines :
    (∀ t u : Text, markerSpans (t ++ '\n' :: u) =
      markerSpans t ++ (markerSpans u).map (Placed.shift (t.byteLength + 1))) ∧
    (∀ t : Text, ∀ p ∈ markerSpans t, ∀ front behind, t = front ++ '\n' :: behind →
      p.stop ≤ front.byteLength ∨ front.byteLength + 1 ≤ p.start) ∧
    (∀ (t : Text) (index : Nat), markersOnLine t index =
      ((Text.splitOn '\n' t)[index]?.map markerSpans).getD []) ∧
    (∀ (t line : Text) (index : Nat), '\n' ∉ line → ∀ other, other ≠ index →
      markersOnLine (t.setLine index line) other = markersOnLine t other) := by
  refine ⟨markerSpans_append_newline, fun t p hp front behind ht => marker_beside_newline hp ht,
    markersOnLine_eq, ?_⟩
  intro t line index h other hother
  exact markersOnLine_setLine h t hother

open Segment in
/-- A break that is never finished stands in front of a line with a header. In place of the first line,
one that ends with two bars leaves the header alone. -/
theorem markers_are_local_to_lines_of_unfinished_break :
    let t : Text := "||BREAK:é\n||HEADER||\n||".toList
    ('\n' ∉ "a||".toList ∧ 1 ≠ 0) ∧ markersOnLine t 1 = [⟨.marker .header, 0, 10⟩] ∧
      markersOnLine (t.setLine 0 "a||".toList) 1 = [⟨.marker .header, 0, 10⟩] := by
  intro t
  have hline : '\n' ∉ "a||".toList := by decide
  obtain ⟨-, -, -, hedit⟩ := markers_are_local_to_lines
  have hheader : markersOnLine t 1 = [⟨.marker .header, 0, 10⟩] := by decide +kernel
  refine ⟨⟨hline, Nat.one_ne_zero⟩, hheader, ?_⟩
  rw [hedit t "a||".toList 0 hline 1 Nat.one_ne_zero, hheader]

end MarkedVerse
