import Mathlib.Data.List.Chain
import Mathlib.Data.List.Forall2
import MarkedVerse.Proofs.MarkerGrammar
import MarkedVerse.Segment

/-!
# How a text is cut into segments

`lex_append_newline` says that cutting is local to lines: the segments of a text are the segments
in front of a line feed and those from there on, glued where two plain texts meet; in the segments
of one text they never do (`alternating_lex`).
`Recut.lex_source` says that the cut depends on the plain texts alone: when every marker of a text
is replaced by some other marker, the result is cut at the same places.
-/

namespace MarkedVerse

namespace Segment

/-- Puts a text in front of segments, inside the first one when that is plain text. -/
def consText (t : Text) (segments : List Segment) : List Segment :=
  t.foldr consChar segments

/-- Segments after segments, where two plain texts that meet become one. -/
def glue : List Segment → List Segment → List Segment
  | [], later => later
  | [.text t], later => consText t later
  | s :: segments, later => s :: glue segments later

@[simp]
theorem marker?_text (t : Text) : (text t).marker? = none :=
  rfl

@[simp]
theorem marker?_marker (m : Marker) : (marker m).marker? = some m :=
  rfl

/-! ## Steps of the cut -/

@[simp]
theorem lex_nil : lex [] = [] := by
  rw [lex]

/-- A marker at the front is a segment of its own. -/
theorem lex_of_at? {t rest : Text} {m : Marker} (h : Marker.at? t = some (m, rest)) :
    lex t = .marker m :: lex rest := by
  cases t with
  | nil => simp [Marker.at?, Marker.breakWord, Marker.headerWord, Text.dropLiteral?] at h
  | cons c t =>
      rw [lex]
      split
      · next m' rest' h' =>
          obtain ⟨rfl, rfl⟩ : m' = m ∧ rest' = rest := by simpa [h'] using h
          rfl
      · next h' => simp [h'] at h

/-- A character at which no marker starts belongs to a plain text. -/
theorem lex_of_at?_eq_none {c : Char} {t : Text} (h : Marker.at? (c :: t) = none) :
    lex (c :: t) = consChar c (lex t) := by
  rw [lex]
  split
  · next h' => simp [h'] at h
  · rfl

/-- A written marker is a segment of its own, whatever follows it. -/
theorem lex_source_append {m : Marker} (h : m.WellFormed) (t : Text) :
    lex (m.source ++ t) = .marker m :: lex t :=
  lex_of_at? (h.at?_source_append t)

/-- A character that is no bar belongs to a plain text. -/
theorem lex_cons_of_ne_bar {c : Char} (h : c ≠ '|') (t : Text) :
    lex (c :: t) = consChar c (lex t) :=
  lex_of_at?_eq_none (Marker.at?_cons_eq_none h t)

/-- A text without bars in front of a text is plain text. -/
theorem lex_append_of_bar_not_mem {t : Text} (h : '|' ∉ t) (u : Text) :
    lex (t ++ u) = consText t (lex u) := by
  induction t with
  | nil => rfl
  | cons c t ih =>
      have hc : c ≠ '|' := fun heq => h (by simp [heq])
      have ht : '|' ∉ t := fun hmem => h (List.mem_cons_of_mem _ hmem)
      rw [List.cons_append, lex_cons_of_ne_bar hc, ih ht]
      rfl

/-- A character in front of segments leaves their markers alone. -/
theorem marker_mem_consChar {c : Char} {m : Marker} {segments : List Segment} :
    .marker m ∈ consChar c segments ↔ .marker m ∈ segments := by
  unfold consChar
  split <;> simp

/-- Every marker of a text is well formed. -/
theorem wellFormed_of_mem_lex {t : Text} {m : Marker} (h : .marker m ∈ lex t) :
    m.WellFormed := by
  fun_induction lex t with
  | case1 => simp at h
  | case2 c t first rest hread ih =>
      rcases List.mem_cons.1 h with heq | h
      · cases heq
        exact Marker.wellFormed_of_at? hread
      · exact ih h
  | case3 c t _ ih => exact ih (marker_mem_consChar.1 h)

/-! ## Neighbours -/

/-- Of two neighbours, one is a marker. -/
def Alternating (segments : List Segment) : Prop :=
  segments.IsChain fun a b => a.marker?.isSome ∨ b.marker?.isSome

/-- Plain texts that met would be one. -/
theorem Alternating.consChar {segments : List Segment} (h : Alternating segments) (c : Char) :
    Alternating (consChar c segments) := by
  match segments, h with
  | [], _ => exact .singleton _
  | .text t :: [], _ => exact .singleton _
  | .text t :: s :: segments, .cons_cons hfirst hrest => exact .cons_cons hfirst hrest
  | .marker m :: segments, h => exact .cons_cons (.inr rfl) h

/-- Two plain texts never stand side by side. -/
theorem alternating_lex (t : Text) : Alternating (lex t) := by
  fun_induction lex t with
  | case1 => exact .nil
  | case2 c t m rest _ ih =>
      cases hrest : lex rest with
      | nil => exact .singleton _
      | cons s segments => exact .cons_cons (.inl rfl) (hrest ▸ ih)
  | case3 c t _ ih => exact ih.consChar c

/-! ## Gluing -/

/-- A text in front of a plain text is part of it. -/
@[simp]
theorem consText_text_cons (t u : Text) (segments : List Segment) :
    consText t (.text u :: segments) = .text (t ++ u) :: segments := by
  induction t with
  | nil => rfl
  | cons c t ih => rw [consText, List.foldr_cons, ← consText, ih, consChar, List.cons_append]

/-- A character in front of glued segments goes in front of the first ones. -/
theorem consChar_glue (c : Char) (segments later : List Segment) :
    consChar c (glue segments later) = glue (consChar c segments) later := by
  match segments with
  | [] => rfl
  | [.text t] => rfl
  | .text t :: s :: segments => rfl
  | .marker m :: segments => rfl

/-- A marker in front of glued segments stays in front. -/
@[simp]
theorem glue_marker_cons (m : Marker) (segments later : List Segment) :
    glue (.marker m :: segments) later = .marker m :: glue segments later :=
  rfl

/-- When no marker that starts in a text reaches into what follows, the two are cut separately. -/
theorem lex_append {u : Text}
    (h : ∀ t, Marker.at? t = none → Marker.at? (t ++ u) = none) (t : Text) :
    lex (t ++ u) = glue (lex t) (lex u) := by
  fun_induction lex t with
  | case1 => rfl
  | case2 c t m rest hread ih =>
      rw [lex_of_at? (Marker.at?_append hread u), ih, glue_marker_cons]
  | case3 c t hread ih =>
      have hnone : Marker.at? (c :: (t ++ u)) = none := h _ hread
      rw [List.cons_append, lex_of_at?_eq_none hnone, ih, consChar_glue]

/-- The segments of a text are those in front of a line feed and those from there on. -/
theorem lex_append_newline (t u : Text) :
    lex (t ++ '\n' :: u) = glue (lex t) (lex ('\n' :: u)) :=
  lex_append (fun _ hread => Marker.at?_newline_eq_none hread u) t

/-! ## Written forms -/

/-- A text in front of segments is a text in front of their written forms. -/
@[simp]
theorem flatMap_source_consText (t : Text) (segments : List Segment) :
    (consText t segments).flatMap source = t ++ segments.flatMap source := by
  induction t with
  | nil => rfl
  | cons c t ih =>
      rw [consText, List.foldr_cons, flatMap_source_consChar, ← consText, ih]
      rfl

/-! ## Markers -/

@[simp]
theorem filterMap_marker?_consChar (c : Char) (segments : List Segment) :
    (consChar c segments).filterMap marker? = segments.filterMap marker? := by
  unfold consChar
  split <;> simp [List.filterMap_cons]

@[simp]
theorem filterMap_marker?_consText (t : Text) (segments : List Segment) :
    (consText t segments).filterMap marker? = segments.filterMap marker? := by
  induction t with
  | nil => rfl
  | cons c t ih => rw [consText, List.foldr_cons, filterMap_marker?_consChar, ← consText, ih]

/-- A text has markers exactly when some segment is one. -/
theorem any_marker?_eq {segments : List Segment} :
    (segments.any fun s => s.marker?.isSome) = !(segments.filterMap marker?).isEmpty := by
  induction segments with
  | nil => rfl
  | cons s segments ih => cases s <;> simp [List.filterMap_cons, ih]

/-- Gluing keeps all markers. -/
@[simp]
theorem filterMap_marker?_glue (segments later : List Segment) :
    (glue segments later).filterMap marker? =
      segments.filterMap marker? ++ later.filterMap marker? := by
  fun_induction glue segments later with
  | case1 => rfl
  | case2 t => simp [List.filterMap_cons]
  | case3 s segments later _ ih => cases s <;> simp [List.filterMap_cons, ih]

/-- The markers of a text are those in front of a line feed and those behind it. -/
theorem markers_append_newline (t u : Text) :
    markers (t ++ '\n' :: u) = markers t ++ markers u := by
  rw [markers, lex_append_newline, filterMap_marker?_glue,
    lex_cons_of_ne_bar (by decide), filterMap_marker?_consChar, markers, markers]

/-- A text without bars in front of a text has no part in its markers. -/
theorem markers_append_left {t : Text} (h : '|' ∉ t) (u : Text) :
    markers (t ++ u) = markers u := by
  rw [markers, lex_append_of_bar_not_mem h, filterMap_marker?_consText, markers]

/-- A text without bars has no markers. -/
theorem markers_eq_nil_of_bar_not_mem {t : Text} (h : '|' ∉ t) : markers t = [] := by
  have hfront := markers_append_left h []
  simpa [markers] using hfront

/-- A text without bars behind a text has no part in its markers. -/
theorem markers_append_right (t : Text) {u : Text} (h : '|' ∉ u) :
    markers (t ++ u) = markers t := by
  have hu := markers_eq_nil_of_bar_not_mem h
  rw [markers] at hu
  have hread : ∀ s, Marker.at? s = none → Marker.at? (s ++ u) = none :=
    fun s hs => Marker.at?_append_eq_none_of_bar_not_mem hs h
  rw [markers, lex_append hread, filterMap_marker?_glue, hu, List.append_nil, markers]

/-- A text without markers is one plain text. -/
theorem lex_eq_text {t : Text} (ht : t ≠ []) (h : markers t = []) : lex t = [.text t] := by
  have hsource := flatMap_source_lex t
  have halternating := alternating_lex t
  rw [markers] at h
  cases hlex : lex t with
  | nil =>
      rw [hlex] at hsource
      exact absurd hsource.symm ht
  | cons s rest =>
      cases s with
      | marker m => simp [hlex] at h
      | text u =>
          cases rest with
          | nil =>
              rw [hlex] at hsource
              rw [← hsource]
              simp [source]
          | cons next rest =>
              -- Two texts do not stand side by side, and there is no marker.
              rw [hlex] at halternating
              cases next with
              | text v => simp [Alternating] at halternating
              | marker m => simp [hlex] at h

/-! ## Replacing markers -/

/-- The same plain text, or a well-formed marker in place of a marker. -/
inductive Recut : Segment → Segment → Prop where
  | text (t : Text) : Recut (.text t) (.text t)
  | marker (m : Marker) {m' : Marker} (h : m'.WellFormed) : Recut (.marker m) (.marker m')

/-- A character in front of segments stays there when markers are replaced. -/
theorem Recut.of_consChar {c : Char} {segments later : List Segment}
    (h : List.Forall₂ Recut (consChar c segments) later) :
    ∃ rest, later = consChar c rest ∧ List.Forall₂ Recut segments rest := by
  match segments, h with
  | .text t :: segments, .cons (.text _) h => exact ⟨_ :: _, rfl, .cons (.text t) h⟩
  | [], .cons (.text _) .nil => exact ⟨[], rfl, .nil⟩
  | .marker m :: segments, .cons (.text _) (.cons (.marker _ hm) h) =>
      exact ⟨_ :: _, rfl, .cons (.marker m hm) h⟩

/-- Whether a marker starts in a plain text does not depend on which markers follow. -/
theorem Recut.at?_eq_none {segments later : List Segment}
    (h : List.Forall₂ Recut segments later) {t : Text} (ht : t ≠ [])
    (hread : Marker.at? (t ++ segments.flatMap source) = none) :
    Marker.at? (t ++ later.flatMap source) = none := by
  induction h generalizing t with
  | nil => exact hread
  | cons hfirst _ ih =>
      cases hfirst with
      | text u =>
          rw [List.flatMap_cons, ← List.append_assoc] at hread ⊢
          exact ih (by simp [ht]) hread
      | marker m _ =>
          rw [List.flatMap_cons, source, Marker.source_eq] at hread ⊢
          exact Marker.at?_bars_eq_none ht hread _

/-- When every marker of a text is replaced by some marker, the result is cut at the same places:
the segments read back are the segments that were written. -/
theorem Recut.lex_source {t : Text} {segments : List Segment}
    (h : List.Forall₂ Recut (lex t) segments) : lex (segments.flatMap source) = segments := by
  fun_induction lex t generalizing segments with
  | case1 =>
      cases h
      exact lex_nil
  | case2 c t m rest _ ih =>
      cases h with
      | cons hfirst hrest =>
          cases hfirst with
          | marker _ hm => rw [List.flatMap_cons, source, lex_source_append hm, ih hrest]
  | case3 c t hread ih =>
      -- No marker started here, and up to the next one, which begins with bars as before, the
      -- text is the same.
      obtain ⟨rest, rfl, hrest⟩ := Recut.of_consChar h
      have hnone : Marker.at? (c :: rest.flatMap source) = none :=
        Recut.at?_eq_none (t := [c]) hrest (by simp) (by simpa [flatMap_source_lex] using hread)
      rw [flatMap_source_consChar, lex_of_at?_eq_none hnone, ih hrest]

end Segment

end MarkedVerse
