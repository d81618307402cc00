import MarkedVerse.Proofs.Lexing

/-!
# Well-cut segments

Segments are well cut when markers and plain texts are told apart in the only possible way: every
marker is well formed, no marker starts inside a plain text, and plain texts are neither empty nor
side by side. `lex_eq_iff` says that the segments of a text are the well-cut segments whose written
forms make it up, so there is exactly one way to cut a text.
-/

namespace MarkedVerse

namespace Segment

/-- No marker starts inside a text that is followed by `behind`, not even one that ends there. -/
def NoMarkerIn (t behind : Text) : Prop :=
  ∀ front rest, t = front ++ rest → rest ≠ [] → Marker.at? (rest ++ behind) = none

/-- Segments in which markers and plain texts are told apart. -/
structure WellCut (segments : List Segment) : Prop where
  wellFormed : ∀ m, .marker m ∈ segments → m.WellFormed
  nonempty : ∀ t, .text t ∈ segments → t ≠ []
  alternating : Alternating segments
  complete : ∀ before t behind, segments = before ++ .text t :: behind →
    NoMarkerIn t (behind.flatMap source)

/-! ## Every cut is one -/

/-- No marker starts inside a text when none starts at its first character or inside the rest. -/
theorem NoMarkerIn.cons {c : Char} {t behind : Text} (hread : Marker.at? (c :: t ++ behind) = none)
    (h : NoMarkerIn t behind) : NoMarkerIn (c :: t) behind := by
  intro front rest heq hrest
  cases front with
  | nil =>
      obtain rfl : c :: t = rest := heq
      exact hread
  | cons d front =>
      obtain ⟨-, heq⟩ := List.cons.inj heq
      exact h front rest heq hrest

/-- No marker starts inside the empty text. -/
theorem noMarkerIn_nil (behind : Text) : NoMarkerIn [] behind := by
  intro front rest heq hrest
  exact absurd (List.append_eq_nil_iff.1 heq.symm).2 hrest

/-- What goes for later segments goes for all when a marker stands in front. -/
theorem complete_marker_cons {m : Marker} {segments : List Segment}
    (h : ∀ before t behind, segments = before ++ .text t :: behind →
      NoMarkerIn t (behind.flatMap source)) {before behind : List Segment} {t : Text}
    (heq : .marker m :: segments = before ++ .text t :: behind) :
    NoMarkerIn t (behind.flatMap source) := by
  cases before with
  | nil => cases heq
  | cons s before => exact h before t behind (List.cons.inj heq).2

/-- A character at which no marker starts goes in front of segments without hiding one. -/
theorem complete_consChar {c : Char} {segments : List Segment}
    (hread : Marker.at? (c :: segments.flatMap source) = none)
    (h : ∀ before t behind, segments = before ++ .text t :: behind →
      NoMarkerIn t (behind.flatMap source)) {before behind : List Segment} {t : Text}
    (heq : consChar c segments = before ++ .text t :: behind) :
    NoMarkerIn t (behind.flatMap source) := by
  unfold consChar at heq
  split at heq
  · next u segments =>
      cases before with
      | nil =>
          cases heq
          exact (h [] u _ rfl).cons hread
      | cons s before =>
          obtain ⟨-, heq⟩ := List.cons.inj heq
          exact h (.text u :: before) t behind (congrArg (.text u :: ·) heq)
  · cases before with
    | nil =>
        cases heq
        exact (noMarkerIn_nil _).cons hread
    | cons s before => exact h before t behind (List.cons.inj heq).2

/-- A character in front of segments does not make a plain text empty. -/
theorem text_ne_nil_consChar {c : Char} {segments : List Segment}
    (h : ∀ t, .text t ∈ segments → t ≠ []) {t : Text} (ht : .text t ∈ consChar c segments) :
    t ≠ [] := by
  unfold consChar at ht
  split at ht
  · rcases List.mem_cons.1 ht with heq | ht
    · cases heq
      exact List.cons_ne_nil _ _
    · exact h t (List.mem_cons_of_mem _ ht)
  · rcases List.mem_cons.1 ht with heq | ht
    · cases heq
      exact List.cons_ne_nil _ _
    · exact h t ht

/-- A plain text of a text is not empty. -/
theorem text_ne_nil_of_mem_lex {t u : Text} (h : .text u ∈ lex t) : u ≠ [] := by
  fun_induction lex t generalizing u with
  | case1 => cases h
  | case2 c t m rest _ ih =>
      rcases List.mem_cons.1 h with heq | h
      · cases heq
      · exact ih h
  | case3 c t _ ih => exact text_ne_nil_consChar (fun _ hu => ih hu) h

/-- Reading a text from left to right misses no marker. -/
theorem complete_lex {t u : Text} {before behind : List Segment}
    (h : lex t = before ++ .text u :: behind) : NoMarkerIn u (behind.flatMap source) := by
  fun_induction lex t generalizing before u behind with
  | case1 => simp at h
  | case2 c t m rest _ ih => exact complete_marker_cons (fun _ _ _ heq => ih heq) h
  | case3 c t hread ih =>
      rw [← flatMap_source_lex t] at hread
      exact complete_consChar hread (fun _ _ _ heq => ih heq) h

/-- A text is well cut. -/
theorem wellCut_lex (t : Text) : WellCut (lex t) where
  wellFormed _ := wellFormed_of_mem_lex
  nonempty _ := text_ne_nil_of_mem_lex
  alternating := alternating_lex t
  complete _ _ _ := complete_lex

/-! ## There is only one -/

/-- A text in which no marker starts is plain text. -/
theorem lex_append_of_noMarkerIn {t behind : Text} (h : NoMarkerIn t behind) :
    lex (t ++ behind) = consText t (lex behind) := by
  induction t with
  | nil => rfl
  | cons c t ih =>
      have hrest : NoMarkerIn t behind :=
        fun front rest heq => h (c :: front) rest (congrArg (c :: ·) heq)
      have hread : Marker.at? (c :: (t ++ behind)) = none := h [] (c :: t) rfl (by simp)
      rw [List.cons_append, lex_of_at?_eq_none hread, ih hrest]
      rfl

/-- In front of a marker or of nothing, a text is a segment of its own. -/
theorem consText_eq_cons {t : Text} (ht : t ≠ []) {segments : List Segment}
    (h : Alternating (.text t :: segments)) : consText t segments = .text t :: segments := by
  -- The last character opens the segment, and the others go into it.
  have hopen : ∀ c, consChar c segments = .text [c] :: segments := by
    intro c
    match segments, h with
    | [], _ => rfl
    | .marker m :: segments, _ => rfl
    | .text u :: segments, h => simp [Alternating] at h
  obtain ⟨front, c, rfl⟩ := (List.eq_nil_or_concat t).resolve_left ht
  rw [List.concat_eq_append, consText, List.foldr_append, List.foldr_cons, List.foldr_nil, hopen]
  exact consText_text_cons front [c] segments

/-- Later segments of well-cut ones are well cut. -/
theorem WellCut.tail {s : Segment} {segments : List Segment} (h : WellCut (s :: segments)) :
    WellCut segments where
  wellFormed m hm := h.wellFormed m (List.mem_cons_of_mem _ hm)
  nonempty t ht := h.nonempty t (List.mem_cons_of_mem _ ht)
  alternating := List.IsChain.of_cons h.alternating
  complete before t behind heq := h.complete (s :: before) t behind (congrArg (s :: ·) heq)

/-- Well-cut segments are read back from the text that they make up. -/
theorem WellCut.lex_source {segments : List Segment} (h : WellCut segments) :
    lex (segments.flatMap source) = segments := by
  induction segments with
  | nil => exact lex_nil
  | cons s segments ih =>
      have hrest := ih h.tail
      cases s with
      | text t =>
          have hplain := h.complete [] t segments rfl
          rw [List.flatMap_cons, source, lex_append_of_noMarkerIn hplain, hrest]
          exact consText_eq_cons (h.nonempty t List.mem_cons_self) h.alternating
      | marker m =>
          rw [List.flatMap_cons, source,
            lex_source_append (h.wellFormed m List.mem_cons_self), hrest]

/-- The segments of a text are the well-cut ones that make it up. -/
theorem lex_eq_iff {t : Text} {segments : List Segment} :
    lex t = segments ↔ WellCut segments ∧ segments.flatMap source = t := by
  constructor
  · rintro rfl
    exact ⟨wellCut_lex t, flatMap_source_lex t⟩
  · rintro ⟨h, rfl⟩
    exact h.lex_source

end Segment

end MarkedVerse
