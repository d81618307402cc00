import MarkedVerse.Proofs.ParagraphBreaks

/-!
# The last template wins

What a template writes into a text is found again by the next one. `last_template_wins` says that a
second template overwrites the first, whether the first one restyled breaks or inserted them, and
that the same template twice is the same as once.
-/

namespace MarkedVerse

namespace Segment

/-- A text in front of segments stays when they are restyled. -/
theorem restyle_consText (p : Pattern) (index : Nat) (t : Text) (segments : List Segment) :
    restyle p index (consText t segments) = consText t (restyle p index segments) := by
  have hchar : ∀ c later, consChar c (restyle p index later) =
      restyle p index (consChar c later) := by
    intro c later
    match later with
    | [] => rfl
    | .text u :: later => rfl
    | .marker m :: later =>
        by_cases hm : m.isBreak <;> simp [consChar, restyle, hm]
  exact (List.foldr_hom (restyle p index) hchar).symm

/-- Segments without breaks in front of segments stay as they are when these are restyled. -/
theorem flatMap_source_restyle_glue (p : Pattern) (index : Nat) {segments : List Segment}
    (h : ∀ m ∈ segments.filterMap marker?, m.isBreak = false) (later : List Segment) :
    (restyle p index (glue segments later)).flatMap source =
      segments.flatMap source ++ (restyle p index later).flatMap source := by
  fun_induction glue segments later with
  | case1 later => rfl
  | case2 later t => simp [restyle_consText, source]
  | case3 s segments later _ ih =>
      obtain ⟨hs, hrest⟩ := free_cons h
      cases s with
      | text t => simp [restyle, ih hrest]
      | marker m =>
          have hm : m.isBreak = false := hs
          simp [restyle, hm, ih hrest]

/-- Segments without breaks stay as they are. -/
theorem restyle_eq_self (p : Pattern) (index : Nat) {segments : List Segment}
    (h : ∀ m ∈ segments.filterMap marker?, m.isBreak = false) :
    restyle p index segments = segments := by
  induction segments with
  | nil => rfl
  | cons s segments ih =>
      obtain ⟨hs, hrest⟩ := free_cons h
      cases s with
      | text t => rw [restyle, ih hrest]
      | marker m =>
          have hm : m.isBreak = false := hs
          simp [restyle, hm, ih hrest]

/-- Of two patterns the last one counts. -/
theorem restyle_restyle (p q : Pattern) (index : Nat) (segments : List Segment) :
    restyle q index (restyle p index segments) = restyle q index segments := by
  induction segments generalizing index with
  | nil => rfl
  | cons s segments ih =>
      cases s with
      | text t => rw [restyle, restyle, restyle, ih]
      | marker m =>
          by_cases hm : m.isBreak <;> simp [restyle, hm, ih]

end Segment

namespace Template

open Segment

/-- The number of breaks that a template restyled or inserted. -/
def Mode.breaks : Mode → Nat
  | restyle markers => markers
  | insert breaks => breaks

variable {p q : Pattern} {t : Text}

/-- Restyling inserted breaks is inserting those of the other pattern. -/
theorem restyle_insertedAfter {index : Nat} {paragraph : Text} {rest : List Text}
    (h : ∀ r ∈ paragraph :: rest, breakMarkers r = []) :
    (Segment.restyle q index (lex (paragraph ++ insertedAfter p index rest))).flatMap source =
      paragraph ++ insertedAfter q index rest := by
  have hfree := free_lex (h paragraph List.mem_cons_self)
  induction rest generalizing paragraph index with
  | nil =>
      rw [insertedAfter, List.append_nil, restyle_eq_self q index hfree, flatMap_source_lex]
      exact (List.append_nil _).symm
  | cons next rest ih =>
      have hnext : ∀ r ∈ next :: rest, breakMarkers r = [] :=
        fun r hr => h r (List.mem_cons_of_mem _ hr)
      have hrest : (Segment.restyle q (index + 1) (lex (next ++
          insertedAfter p (index + 1) rest))).flatMap source = _ :=
        ih hnext (free_lex (hnext next List.mem_cons_self))
      rw [lex_append_insertedAfter, flatMap_source_restyle_glue q index hfree,
        flatMap_source_lex]
      simp [Segment.restyle, restyle_consText, hrest, source, insertedAfter]

/-- A pattern that could be applied has styles. -/
theorem styles_ne_nil_of_apply {outcome : Outcome} (h : apply t p = .ok outcome) :
    p.styles ≠ [] := by
  intro hnil
  rw [apply, Pattern.validate, Pattern.isUsable, hnil] at h
  cases h

/-- After a template, another one finds all breaks and writes what it would have written at once. -/
theorem apply_after {y : Text} {mode : Mode} (hq : q.styles ≠ [])
    (h : apply t p = .ok ⟨y, mode⟩) :
    ∃ z, apply t q = .ok ⟨z, mode⟩ ∧ apply y q = .ok ⟨z, .restyle mode.breaks⟩ := by
  have hp := styles_ne_nil_of_apply h
  by_cases hbreaks : breakMarkers t = []
  · -- Both templates insert, and the second one finds what the first one inserted.
    rw [apply_eq_insertBreaks hp hbreaks] at h
    rw [apply_eq_insertBreaks hq hbreaks]
    match hparagraphs : Text.paragraphs t with
    | [] | [_] => simp [insertBreaks, hparagraphs] at h
    | first :: second :: rest =>
        have hfree : ∀ r ∈ first :: second :: rest, breakMarkers r = [] :=
          fun r hr => breakMarkers_of_mem_paragraphs hbreaks (hparagraphs ▸ hr)
        rw [insertBreaks_eq_ok hparagraphs] at h ⊢
        cases h
        have hlength : (breakMarkers (first ++ insertedAfter p 0 (second :: rest))).length =
            rest.length + 1 := by
          rw [breakMarkers_insertedAfter hfree, List.length_map, List.length_range',
            List.length_cons]
        have hne : breakMarkers (first ++ insertedAfter p 0 (second :: rest)) ≠ [] :=
          List.ne_nil_of_length_pos (by omega)
        refine ⟨_, rfl, ?_⟩
        rw [apply_eq_restyle hq hne, restyle_insertedAfter hfree, hlength, Mode.breaks]
  · -- Both templates restyle the same breaks.
    rw [apply_eq_restyle hp hbreaks] at h
    cases h
    have hlength : (breakMarkers ((Segment.restyle p 0 (lex t)).flatMap source)).length =
        (breakMarkers t).length := by
      rw [breakMarkers, markers, lex_restyle, breaks_restyle, List.length_map,
        List.length_range', breakMarkers, markers]
    have hpos : 0 < (breakMarkers t).length := List.length_pos_iff.2 hbreaks
    have hne : breakMarkers ((Segment.restyle p 0 (lex t)).flatMap source) ≠ [] :=
      List.ne_nil_of_length_pos (by omega)
    refine ⟨_, apply_eq_restyle hq hbreaks, ?_⟩
    rw [apply_eq_restyle hq hne, lex_restyle, restyle_restyle, hlength, Mode.breaks]

end Template

/-- When a template was applied to a text, any template with styles can be applied to the result.
It restyles all breaks that the first one restyled or inserted, and what it writes is what it would
have written on the text itself. So the same template again changes nothing. -/
theorem last_template_wins {p q : Pattern} (hq : q.styles ≠ []) {t y : Text}
    {mode : Template.Mode} (h : Template.apply t p = .ok ⟨y, mode⟩) :
    (∃ z, Template.apply t q = .ok ⟨z, mode⟩ ∧
      Template.apply y q = .ok ⟨z, .restyle mode.breaks⟩) ∧
    Template.apply y p = .ok ⟨y, .restyle mode.breaks⟩ := by
  refine ⟨Template.apply_after hq h, ?_⟩
  obtain ⟨z, hagain, hafter⟩ := Template.apply_after (Template.styles_ne_nil_of_apply h) h
  rw [h] at hagain
  cases hagain
  exact hafter

/-- Two paragraphs that end and start with bars: the break that the first template inserts is the
one that the second one restyles. -/
theorem last_template_wins_between_bars :
    let p : Pattern := ⟨"first", [.center], ""⟩
    let q : Pattern := ⟨"second", [.left, .right], ""⟩
    let t : Text := "||HEADER||one|\n\n|two".toList
    let y : Text := "||HEADER||one|\n\n||BREAK:center||\n\n|two".toList
    (q.styles ≠ [] ∧ Template.apply t p = .ok ⟨y, .insert 1⟩) ∧
    (∃ z, Template.apply t q = .ok ⟨z, .insert 1⟩ ∧ Template.apply y q = .ok ⟨z, .restyle 1⟩) ∧
    Template.apply y p = .ok ⟨y, .restyle 1⟩ := by
  intro p q t y
  have hq : q.styles ≠ [] := by decide
  have happly : Template.apply t p = .ok ⟨y, .insert 1⟩ := by decide +kernel
  exact ⟨⟨hq, happly⟩, last_template_wins hq happly⟩

end MarkedVerse
