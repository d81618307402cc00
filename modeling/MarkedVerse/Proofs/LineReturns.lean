import MarkedVerse.Proofs.Gaps
import MarkedVerse.Proofs.Lexing

/-!
# Returns in front of line feeds

`Text.Returned` relates a text without returns to the same text with returns in front of some of its
line feeds. Everything that reads a marked text meets such a return in its own way: a marker cannot
reach it, a gap takes it with its line feed, and trimming drops it at the end of a line. So both
texts have the same markers between related texts (`Segment.Returned.of_lex`), the same verse lines
(`Text.Returned.verseLines_eq`) and related paragraphs (`Text.Returned.paragraphs`).
-/

namespace MarkedVerse

namespace Text

/-- The text with a return in front of every line feed. -/
def withReturns (t : Text) : Text :=
  t.flatMap fun c => if c = '\n' then ['\r', '\n'] else [c]

/-- A line break is one more than the bare line breaks behind it. -/
theorem breakRun_bare {t rest : Text} (h : lineBreak? t = some rest) :
    breakRun (fun _ => false) t =
      ((breakRun (fun _ => false) rest).1 + 1, (breakRun (fun _ => false) rest).2) := by
  have hdrop : t.dropWhile (fun _ => false) = t := by cases t <;> rfl
  exact breakRun_of_lineBreak? (hdrop.symm ▸ h)

/-- Anything else is no bare line break. -/
theorem breakRun_bare_of_none {t : Text} (h : lineBreak? t = none) :
    breakRun (fun _ => false) t = (0, t) := by
  have hdrop : t.dropWhile (fun _ => false) = t := by cases t <;> rfl
  exact breakRun_of_none (hdrop.symm ▸ h)

/-- A character stays in front of what is left of a text, unless both are blank. -/
theorem trimEnd_cons (c : Char) (t : Text) :
    trimEnd (c :: t) = if trimEnd t = [] ∧ isBlank c = true then [] else c :: trimEnd t := by
  rw [trimEnd, trimEnd, List.reverse_cons, List.dropWhile_append]
  cases t.reverse.dropWhile isBlank with
  | nil => cases hc : isBlank c <;> simp [hc]
  | cons d behind => simp

/-- The second text is the first one with returns in front of some line feeds; the first one has no
return at all. -/
inductive Returned : Text → Text → Prop where
  | nil : Returned [] []
  | cons {c : Char} (hc : c ≠ '\r') {t u : Text} (h : Returned t u) : Returned (c :: t) (c :: u)
  | newline {t u : Text} (h : Returned t u) : Returned ('\n' :: t) ('\r' :: '\n' :: u)

namespace Returned

variable {t u v w : Text}

/-- Every line feed may get its return. -/
theorem of_withReturns (h : '\r' ∉ t) : Returned t (withReturns t) := by
  induction t with
  | nil => exact .nil
  | cons c t ih =>
      simp only [List.mem_cons, not_or] at h
      rw [withReturns, List.flatMap_cons, ← withReturns]
      split
      · next hline =>
          subst hline
          exact .newline (ih h.2)
      · exact .cons (Ne.symm h.1) (ih h.2)

/-- No line feed needs one. -/
protected theorem refl (h : '\r' ∉ t) : Returned t t := by
  induction t with
  | nil => exact .nil
  | cons c t ih =>
      simp only [List.mem_cons, not_or] at h
      exact .cons (Ne.symm h.1) (ih h.2)

/-- The first text has no return. -/
theorem return_not_mem (h : Returned t u) : '\r' ∉ t := by
  induction h with
  | nil => simp
  | cons hc _ ih => simp [hc.symm, ih]
  | newline _ ih => simp [ih]

/-- Nothing is added to an empty text. -/
theorem eq_nil_iff (h : Returned t u) : t = [] ↔ u = [] := by
  cases h <;> simp

protected theorem append (h : Returned t u) (h' : Returned v w) :
    Returned (t ++ v) (u ++ w) := by
  induction h with
  | nil => exact h'
  | cons hc _ ih => exact .cons hc ih
  | newline _ ih => exact .newline ih

/-! ## Markers -/

/-- What has no line feed stands in front of both texts alike. -/
theorem exists_of_append_left (hline : '\n' ∉ v) (h : Returned (v ++ t) u) :
    ∃ rest, u = v ++ rest ∧ Returned t rest := by
  induction v generalizing u with
  | nil => exact ⟨u, rfl, h⟩
  | cons c v ih =>
      simp only [List.mem_cons, not_or] at hline
      cases h with
      | cons _ h =>
          obtain ⟨rest, rfl, hrest⟩ := ih hline.2 h
          exact ⟨rest, rfl, hrest⟩
      | newline h => exact absurd rfl hline.1

/-- The same seen from the second text, where a return at the end might belong to a line feed. -/
theorem exists_of_append_right (hline : '\n' ∉ v) (hend : v.getLast? ≠ some '\r')
    (h : Returned t (v ++ u)) : ∃ rest, t = v ++ rest ∧ Returned rest u := by
  induction v generalizing t with
  | nil => exact ⟨t, rfl, h⟩
  | cons c v ih =>
      simp only [List.mem_cons, not_or] at hline
      rw [List.cons_append] at h
      generalize htail : v ++ u = tail at h
      cases h with
      | cons _ h =>
          have hlast : v.getLast? ≠ some '\r' := by
            cases v with
            | nil => simp
            | cons d v => simpa [List.getLast?_cons] using hend
          obtain ⟨rest, rfl, hrest⟩ := ih hline.2 hlast (htail ▸ h)
          exact ⟨rest, rfl, hrest⟩
      | newline h =>
          -- The line feed behind the return would be the next character.
          cases v with
          | nil => simp at hend
          | cons d v =>
              obtain ⟨rfl, -⟩ := List.cons.inj htail
              simp at hline

/-- A marker of the first text is one of the second. -/
theorem exists_at?_right {m : Marker} {rest : Text} (h : Returned t u)
    (hread : Marker.at? t = some (m, rest)) :
    ∃ rest', Marker.at? u = some (m, rest') ∧ Returned rest rest' := by
  obtain ⟨hm, rfl⟩ := Marker.at?_eq_some_iff.1 hread
  obtain ⟨rest', rfl, hrest⟩ := exists_of_append_left hm.newline_not_mem_source h
  exact ⟨rest', hm.at?_source_append rest', hrest⟩

/-- A marker of the second text is one of the first. -/
theorem exists_at?_left {m : Marker} {rest : Text} (h : Returned t u)
    (hread : Marker.at? u = some (m, rest)) :
    ∃ rest', Marker.at? t = some (m, rest') := by
  obtain ⟨hm, rfl⟩ := Marker.at?_eq_some_iff.1 hread
  have hend : m.source.getLast? ≠ some '\r' := by
    simp [Marker.source_eq, List.getLast?_cons, List.getLast?_append]
  obtain ⟨rest', rfl, -⟩ := exists_of_append_right hm.newline_not_mem_source hend h
  exact ⟨rest', hm.at?_source_append rest'⟩

/-! ## Lines -/

/-- Characters in front of related pieces belong to the first ones. -/
theorem forall₂_consHead {R : Text → Text → Prop} {c d : Char} {pieces pieces' : List Text}
    (hcons : ∀ piece piece', R piece piece' → R (c :: piece) (d :: piece')) (hnil : R [] [])
    (h : List.Forall₂ R pieces pieces') :
    List.Forall₂ R (consHead c pieces) (consHead d pieces') := by
  cases h with
  | nil => exact .cons (hcons _ _ hnil) .nil
  | cons hpiece hpieces => exact .cons (hcons _ _ hpiece) hpieces

/-- The pieces between line feeds are the same, but for a return at the end. -/
theorem forall₂_splitOn (h : Returned t u) :
    List.Forall₂ (fun piece piece' => piece' = piece ∨ piece' = piece ++ ['\r'])
      (splitOn '\n' t) (splitOn '\n' u) := by
  induction h with
  | nil => exact .cons (.inl rfl) .nil
  | @cons c hc t u _ ih =>
      rw [splitOn, splitOn]
      split
      · exact .cons (.inl rfl) ih
      · refine forall₂_consHead (fun piece piece' hpiece => ?_) (.inl rfl) ih
        obtain rfl | rfl := hpiece
        · exact .inl rfl
        · exact .inr rfl
  | newline _ ih => exact .cons (.inr rfl) ih

/-- A return at the end of a line is trimmed with it. -/
theorem trim_append_return (line : Text) : trim (line ++ ['\r']) = trim line :=
  trim_append_blank line (List.all_eq_true.1 rfl)

/-- Both texts have the same verse lines. -/
theorem verseLines_eq (h : Returned t u) : verseLines t = verseLines u := by
  have hpieces : (splitOn '\n' t).map trim = (splitOn '\n' u).map trim := by
    rw [← List.forall₂_eq_eq_eq, List.forall₂_map_left_iff, List.forall₂_map_right_iff]
    refine h.forall₂_splitOn.imp fun piece piece' hpiece => ?_
    obtain rfl | rfl := hpiece
    · rfl
    · exact (trim_append_return piece).symm
  rw [verseLines, hpieces, verseLines]

/-! ## Paragraphs -/

/-- Bare line breaks at the front are as many in both texts, and what follows them is related. -/
theorem breakRun (h : Returned t u) :
    (Text.breakRun (fun _ => false) t).1 = (Text.breakRun (fun _ => false) u).1 ∧
      Returned (Text.breakRun (fun _ => false) t).2 (Text.breakRun (fun _ => false) u).2 := by
  induction h with
  | nil =>
      rw [breakRun_bare_of_none rfl]
      exact ⟨rfl, .nil⟩
  | @cons c hc t u h ih =>
      by_cases hline : c = '\n'
      · subst hline
        rw [breakRun_bare (t := '\n' :: t) rfl, breakRun_bare (t := '\n' :: u) rfl]
        exact ⟨congrArg (· + 1) ih.1, ih.2⟩
      · rw [breakRun_bare_of_none (lineBreak?_eq_none hline hc t),
          breakRun_bare_of_none (lineBreak?_eq_none hline hc u)]
        exact ⟨rfl, .cons hc h⟩
  | @newline t u h ih =>
      rw [breakRun_bare (t := '\n' :: t) rfl, breakRun_bare (t := '\r' :: '\n' :: u) rfl]
      exact ⟨congrArg (· + 1) ih.1, ih.2⟩

/-- A gap at the front of one text is one at the front of the other. -/
theorem gap?_cases (h : Returned t u) (limit : Nat) :
    gap? (fun _ => false) limit t = none ∧ gap? (fun _ => false) limit u = none ∨
      ∃ rest rest', gap? (fun _ => false) limit t = some rest ∧
        gap? (fun _ => false) limit u = some rest' ∧ Returned rest rest' := by
  obtain ⟨hcount, hrest⟩ := h.breakRun
  rw [gap?, gap?, hcount]
  split
  · exact .inr ⟨_, _, rfl, rfl, hrest⟩
  · exact .inl ⟨rfl, rfl⟩

/-- The pieces between gaps of bare line breaks are related. -/
theorem splitGaps (h : Returned t u) (limit : Nat) :
    List.Forall₂ Returned (Text.splitGaps (fun _ => false) limit t)
      (Text.splitGaps (fun _ => false) limit u) := by
  -- Behind the gap stands a shorter text, but not the tail of this one.
  induction hlength : t.length using Nat.strongRecOn generalizing t u with
  | _ n ih =>
      rcases h.gap?_cases limit with ⟨hnone, hnone'⟩ | ⟨rest, rest', hgap, hgap', hrest⟩
      · cases h with
        | nil =>
            rw [Text.splitGaps]
            exact .cons .nil .nil
        | @cons c hc t u h =>
            rw [splitGaps_of_none hnone, splitGaps_of_none hnone']
            have hlater := ih t.length (by simp [← hlength]) h rfl
            exact forall₂_consHead (fun _ _ => .cons hc) .nil hlater
        | @newline t u h =>
            -- No gap starts at the line feed behind the return either.
            have hline : gap? (fun _ => false) limit ('\n' :: u) = none := by
              have hsame : Returned ('\n' :: t) ('\n' :: u) := .cons (by decide) h
              rcases hsame.gap?_cases limit with ⟨-, hline⟩ | ⟨_, _, hsome, -⟩
              · exact hline
              · simp [hnone] at hsome
            rw [splitGaps_of_none hnone, splitGaps_of_none hnone', splitGaps_of_none hline]
            have hlater := ih t.length (by simp [← hlength]) h rfl
            generalize Text.splitGaps (fun _ => false) limit t = pieces at hlater
            generalize Text.splitGaps (fun _ => false) limit u = pieces' at hlater
            cases hlater with
            | nil => exact .cons (.newline .nil) .nil
            | cons hpiece hpieces => exact .cons (.newline hpiece) hpieces
      · rw [splitGaps_of_gap? hgap, splitGaps_of_gap? hgap']
        exact .cons .nil (ih _ (hlength ▸ length_gap? hgap) hrest rfl)

/-- Blanks at the front are dropped with their returns. -/
theorem trimStart (h : Returned t u) : Returned (Text.trimStart t) (Text.trimStart u) := by
  induction h with
  | nil => exact .nil
  | @cons c hc t u h ih =>
      rw [Text.trimStart, Text.trimStart, List.dropWhile_cons, List.dropWhile_cons]
      split
      · exact ih
      · exact .cons hc h
  | newline _ ih => exact ih

/-- Blanks at the end are dropped with their returns. -/
theorem trimEnd (h : Returned t u) : Returned (Text.trimEnd t) (Text.trimEnd u) := by
  induction h with
  | nil => exact .nil
  | @cons c hc t u h ih =>
      rw [trimEnd_cons, trimEnd_cons]
      simp only [ih.eq_nil_iff]
      split
      · exact .nil
      · exact .cons hc ih
  | newline _ ih =>
      rw [trimEnd_cons, trimEnd_cons, trimEnd_cons]
      simp only [ih.eq_nil_iff]
      split
      · exact .nil
      · exact .newline ih

protected theorem trim (h : Returned t u) : Returned (trim t) (trim u) :=
  h.trimStart.trimEnd

/-- The paragraphs are related. -/
theorem paragraphs (h : Returned t u) :
    List.Forall₂ Returned (Text.paragraphs t) (Text.paragraphs u) := by
  have htrim : List.Forall₂ Returned ((Text.splitGaps (fun _ => false) 1 t).map Text.trim)
      ((Text.splitGaps (fun _ => false) 1 u).map Text.trim) := by
    rw [List.forall₂_map_left_iff, List.forall₂_map_right_iff]
    exact (h.splitGaps 1).imp fun _ _ => Returned.trim
  refine List.rel_filter (fun piece piece' hpiece => ?_) htrim
  simp [hpiece.eq_nil_iff]

end Returned

end Text

/-! ## Segments -/

/-- The same marker without returns, or two plain texts of which the second has returns in front of
line feeds. -/
inductive Segment.Returned : Segment → Segment → Prop where
  | text {t u : Text} (h : Text.Returned t u) : Returned (.text t) (.text u)
  | marker (m : Marker) (h : '\r' ∉ m.source) : Returned (.marker m) (.marker m)

namespace Segment.Returned

variable {segments segments' : List Segment} {t u : Text}

/-- A character in front of related segments stays there. -/
theorem consChar {c : Char} (hc : c ≠ '\r') (h : List.Forall₂ Returned segments segments') :
    List.Forall₂ Returned (consChar c segments) (consChar c segments') := by
  cases h with
  | nil => exact .cons (.text (.cons hc .nil)) .nil
  | cons hfirst hrest =>
      cases hfirst with
      | text h => exact .cons (.text (.cons hc h)) hrest
      | marker m h => exact .cons (.text (.cons hc .nil)) (.cons (.marker m h) hrest)

/-- A line feed in front of related segments may get its return. -/
theorem consChar_newline (h : List.Forall₂ Returned segments segments') :
    List.Forall₂ Returned (Segment.consChar '\n' segments)
      (Segment.consChar '\r' (Segment.consChar '\n' segments')) := by
  cases h with
  | nil => exact .cons (.text (.newline .nil)) .nil
  | cons hfirst hrest =>
      cases hfirst with
      | text h => exact .cons (.text (.newline h)) hrest
      | marker m h => exact .cons (.text (.newline .nil)) (.cons (.marker m h) hrest)

/-- Both texts have the same markers, between related texts. -/
theorem of_lex (h : Text.Returned t u) :
    List.Forall₂ Returned (Segment.lex t) (Segment.lex u) := by
  fun_induction Segment.lex t generalizing u with
  | case1 =>
      obtain rfl := h.eq_nil_iff.1 rfl
      rw [lex_nil]
      exact .nil
  | case2 c t m rest hread ih =>
      obtain ⟨rest', hread', hrest⟩ := h.exists_at?_right hread
      have hreturn : '\r' ∉ m.source := by
        have hmem := h.return_not_mem
        rw [← Marker.source_append_of_at? hread] at hmem
        exact fun hm => hmem (List.mem_append_left _ hm)
      rw [lex_of_at? hread']
      exact .cons (.marker m hreturn) (ih hrest)
  | case3 c t hread ih =>
      cases h with
      | @cons _ hc _ u h =>
          have hread' : Marker.at? (c :: u) = none := by
            rw [Option.eq_none_iff_forall_ne_some]
            rintro ⟨m, rest⟩ hsome
            obtain ⟨rest', hsome'⟩ := (Text.Returned.cons hc h).exists_at?_left hsome
            simp [hread] at hsome'
          rw [lex_of_at?_eq_none hread']
          exact consChar hc (ih h)
      | newline h =>
          rw [lex_cons_of_ne_bar (by decide), lex_cons_of_ne_bar (by decide)]
          exact consChar_newline (ih h)

/-- Related segments are written as related texts. -/
theorem flatMap_source (h : List.Forall₂ Returned segments segments') :
    Text.Returned (segments.flatMap source) (segments'.flatMap source) := by
  induction h with
  | nil => exact .nil
  | cons hfirst _ ih =>
      cases hfirst with
      | text h => exact h.append ih
      | marker m h => exact (Text.Returned.refl h).append ih

/-- Related segments have the same markers. -/
theorem filterMap_marker?_eq (h : List.Forall₂ Returned segments segments') :
    segments.filterMap marker? = segments'.filterMap marker? := by
  induction h with
  | nil => rfl
  | cons hfirst _ ih => cases hfirst <;> simp [List.filterMap_cons, ih]

end Segment.Returned

end MarkedVerse
