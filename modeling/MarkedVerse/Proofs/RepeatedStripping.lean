import MarkedVerse.Proofs.CollapsedGaps
import MarkedVerse.Proofs.Stripping

/-!
# Stripping a text twice

What is left of a text is stripped again by collapsing its long gaps (`strip_strip`). It has long
gaps when a line in front of one ended in blanks behind a return: the gap takes the blanks, and the
return then ends a line of its own (`hasLongGap_collapseGaps_iff`). So a text is stripped by
stripping it once unless it has such a line (`strip_strip_eq_iff`).
-/

namespace MarkedVerse

namespace Text

variable {line t : Text}

/-! ## Stray returns -/

/-- A line of blanks and tabs in which a return stands in front of more of them, so that it does not
end the line. -/
def IsStray (line : Text) : Prop :=
  ∃ indent tail, line = indent ++ '\r' :: tail ∧ (∀ c ∈ indent, isIndent c = true) ∧ tail ≠ [] ∧
    isFilled isIndent tail = true

/-- A blank or tab in front of a line does not matter to whether its return is stray. -/
theorem IsStray.cons {c : Char} (hc : isIndent c = true) (h : IsStray line) :
    IsStray (c :: line) := by
  obtain ⟨indent, tail, rfl, hindent, hne, htail⟩ := h
  exact ⟨c :: indent, tail, rfl, List.forall_mem_cons.2 ⟨hc, hindent⟩, hne, htail⟩

theorem IsStray.isFilled_eq_false (h : IsStray line) : isFilled isIndent line = false := by
  obtain ⟨indent, tail, rfl, hindent, hne, -⟩ := h
  induction indent with
  | nil =>
      rw [List.nil_append, Bool.eq_false_iff]
      exact fun hfilled => hne ((isFilled_cons_of_not_isIndent (by decide) tail).1 hfilled).2
  | cons c indent ih =>
      obtain ⟨hc, hindent⟩ := List.forall_mem_cons.1 hindent
      rw [List.cons_append, isFilled_cons_of_isIndent hc]
      exact ih hindent

/-- A tail that is filled is taken as a whole. -/
theorem withoutTail_eq_nil_iff : withoutTail line = [] ↔ isFilled isIndent line = true := by
  cases line with
  | nil => exact ⟨fun _ => rfl, fun _ => rfl⟩
  | cons c line =>
      rw [withoutTail]
      split <;> simp_all

/-- A line that is not filled loses its tail to become filled when its return is stray. -/
theorem isFilled_withoutTail_iff (h : isFilled isIndent line = false) :
    isFilled isIndent (withoutTail line) = true ↔ IsStray line := by
  induction line with
  | nil => cases h
  | cons c line ih =>
      rw [withoutTail, if_neg (by simp [h])]
      cases hc : isIndent c with
      | true =>
          rw [isFilled_cons_of_isIndent hc] at h ⊢
          refine (ih h).trans ⟨IsStray.cons hc, ?_⟩
          rintro ⟨_ | ⟨d, indent⟩, tail, heq, hindent, hne, htail⟩
          · obtain rfl := (List.cons.inj heq).1
            exact absurd hc (by decide)
          · obtain ⟨rfl, rfl⟩ := List.cons.inj heq
            exact ⟨indent, tail, rfl, (List.forall_mem_cons.1 hindent).2, hne, htail⟩
      | false =>
          rw [isFilled_cons_of_not_isIndent hc, withoutTail_eq_nil_iff]
          constructor
          · rintro ⟨rfl, hline⟩
            refine ⟨[], line, rfl, by simp, ?_, hline⟩
            rintro rfl
            cases h
          · rintro ⟨_ | ⟨d, indent⟩, tail, heq, hindent, -, htail⟩
            · obtain ⟨rfl, rfl⟩ := List.cons.inj heq
              exact ⟨rfl, htail⟩
            · obtain ⟨rfl, -⟩ := List.cons.inj heq
              rw [hindent c List.mem_cons_self] at hc
              cases hc

/-- The first line of the text has a stray return, and a long gap stands behind it. -/
def StartsStrayGap (t : Text) : Prop :=
  ∃ line behind, t = line ++ '\n' :: behind ∧ IsStray line ∧ 2 ≤ emptyLines behind

/-- Behind some line feed stands a line with a stray return, and behind that a long gap. -/
def HasStrayGap (t : Text) : Prop :=
  AfterNewline StartsStrayGap t

theorem IsStray.newline_notMem (h : IsStray line) : '\n' ∉ line := by
  obtain ⟨indent, tail, rfl, hindent, -, htail⟩ := h
  have hnewline : isIndent '\n' = false := by decide
  rw [List.mem_append, List.mem_cons]
  rintro (hmem | heq | hmem)
  · rw [hindent _ hmem] at hnewline
    cases hnewline
  · exact absurd heq (by decide)
  · rcases forall_of_isFilled htail _ hmem with hfill | heq
    · rw [hfill] at hnewline
      cases hnewline
    · exact absurd heq (by decide)

theorem startsStrayGap_line_iff (h : '\n' ∉ line) (t : Text) :
    StartsStrayGap (line ++ '\n' :: t) ↔ IsStray line ∧ 2 ≤ emptyLines t := by
  constructor
  · rintro ⟨line', behind, heq, hstray, hgap⟩
    obtain ⟨rfl, rfl⟩ := line_inj h hstray.newline_notMem heq
    exact ⟨hstray, hgap⟩
  · rintro ⟨hstray, hgap⟩
    exact ⟨line, t, rfl, hstray, hgap⟩

/-- Lines of blanks and tabs have no stray returns. -/
theorem hasStrayGap_behindEmptyLines (t : Text) :
    StartsStrayGap t ∨ HasStrayGap t ↔
      StartsStrayGap (behindEmptyLines t) ∨ HasStrayGap (behindEmptyLines t) := by
  induction hcount : emptyLines t generalizing t with
  | zero => rw [behindEmptyLines_of_eq_zero hcount]
  | succ count ih =>
      obtain ⟨line, rest, hline, rfl, -, -⟩ :=
        exists_line_of_breakRun_pos (show 0 < emptyLines t by omega)
      have hnewline : '\n' ∉ line := newline_notMem_of_isFilled hline
      have hstart : ¬ StartsStrayGap (line ++ '\n' :: rest) := by
        rw [startsStrayGap_line_iff hnewline]
        rintro ⟨hstray, -⟩
        rw [hstray.isFilled_eq_false] at hline
        cases hline
      rw [emptyLines_of_isFilled hline] at hcount
      rw [behindEmptyLines_of_isFilled hline, ← ih rest (by omega), or_iff_right hstart]
      exact afterNewline_line hnewline rest

/-! ## What collapsing leaves -/

/-- Where no line of blanks and tabs stands, collapsing makes one of a stray return, and then an
empty one stands behind it. -/
theorem emptyLines_collapseGaps_of_eq_zero (h : emptyLines t = 0) :
    (StartsStrayGap t → 2 ≤ emptyLines (collapseGaps t)) ∧
      (0 < emptyLines (collapseGaps t) → StartsStrayGap t) := by
  by_cases hmem : '\n' ∈ t
  · obtain ⟨line, rest, rfl, hline⟩ := List.eq_append_cons_of_mem hmem
    have hfilled : isFilled isIndent line = false := by
      by_contra hfilled
      rw [emptyLines_of_isFilled (Bool.not_eq_false _ ▸ hfilled)] at h
      cases h
    rw [startsStrayGap_line_iff hline]
    rcases Nat.lt_or_ge (emptyLines rest) 2 with hlt | hge
    · rw [collapseGaps_line_of_lt hline hlt, emptyLines_of_not_isFilled hline hfilled]
      exact ⟨fun hstray => absurd hstray.2 (by omega), fun hpos => absurd hpos (by omega)⟩
    · have htail := isFilled_withoutTail_iff hfilled
      rw [collapseGaps_line_of_two_le hline hge]
      cases hrest : isFilled isIndent (withoutTail line) with
      | true =>
          rw [emptyLines_of_isFilled hrest, emptyLines_newline]
          exact ⟨fun _ => by omega, fun _ => ⟨htail.1 hrest, hge⟩⟩
      | false =>
          rw [emptyLines_of_not_isFilled (newline_notMem_withoutTail hline) hrest]
          refine ⟨fun hstray => ?_, fun hpos => absurd hpos (by omega)⟩
          rw [htail.2 hstray.1] at hrest
          cases hrest
  · rw [collapseGaps_of_notMem hmem, h]
    refine ⟨?_, fun hpos => absurd hpos (by omega)⟩
    rintro ⟨line, rest, rfl, -⟩
    exact absurd (by simp) hmem

/-- In front of no long gap, it makes more of them than one only of a stray return. -/
theorem two_le_emptyLines_collapseGaps (h : emptyLines t < 2) :
    2 ≤ emptyLines (collapseGaps t) ∨ HasStrayGap t ↔ StartsStrayGap t ∨ HasStrayGap t := by
  rcases Nat.eq_zero_or_pos (emptyLines t) with hzero | hpos
  · obtain ⟨hmakes, hmade⟩ := emptyLines_collapseGaps_of_eq_zero hzero
    exact or_congr_left ⟨fun htwo => hmade (by omega), hmakes⟩
  · obtain ⟨line, rest, hline, rfl, -, -⟩ := exists_line_of_breakRun_pos hpos
    have hnewline := newline_notMem_of_isFilled hline
    rw [emptyLines_of_isFilled hline] at h
    have hzero : emptyLines rest = 0 := by omega
    obtain ⟨-, hmade⟩ := emptyLines_collapseGaps_of_eq_zero hzero
    have hstray : HasStrayGap (line ++ '\n' :: rest) ↔ StartsStrayGap rest ∨ HasStrayGap rest :=
      afterNewline_line hnewline rest
    rw [hasStrayGap_behindEmptyLines, behindEmptyLines_of_isFilled hline,
      behindEmptyLines_of_eq_zero hzero, hstray, collapseGaps_line_of_lt hnewline (by omega),
      emptyLines_of_isFilled hline]
    exact or_iff_right_of_imp fun htwo => .inl (hmade (by omega))

/-- Collapsing leaves a long gap for each stray return in front of one. -/
theorem hasLongGap_collapseGaps_iff (t : Text) : HasLongGap (collapseGaps t) ↔ HasStrayGap t := by
  induction t using line_induction with
  | last t h =>
      rw [collapseGaps_of_notMem h]
      exact iff_of_false (not_afterNewline_of_notMem h) (not_afterNewline_of_notMem h)
  | line line t hline ih =>
      have hstray : HasStrayGap (line ++ '\n' :: t) ↔ StartsStrayGap t ∨ HasStrayGap t :=
        afterNewline_line hline t
      rw [hstray]
      rcases Nat.lt_or_ge (emptyLines t) 2 with hlt | hge
      · rw [collapseGaps_line_of_lt hline hlt, hasLongGap_line hline, ih t (Nat.le_refl _)]
        exact two_le_emptyLines_collapseGaps hlt
      · have hrun : (behindEmptyLines t).length + emptyLines t ≤ t.length :=
          length_breakRun isIndent t
        obtain ⟨hmakes, hmade⟩ :=
          emptyLines_collapseGaps_of_eq_zero (emptyLines_behindEmptyLines t)
        rw [collapseGaps_line_of_two_le hline hge,
          hasLongGap_line (newline_notMem_withoutTail hline), hasLongGap_newline,
          emptyLines_newline, ih _ (by omega), hasStrayGap_behindEmptyLines]
        constructor
        · rintro (hone | htwo | hbehind)
          · exact .inl (hmade (by omega))
          · exact .inl (hmade (by omega))
          · exact .inr hbehind
        · rintro (hstarts | hbehind)
          · exact .inr (.inl (hmakes hstarts))
          · exact .inr (.inr hbehind)

end Text

namespace Segment

open Text

/-- The text with empty lines in the places of its markers. -/
def spread (t : Text) : Text :=
  (lex t).flatMap fun
    | text s => s
    | marker _ => ['\n', '\n']

/-- A text without markers is spread as it is. -/
theorem spread_of_markers_eq_nil {t : Text} (h : markers t = []) : spread t = t := by
  by_cases ht : t = []
  · rw [ht, spread, lex_nil]
    rfl
  · rw [spread, lex_eq_text ht h]
    simp

/-- What is left of a text is its spread form, trimmed and collapsed. -/
theorem strip_eq_collapseGaps (t : Text) : strip t = collapseGaps (trim (spread t)) :=
  (collapseGaps_trim (spread t)).symm

/-- To strip what is left of a text is to collapse it. -/
theorem strip_strip (t : Text) : strip (strip t) = collapseGaps (strip t) := by
  have htrim : trim (strip t) = strip t := by
    rw [strip_eq_collapseGaps, trim_collapseGaps (trim_trim _)]
  rw [strip_eq_collapseGaps (strip t), spread_of_markers_eq_nil (markers_strip t), htrim]

/-- A text is stripped by stripping it once unless a long gap is left, and one is left exactly where
a line with a stray return stood in front of a long gap. -/
theorem strip_strip_eq_iff (t : Text) :
    (strip (strip t) = strip t ↔ ¬ HasLongGap (strip t)) ∧
      (HasLongGap (strip t) ↔ HasStrayGap (trim (spread t))) := by
  constructor
  · rw [strip_strip]
    exact collapseGaps_eq_self_iff
  · rw [strip_eq_collapseGaps]
    exact hasLongGap_collapseGaps_iff _

/-- The gap takes the blank behind the return, the return then ends an empty line, and three line
breaks are left. -/
theorem blank_behind_return_leaves_gap :
    strip "a\n\r \n\n\nb".toList = "a\n\r\n\nb".toList ∧
      strip (strip "a\n\r \n\n\nb".toList) = "a\n\nb".toList := by
  decide +kernel

/-! ## Returns that end lines -/

/-- A marker at the front of a text leaves an empty line. -/
theorem spread_of_at? {t rest : Text} {m : Marker} (h : Marker.at? t = some (m, rest)) :
    spread t = '\n' :: '\n' :: spread rest := by
  rw [spread, lex_of_at? h]
  rfl

/-- Any other character stays. -/
theorem spread_cons {c : Char} {t : Text} (h : Marker.at? (c :: t) = none) :
    spread (c :: t) = c :: spread t := by
  rw [spread, lex_of_at?_eq_none h, spread]
  rcases lex t with _ | ⟨_ | _, segments⟩ <;> rfl

/-- Every return of the text stands in front of a line feed. -/
def ReturnsEndLines (t : Text) : Prop :=
  ∀ front behind, t = front ++ '\r' :: behind → ∃ rest, behind = '\n' :: rest

theorem returnsEndLines_cons {c : Char} {t : Text} : ReturnsEndLines (c :: t) ↔
    (c = '\r' → ∃ rest, t = '\n' :: rest) ∧ ReturnsEndLines t := by
  constructor
  · intro h
    exact ⟨fun hc => h [] t (by rw [hc]; rfl), fun front behind heq =>
      h (c :: front) behind (by rw [heq]; rfl)⟩
  · rintro ⟨hc, ht⟩ front behind heq
    rcases List.cons_eq_append_iff.1 heq with ⟨-, hcons⟩ | ⟨front, -, hcons⟩
    · obtain ⟨rfl, rfl⟩ := List.cons.inj hcons
      exact hc rfl
    · exact ht front behind hcons

/-- Markers stand in front of no line feed. -/
theorem ReturnsEndLines.spread {t : Text} (h : ReturnsEndLines t) : ReturnsEndLines (spread t) := by
  induction hlength : t.length using Nat.strongRecOn generalizing t with
  | _ n ih =>
      cases t with
      | nil => rwa [spread_of_markers_eq_nil (by simp [markers])]
      | cons c t =>
          cases hread : Marker.at? (c :: t) with
          | some found =>
              obtain ⟨m, rest⟩ := found
              have hsource := Marker.source_append_of_at? hread
              have hshorter := Marker.length_at? hread
              have hrest : ReturnsEndLines rest := fun front behind heq =>
                h (m.source ++ front) behind (by rw [← hsource, heq, List.append_assoc])
              rw [spread_of_at? hread, returnsEndLines_cons, returnsEndLines_cons]
              exact ⟨by simp, by simp, ih rest.length (by omega) hrest rfl⟩
          | none =>
              obtain ⟨hc, ht⟩ := returnsEndLines_cons.1 h
              rw [List.length_cons] at hlength
              rw [spread_cons hread, returnsEndLines_cons]
              refine ⟨fun hreturn => ?_, ih t.length (by omega) ht rfl⟩
              obtain ⟨rest, rfl⟩ := hc hreturn
              exact ⟨_, spread_cons (Marker.at?_cons_eq_none (by decide) rest)⟩

/-- Trimming takes a return with its line feed. -/
theorem ReturnsEndLines.trim {t : Text} (h : ReturnsEndLines t) : ReturnsEndLines (trim t) := by
  intro front behind heq
  obtain ⟨before, after, -, -, ht⟩ := exists_trim t
  have hlast := (trim_eq_self_iff.1 (trim_trim t)).2
  rw [heq] at ht hlast
  cases behind with
  | nil => exact absurd (hlast '\r' (by simp)) (by decide)
  | cons d behind =>
      obtain ⟨rest, hrest⟩ := h (before ++ front) (d :: behind ++ after) (by rw [ht]; simp)
      exact ⟨behind, by rw [(List.cons.inj hrest).1]⟩

/-- No such return is stray. -/
theorem ReturnsEndLines.not_hasStrayGap {t : Text} (h : ReturnsEndLines t) : ¬ HasStrayGap t := by
  rintro ⟨front, behind, rfl, line, more, rfl, hstray, -⟩
  have hnewline := hstray.newline_notMem
  obtain ⟨indent, tail, rfl, -, hne, -⟩ := hstray
  obtain ⟨c, tail, rfl⟩ := List.exists_cons_of_ne_nil hne
  obtain ⟨rest, hrest⟩ := h (front ++ '\n' :: indent) (c :: tail ++ '\n' :: more) (by simp)
  obtain rfl := (List.cons.inj hrest).1
  simp at hnewline

/-- A text whose returns end lines is stripped by stripping it once. -/
theorem strip_strip_of_returnsEndLines {t : Text} (h : ReturnsEndLines t) :
    strip (strip t) = strip t := by
  obtain ⟨hself, hgap⟩ := strip_strip_eq_iff t
  rw [hself, hgap]
  exact h.spread.trim.not_hasStrayGap

end Segment

end MarkedVerse
