import MarkedVerse.Proofs.GapStanzas

/-!
# Long gaps

A long gap is a line feed with two lines of blanks and tabs behind it. Collapsing is described line
by line: in front of a long gap a line loses its tail, and the gap becomes one empty line
(`collapseGaps_line_of_two_le`); every other line stays (`collapseGaps_line_of_lt`). So collapsing
leaves the texts without long gaps alone, and no others (`collapseGaps_eq_self_iff`). A character
that is not blank is a wall: what stands in front of it and what stands behind it are collapsed on
their own (`collapseGaps_append_cons`).
-/

namespace MarkedVerse

namespace Text

variable {line t rest : Text} {c : Char}

/-! ## Lines of blanks and tabs -/

/-- The number of lines at the front of the text that hold only blanks and tabs. -/
def emptyLines (t : Text) : Nat :=
  (breakRun isIndent t).1

/-- The text behind these lines. -/
def behindEmptyLines (t : Text) : Text :=
  (breakRun isIndent t).2

/-- A blank or tab in front of a line does not matter to whether it is filled. -/
theorem isFilled_cons_of_isIndent (h : isIndent c = true) (line : Text) :
    isFilled isIndent (c :: line) = isFilled isIndent line := by
  have hreturn : c ≠ '\r' := by
    rintro rfl
    exact absurd h (by decide)
  cases line with
  | nil => simp [isFilled, dropReturn, hreturn, h]
  | cons d line =>
      rw [isFilled, isFilled, dropReturn, dropReturn]
      split <;> simp_all [List.getLast?_cons_cons]

/-- Of all other characters, only a return at the end stands in a filled line. -/
theorem isFilled_cons_of_not_isIndent (h : isIndent c = false) (line : Text) :
    isFilled isIndent (c :: line) = true ↔ c = '\r' ∧ line = [] := by
  cases line with
  | nil => by_cases hc : c = '\r' <;> simp [isFilled, dropReturn, hc, h]
  | cons d line =>
      rw [isFilled, dropReturn]
      split <;> simp [h]

/-- A filled line is one more line of blanks and tabs. -/
theorem breakRun_of_isFilled (h : isFilled isIndent line = true) (t : Text) :
    breakRun isIndent (line ++ '\n' :: t) =
      ((breakRun isIndent t).1 + 1, (breakRun isIndent t).2) := by
  refine breakRun_of_lineBreak? ?_
  induction line with
  | nil => rfl
  | cons c line ih =>
      cases hc : isIndent c with
      | true =>
          rw [isFilled_cons_of_isIndent hc] at h
          rw [List.cons_append, List.dropWhile_cons_of_pos hc]
          exact ih h
      | false =>
          obtain ⟨rfl, rfl⟩ := (isFilled_cons_of_not_isIndent hc line).1 h
          rfl

theorem emptyLines_of_isFilled (h : isFilled isIndent line = true) (t : Text) :
    emptyLines (line ++ '\n' :: t) = emptyLines t + 1 := by
  rw [emptyLines, breakRun_of_isFilled h, emptyLines]

theorem emptyLines_newline (t : Text) : emptyLines ('\n' :: t) = emptyLines t + 1 := by
  have hempty : isFilled isIndent [] = true := rfl
  exact emptyLines_of_isFilled hempty t

theorem behindEmptyLines_of_isFilled (h : isFilled isIndent line = true) (t : Text) :
    behindEmptyLines (line ++ '\n' :: t) = behindEmptyLines t := by
  rw [behindEmptyLines, breakRun_of_isFilled h, behindEmptyLines]

/-- A filled line is one line. -/
theorem newline_notMem_of_isFilled (h : isFilled isIndent line = true) : '\n' ∉ line := by
  intro hmem
  rcases forall_of_isFilled h _ hmem with hfill | hreturn
  · exact (isBlank_of_isIndent hfill).2 rfl
  · exact absurd hreturn (by decide)

/-- The first line of a text and what stands behind it are determined. -/
theorem line_inj {line' u : Text} (hline : '\n' ∉ line) (hline' : '\n' ∉ line')
    (h : line ++ '\n' :: t = line' ++ '\n' :: u) : line = line' ∧ t = u := by
  rcases List.append_eq_append_iff.1 h with ⟨more, rfl, heq⟩ | ⟨more, rfl, heq⟩
  all_goals
    cases more with
    | nil => simp_all
    | cons c more =>
        obtain rfl := (List.cons.inj heq).1
        simp at hline hline'

/-- Any other line ends the lines of blanks and tabs. -/
theorem emptyLines_of_not_isFilled (hline : '\n' ∉ line) (h : isFilled isIndent line = false)
    (t : Text) : emptyLines (line ++ '\n' :: t) = 0 := by
  by_contra hpos
  obtain ⟨first, rest, hfirst, heq, -, -⟩ :=
    exists_line_of_breakRun_pos (Nat.pos_of_ne_zero hpos)
  obtain ⟨rfl, -⟩ := line_inj hline (newline_notMem_of_isFilled hfirst) heq
  rw [hfirst] at h
  cases h

/-- A line without an end is none of them. -/
theorem emptyLines_of_notMem (h : '\n' ∉ t) : emptyLines t = 0 := by
  by_contra hpos
  obtain ⟨first, rest, -, heq, -, -⟩ := exists_line_of_breakRun_pos (Nat.pos_of_ne_zero hpos)
  exact h (by simp [heq])

/-- Where there is none, the text stands behind none. -/
theorem behindEmptyLines_of_eq_zero (h : emptyLines t = 0) : behindEmptyLines t = t := by
  rw [emptyLines, breakRun] at h
  rw [behindEmptyLines, breakRun]
  split at h
  · cases h
  · simp [*]

/-- No line of blanks and tabs stands behind them. -/
theorem emptyLines_behindEmptyLines (t : Text) : emptyLines (behindEmptyLines t) = 0 := by
  induction hcount : emptyLines t generalizing t with
  | zero => rwa [behindEmptyLines_of_eq_zero hcount]
  | succ count ih =>
      obtain ⟨line, rest, hline, rfl, -, -⟩ :=
        exists_line_of_breakRun_pos (show 0 < emptyLines t by omega)
      rw [emptyLines_of_isFilled hline] at hcount
      rw [behindEmptyLines_of_isFilled hline]
      exact ih rest (by omega)

/-- Somewhere in the text, what stands behind a line feed has the property. -/
def AfterNewline (p : Text → Prop) (t : Text) : Prop :=
  ∃ front behind, t = front ++ '\n' :: behind ∧ p behind

theorem afterNewline_line {p : Text → Prop} (h : '\n' ∉ line) (t : Text) :
    AfterNewline p (line ++ '\n' :: t) ↔ p t ∨ AfterNewline p t := by
  constructor
  · rintro ⟨front, behind, heq, hp⟩
    by_cases hfront : '\n' ∈ front
    · obtain ⟨first, second, rfl, hfirst⟩ := List.eq_append_cons_of_mem hfront
      rw [List.append_assoc, List.cons_append] at heq
      obtain ⟨-, rfl⟩ := line_inj h hfirst heq
      exact .inr ⟨second, behind, rfl, hp⟩
    · obtain ⟨-, rfl⟩ := line_inj h hfront heq
      exact .inl hp
  · rintro (hp | ⟨front, behind, rfl, hp⟩)
    · exact ⟨line, t, rfl, hp⟩
    · exact ⟨line ++ '\n' :: front, behind, by simp, hp⟩

theorem not_afterNewline_of_notMem {p : Text → Prop} (h : '\n' ∉ t) : ¬ AfterNewline p t := by
  rintro ⟨front, behind, rfl, -⟩
  exact h (by simp)

/-- Three line breaks on end, where blanks and tabs may stand before each. -/
def HasLongGap (t : Text) : Prop :=
  AfterNewline (fun behind => 2 ≤ emptyLines behind) t

/-! ## Collapsing, line by line -/

@[simp]
theorem collapseGaps_nil : collapseGaps [] = [] := by
  rw [collapseGaps, splitGaps]
  rfl

/-- Three line breaks are written as two. -/
theorem collapseGaps_of_lt (h : 2 < emptyLines t) :
    collapseGaps t = '\n' :: '\n' :: collapseGaps (behindEmptyLines t) := by
  have hgap : gap? isIndent 2 t = some (behindEmptyLines t) := if_pos h
  have hsplit := splitGaps_of_gap? hgap
  obtain ⟨piece, pieces, hrest⟩ : ∃ piece pieces,
      splitGaps isIndent 2 (behindEmptyLines t) = piece :: pieces := by
    rcases splitGaps_eq isIndent 2 (behindEmptyLines t) with hone | ⟨piece, -, rest, -, -, hmore⟩
    · exact ⟨_, _, hone⟩
    · exact ⟨_, _, hmore⟩
  show join _ (splitGaps isIndent 2 t) = _ :: _ :: join _ (splitGaps isIndent 2 _)
  rw [hsplit, hrest]
  simp [join]

/-- A character that no three line breaks begin with stays. -/
theorem collapseGaps_cons (h : emptyLines (c :: t) ≤ 2) :
    collapseGaps (c :: t) = c :: collapseGaps t := by
  have hgap : gap? isIndent 2 (c :: t) = none := if_neg (Nat.not_lt.2 h)
  show join _ (splitGaps isIndent 2 (c :: t)) = c :: join _ (splitGaps isIndent 2 t)
  rw [splitGaps_of_none hgap]
  rcases splitGaps isIndent 2 t with _ | ⟨piece, _ | ⟨second, pieces⟩⟩ <;> simp [consHead, join]

/-- A text of one line stays. -/
theorem collapseGaps_of_notMem (h : '\n' ∉ t) : collapseGaps t = t := by
  induction t with
  | nil => exact collapseGaps_nil
  | cons c t ih =>
      rw [collapseGaps_cons (by rw [emptyLines_of_notMem h]; omega),
        ih fun hmem => h (List.mem_cons_of_mem _ hmem)]

/-- The line without the longest part at its end that is filled. -/
def withoutTail : Text → Text
  | [] => []
  | c :: line => if isFilled isIndent (c :: line) then [] else c :: withoutTail line

theorem length_withoutTail_le (line : Text) : (withoutTail line).length ≤ line.length := by
  induction line with
  | nil => rfl
  | cons c line ih =>
      rw [withoutTail]
      split
      · simp
      · simpa using ih

theorem newline_notMem_withoutTail (h : '\n' ∉ line) : '\n' ∉ withoutTail line := by
  induction line with
  | nil => exact h
  | cons c line ih =>
      rw [List.mem_cons, not_or] at h
      rw [withoutTail]
      split
      · simp
      · simp [h.1, ih h.2]

/-- A long gap becomes an empty line, and the line in front of it loses its tail. -/
theorem collapseGaps_line_of_two_le (hline : '\n' ∉ line) (h : 2 ≤ emptyLines t) :
    collapseGaps (line ++ '\n' :: t) =
      withoutTail line ++ '\n' :: '\n' :: collapseGaps (behindEmptyLines t) := by
  have hfilled : ∀ front : Text, isFilled isIndent front = true →
      collapseGaps (front ++ '\n' :: t) = '\n' :: '\n' :: collapseGaps (behindEmptyLines t) := by
    intro front hfront
    rw [collapseGaps_of_lt (by rw [emptyLines_of_isFilled hfront]; omega),
      behindEmptyLines_of_isFilled hfront]
  induction line with
  | nil => exact hfilled [] rfl
  | cons c line ih =>
      rw [withoutTail]
      split
      · next htail => exact hfilled (c :: line) htail
      · next htail =>
          have hnone := emptyLines_of_not_isFilled hline (Bool.eq_false_iff.2 htail) t
          rw [List.cons_append] at hnone ⊢
          rw [collapseGaps_cons (by omega), ih fun hmem => hline (List.mem_cons_of_mem _ hmem),
            List.cons_append]

/-- A line that stands in front of no long gap stays. -/
theorem collapseGaps_line_of_lt (hline : '\n' ∉ line) (h : emptyLines t < 2) :
    collapseGaps (line ++ '\n' :: t) = line ++ '\n' :: collapseGaps t := by
  induction line with
  | nil =>
      have hcount := emptyLines_newline t
      exact collapseGaps_cons (by omega)
  | cons c line ih =>
      have hcount : emptyLines (c :: line ++ '\n' :: t) ≤ 2 := by
        cases hfilled : isFilled isIndent (c :: line) with
        | true =>
            rw [emptyLines_of_isFilled hfilled]
            omega
        | false =>
            rw [emptyLines_of_not_isFilled hline hfilled]
            omega
      rw [List.cons_append] at hcount ⊢
      rw [collapseGaps_cons hcount, ih fun hmem => hline (List.mem_cons_of_mem _ hmem),
        List.cons_append]

/-! ## Texts that stay -/

theorem hasLongGap_line (h : '\n' ∉ line) (t : Text) :
    HasLongGap (line ++ '\n' :: t) ↔ 2 ≤ emptyLines t ∨ HasLongGap t :=
  afterNewline_line h t

theorem hasLongGap_newline (t : Text) :
    HasLongGap ('\n' :: t) ↔ 2 ≤ emptyLines t ∨ HasLongGap t := by
  have hempty : '\n' ∉ ([] : Text) := by simp
  exact hasLongGap_line hempty t

/-- Collapsing makes no text longer, and one with a long gap shorter. -/
theorem length_collapseGaps (t : Text) : (collapseGaps t).length ≤ t.length ∧
    (HasLongGap t → (collapseGaps t).length < t.length) := by
  induction t using line_induction with
  | last t h =>
      rw [collapseGaps_of_notMem h]
      exact ⟨Nat.le_refl _, fun hgap => absurd hgap (not_afterNewline_of_notMem h)⟩
  | line line t hline ih =>
      rw [hasLongGap_line hline]
      rcases Nat.lt_or_ge (emptyLines t) 2 with hlt | hge
      · obtain ⟨hle, hshorter⟩ := ih t (Nat.le_refl _)
        rw [collapseGaps_line_of_lt hline hlt]
        simp only [List.length_append, List.length_cons]
        exact ⟨by omega, fun hgap => by have := hshorter (hgap.resolve_left (by omega)); omega⟩
      · have hrun : (behindEmptyLines t).length + emptyLines t ≤ t.length :=
          length_breakRun isIndent t
        have hle := (ih (behindEmptyLines t) (by omega)).1
        have htail := length_withoutTail_le line
        rw [collapseGaps_line_of_two_le hline hge]
        simp only [List.length_append, List.length_cons]
        exact ⟨by omega, fun _ => by omega⟩

/-- Collapsing leaves alone the texts without long gaps, and no others. -/
theorem collapseGaps_eq_self_iff : collapseGaps t = t ↔ ¬ HasLongGap t := by
  constructor
  · intro h hgap
    have hshorter := (length_collapseGaps t).2 hgap
    rw [h] at hshorter
    exact Nat.lt_irrefl _ hshorter
  · intro h
    induction t using line_induction with
    | last t hline => exact collapseGaps_of_notMem hline
    | line line t hline ih =>
        rw [hasLongGap_line hline, not_or] at h
        rw [collapseGaps_line_of_lt hline (by omega), ih t (Nat.le_refl _) h.2]

/-! ## Walls -/

/-- A character that is not blank neither fills a line nor breaks one. -/
theorem of_not_isBlank (h : isBlank c = false) :
    isIndent c = false ∧ c ≠ '\r' ∧ c ≠ '\n' := by
  refine ⟨?_, ?_, ?_⟩
  · by_contra hindent
    rw [Bool.not_eq_false] at hindent
    rw [(isBlank_of_isIndent hindent).1] at h
    cases h
  · rintro rfl
    exact absurd h (by decide)
  · rintro rfl
    exact absurd h (by decide)

/-- Whether a line break begins in front of a wall does not depend on what stands behind it. -/
theorem lineBreak?_append_cons (h : isBlank c = false) (t u : Text) :
    lineBreak? (t ++ c :: u) = (lineBreak? t).map (· ++ c :: u) := by
  obtain ⟨-, hreturn, hline⟩ := of_not_isBlank h
  rcases t with _ | ⟨d, _ | ⟨e, t⟩⟩
  · exact lineBreak?_eq_none hline hreturn u
  · by_cases hd : d = '\n'
    · subst hd
      rfl
    · unfold lineBreak?
      split <;> simp_all
  · unfold lineBreak?
    split <;> simp_all

/-- No line of blanks and tabs reaches over a wall. -/
theorem breakRun_append_cons (h : isBlank c = false) (t u : Text) :
    breakRun isIndent (t ++ c :: u) =
      ((breakRun isIndent t).1, (breakRun isIndent t).2 ++ c :: u) := by
  have hdrop : ∀ t : Text, (t ++ c :: u).dropWhile isIndent = t.dropWhile isIndent ++ c :: u := by
    intro t
    rw [List.dropWhile_append]
    split
    · next hnil => simp [List.isEmpty_iff.1 hnil, (of_not_isBlank h).1]
    · rfl
  fun_induction breakRun isIndent t with
  | case1 t rest hrest run ih =>
      have hbehind : lineBreak? ((t ++ c :: u).dropWhile isIndent) = some (rest ++ c :: u) := by
        rw [hdrop, lineBreak?_append_cons h, hrest]
        rfl
      rw [breakRun_of_lineBreak? hbehind, ih]
  | case2 t hnone =>
      refine breakRun_of_none ?_
      rw [hdrop, lineBreak?_append_cons h, hnone]
      rfl

theorem emptyLines_append_cons (h : isBlank c = false) (t u : Text) :
    emptyLines (t ++ c :: u) = emptyLines t := by
  rw [emptyLines, breakRun_append_cons h, emptyLines]

theorem behindEmptyLines_append_cons (h : isBlank c = false) (t u : Text) :
    behindEmptyLines (t ++ c :: u) = behindEmptyLines t ++ c :: u := by
  rw [behindEmptyLines, breakRun_append_cons h, behindEmptyLines]

/-- Collapsing works on both sides of a wall. -/
theorem collapseGaps_append_cons (h : isBlank c = false) (t u : Text) :
    collapseGaps (t ++ c :: u) = collapseGaps t ++ c :: collapseGaps u := by
  induction hlength : t.length using Nat.strongRecOn generalizing t with
  | _ n ih =>
      rcases Nat.lt_or_ge 2 (emptyLines t) with hlt | hle
      · have hrun : (behindEmptyLines t).length + emptyLines t ≤ t.length :=
          length_breakRun isIndent t
        rw [collapseGaps_of_lt hlt, collapseGaps_of_lt (by rwa [emptyLines_append_cons h]),
          behindEmptyLines_append_cons h, ih _ (by omega) _ rfl]
        rfl
      · cases t with
        | nil =>
            have hnone := emptyLines_append_cons h [] u
            rw [List.nil_append] at hnone ⊢
            rw [collapseGaps_cons (hnone ▸ hle), collapseGaps_nil, List.nil_append]
        | cons d t =>
            rw [List.length_cons] at hlength
            have hsame := emptyLines_append_cons h (d :: t) u
            rw [List.cons_append] at hsame ⊢
            rw [collapseGaps_cons (hsame ▸ hle), collapseGaps_cons hle, ih _ (by omega) _ rfl,
              List.cons_append]

/-- A text that begins with a wall is collapsed on its own. -/
theorem collapseGaps_append_of_head {u : Text} (h : ∀ c ∈ u.head?, isBlank c = false) (t : Text) :
    collapseGaps (t ++ u) = collapseGaps t ++ collapseGaps u := by
  cases u with
  | nil => simp
  | cons c u =>
      have hc : isBlank c = false := h c rfl
      have hwall := collapseGaps_append_cons hc [] u
      rw [List.nil_append, collapseGaps_nil, List.nil_append] at hwall
      rw [collapseGaps_append_cons hc, hwall]

/-- A text that ends with a wall is collapsed on its own. -/
theorem collapseGaps_append_of_last (h : ∀ c ∈ t.getLast?, isBlank c = false) (u : Text) :
    collapseGaps (t ++ u) = collapseGaps t ++ collapseGaps u := by
  rcases List.eq_nil_or_concat' t with rfl | ⟨front, c, rfl⟩
  · simp
  · have hc : isBlank c = false := h c (by simp)
    rw [List.append_assoc, List.singleton_append, collapseGaps_append_cons hc,
      collapseGaps_append_cons hc]
    simp

/-! ## Blanks at the ends -/

theorem length_trim_le (t : Text) : (trim t).length ≤ t.length := by
  obtain ⟨front, behind, -, -, ht⟩ := exists_trim t
  have hlength := congrArg List.length ht
  simp only [List.length_append] at hlength
  omega

/-- A trimmed text begins and ends with walls. -/
theorem trim_eq_self_iff : trim t = t ↔
    (∀ c ∈ t.head?, isBlank c = false) ∧ ∀ c ∈ t.getLast?, isBlank c = false := by
  constructor
  · intro h
    constructor
    · intro c hc
      by_contra hblank
      obtain ⟨rest, rfl⟩ := List.head?_eq_some_iff.1 hc
      have hfront : ∀ d ∈ [c], isBlank d = true := by simpa using hblank
      have hle := length_trim_le rest
      rw [← trim_blank_append hfront, List.singleton_append, h, List.length_cons] at hle
      omega
    · intro c hc
      by_contra hblank
      obtain ⟨front, rfl⟩ := List.getLast?_eq_some_iff.1 hc
      have hbehind : ∀ d ∈ [c], isBlank d = true := by simpa using hblank
      have hle := length_trim_le front
      rw [← trim_append_blank front hbehind, h, List.length_append, List.length_singleton] at hle
      omega
  · rintro ⟨hhead, hlast⟩
    have hstart : trimStart t = t := by
      cases t with
      | nil => rfl
      | cons c t => simp [trimStart, hhead c rfl]
    rw [trim, hstart, trimEnd]
    rcases List.eq_nil_or_concat' t with rfl | ⟨front, c, rfl⟩
    · rfl
    · simp [hlast c (by simp)]

/-- Collapsing leaves the lines of verse alone. -/
@[simp]
theorem verseLines_collapseGaps (t : Text) : verseLines (collapseGaps t) = verseLines t := by
  rw [← flatten_stanzas separator_isBlankLine, stanzas_collapseGaps,
    flatten_stanzas separator_isBlankLine]

/-- A blank text is collapsed to a blank text. -/
theorem isBlank_of_mem_collapseGaps (h : ∀ d ∈ t, isBlank d = true) :
    ∀ d ∈ collapseGaps t, isBlank d = true := by
  rwa [← verseLines_eq_nil_iff, verseLines_collapseGaps, verseLines_eq_nil_iff]

/-- A trimmed text is collapsed to a trimmed text. -/
theorem trim_collapseGaps (h : trim t = t) : trim (collapseGaps t) = collapseGaps t := by
  obtain ⟨hhead, hlast⟩ := trim_eq_self_iff.1 h
  refine trim_eq_self_iff.2 ⟨?_, ?_⟩
  · cases t with
    | nil => simp
    | cons c t =>
        have hc : isBlank c = false := hhead c rfl
        have hwall := collapseGaps_append_cons hc [] t
        rw [List.nil_append, collapseGaps_nil] at hwall
        simpa [hwall] using hc
  · rcases List.eq_nil_or_concat' t with rfl | ⟨front, c, rfl⟩
    · simp
    · have hc : isBlank c = false := hlast c (by simp)
      simpa [collapseGaps_append_cons hc] using hc

/-- Collapsing and trimming commute. -/
theorem collapseGaps_trim (t : Text) : collapseGaps (trim t) = trim (collapseGaps t) := by
  obtain ⟨front, behind, hfront, hbehind, ht⟩ := exists_trim t
  obtain ⟨hhead, hlast⟩ := trim_eq_self_iff.1 (trim_trim t)
  have hself := trim_collapseGaps (trim_trim t)
  by_cases hnil : trim t = []
  · have hblank := isBlank_of_mem_collapseGaps (trim_eq_nil_iff.1 hnil)
    rw [hnil, collapseGaps_nil, trim_eq_nil_iff.2 hblank]
  · have hmiddle : ∀ c ∈ (trim t ++ behind).head?, isBlank c = false := by
      rwa [List.head?_append_of_ne_nil _ hnil]
    conv_rhs => rw [ht, List.append_assoc, collapseGaps_append_of_head hmiddle,
      collapseGaps_append_of_last hlast, ← List.append_assoc,
      trim_append (isBlank_of_mem_collapseGaps hfront) (isBlank_of_mem_collapseGaps hbehind), hself]

end Text

end MarkedVerse
