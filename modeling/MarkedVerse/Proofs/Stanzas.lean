import MarkedVerse.Proofs.Regrouping
import MarkedVerse.Proofs.VerseLines

/-!
# Stanzas

The stanzas of a text are its lines of verse between the lines that separate them. Which lines
separate is a choice: bare lines do between paragraphs, and blank lines do for the eye. Blanks
around a text do not matter to its stanzas (`stanzas_blank_append`, `stanzas_append_blank`), a line
that separates cuts them (`stanzas_append_separator`), and any other line feed can at most keep two
of them together (`refines_stanzas_append`).
-/

namespace MarkedVerse

namespace Text

/-- The lines of verse of each stretch between lines that separate. -/
def stretches (separates : Text → Bool) (lines : List Text) : List (List Text) :=
  (lines.splitOnP separates).map fun stretch => stretch.flatMap verseLines

/-- The stretches without those that have no verse. -/
def stanzasOf (separates : Text → Bool) (lines : List Text) : List (List Text) :=
  (stretches separates lines).filter fun stretch => !stretch.isEmpty

/-- The stanzas of a text. -/
def stanzas (separates : Text → Bool) (t : Text) : List (List Text) :=
  stanzasOf separates (splitOn '\n' t)

/-- All verse as one stanza, unless there is none. -/
def whole (verse : List Text) : List (List Text) :=
  [verse].filter fun stanza => !stanza.isEmpty

/-- A line that separates has no verse. -/
def Separator (separates : Text → Bool) : Prop :=
  ∀ line, separates line = true → verseLines line = []

variable {separates finer : Text → Bool} {line line' : Text} {lines more : List Text}

/-- A stanza has a line. -/
theorem ne_nil_of_mem_stanzasOf {stanza : List Text} (h : stanza ∈ stanzasOf separates lines) :
    stanza ≠ [] := by
  simpa using (List.mem_filter.1 h).2

/-! ## Lines -/

/-- A line that separates cuts the stanzas. -/
theorem stanzasOf_append_cons (h : separates line = true) (lines more : List Text) :
    stanzasOf separates (lines ++ line :: more) =
      stanzasOf separates lines ++ stanzasOf separates more := by
  rw [stanzasOf, stretches, List.splitOnP_append_cons _ _ h, List.map_append, List.filter_append]
  rfl

/-- Lines that do not separate are one stretch. -/
theorem stretches_eq_singleton (h : ∀ line ∈ lines, separates line = false) :
    stretches separates lines = [lines.flatMap verseLines] := by
  rw [stretches, List.splitOnP_eq_singleton h]
  rfl

/-- Where lines are joined, the stretches at the seam become one. -/
theorem stretches_append (separates : Text → Bool) (lines more : List Text) :
    ∃ front last first behind, stretches separates lines = front ++ [last] ∧
      stretches separates more = first :: behind ∧
      stretches separates (lines ++ more) = front ++ (last ++ first) :: behind := by
  obtain ⟨front, last, first, behind, hlines, hmore, happend⟩ :=
    splitOnP_append separates lines more
  refine ⟨front.map (·.flatMap verseLines), last.flatMap verseLines, first.flatMap verseLines,
    behind.map (·.flatMap verseLines), ?_, ?_, ?_⟩
  · rw [stretches, hlines, List.map_append]
    rfl
  · rw [stretches, hmore]
    rfl
  · rw [stretches, happend, List.map_append, List.map_cons, List.flatMap_append]

/-- The stretches of one line. -/
theorem stretches_singleton (hsep : Separator separates) (line : Text) :
    stretches separates [line] = [verseLines line] ∨
      verseLines line = [] ∧ stretches separates [line] = [[], []] := by
  cases h : separates line with
  | true => exact .inr ⟨hsep line h, by simp [stretches, List.splitOnP_cons_eq_if_modifyHead, h]⟩
  | false =>
      have hsingle : stretches separates [line] = [[line].flatMap verseLines] :=
        stretches_eq_singleton (by simpa using h)
      exact .inl (by simpa using hsingle)

/-- Only the verse of the first line matters. -/
theorem stanzasOf_cons (hsep : Separator separates) (line : Text) (lines : List Text) :
    stanzasOf separates (line :: lines) =
      ((stretches separates lines).modifyHead (verseLines line ++ ·)).filter
        fun stretch => !stretch.isEmpty := by
  obtain ⟨front, last, first, behind, hline, hlines, happend⟩ :=
    stretches_append separates [line] lines
  rw [stanzasOf, ← List.singleton_append, happend, hlines, List.modifyHead_cons]
  rcases stretches_singleton hsep line with hone | ⟨hverse, htwo⟩
  · rw [hone] at hline
    obtain ⟨rfl, rfl⟩ : front = [] ∧ last = verseLines line := by
      cases front <;> simp_all
    rfl
  · rw [htwo] at hline
    have hpieces : [[]] ++ [[]] = front ++ [last] := hline
    obtain ⟨rfl, hlast⟩ := List.append_inj' hpieces rfl
    cases hlast
    rw [hverse]
    rfl

/-- Only the verse of the last line matters. -/
theorem stanzasOf_concat (hsep : Separator separates) (lines : List Text) :
    ∃ front last, stretches separates lines = front ++ [last] ∧
      ∀ line, stanzasOf separates (lines ++ [line]) =
        (front ++ [last ++ verseLines line]).filter fun stretch => !stretch.isEmpty := by
  obtain ⟨front, last, -, -, hlines, -, -⟩ := stretches_append separates lines []
  refine ⟨front, last, hlines, fun line => ?_⟩
  obtain ⟨front', last', first, behind, hlines', hline, happend⟩ :=
    stretches_append separates lines [line]
  obtain ⟨rfl, rfl⟩ : front' = front ∧ last' = last := by
    rw [hlines] at hlines'
    simpa [eq_comm] using hlines'
  rw [stanzasOf, happend]
  rcases stretches_singleton hsep line with hone | ⟨hverse, htwo⟩
  · rw [hone] at hline
    cases hline
    rfl
  · rw [htwo] at hline
    cases hline
    rw [hverse, List.append_cons, List.filter_append]
    simp

/-- A line without verse in front of lines is no part of their stanzas. -/
theorem stanzasOf_cons_of_blank (hsep : Separator separates) (h : verseLines line = [])
    (lines : List Text) : stanzasOf separates (line :: lines) = stanzasOf separates lines := by
  obtain ⟨-, -, first, behind, -, hstretches, -⟩ := stretches_append separates [] lines
  rw [stanzasOf_cons hsep, h, stanzasOf, hstretches]
  rfl

/-- A line without verse behind lines is no part of their stanzas. -/
theorem stanzasOf_concat_of_blank (hsep : Separator separates) (h : verseLines line = [])
    (lines : List Text) : stanzasOf separates (lines ++ [line]) = stanzasOf separates lines := by
  obtain ⟨front, last, hstretches, hconcat⟩ := stanzasOf_concat hsep lines
  rw [hconcat, h, List.append_nil, ← hstretches, stanzasOf]

/-- Lines without verse around lines are no part of their stanzas. -/
theorem stanzasOf_append_of_blank (hsep : Separator separates) {before behind : List Text}
    (h : ∀ line ∈ before ++ behind, verseLines line = []) (lines : List Text) :
    stanzasOf separates (before ++ lines ++ behind) = stanzasOf separates lines := by
  induction behind using List.reverseRecOn with
  | nil =>
      rw [List.append_nil] at h ⊢
      induction before with
      | nil => rfl
      | cons line before ih =>
          rw [List.cons_append, stanzasOf_cons_of_blank hsep (h line List.mem_cons_self),
            ih fun l hl => h l (List.mem_cons_of_mem _ hl)]
  | append_singleton behind line ih =>
      have hline : verseLines line = [] := h line (by simp)
      rw [← List.append_assoc, stanzasOf_concat_of_blank hsep hline, ih fun l hl => h l (by grind)]

/-- When no line separates, the verse is one stanza. -/
theorem stanzasOf_of_forall (h : ∀ line ∈ lines, separates line = false) :
    stanzasOf separates lines = whole (lines.flatMap verseLines) := by
  rw [stanzasOf, stretches_eq_singleton h, whole]

/-- A line at the end need not be looked at. -/
theorem stanzasOf_of_dropLast (hsep : Separator separates)
    (h : ∀ line ∈ lines.dropLast, separates line = false) :
    stanzasOf separates lines = whole (lines.flatMap verseLines) := by
  induction lines using List.reverseRecOn with
  | nil => exact stanzasOf_of_forall (by simp)
  | append_singleton front last _ =>
      rw [List.dropLast_concat] at h
      cases hlast : separates last with
      | true =>
          have hverse := hsep last hlast
          rw [stanzasOf_concat_of_blank hsep hverse, stanzasOf_of_forall h, List.flatMap_append]
          simp [hverse]
      | false => exact stanzasOf_of_forall (by grind)

/-- Neither the line at the front nor the one at the end need be looked at. -/
theorem stanzasOf_of_inner (hsep : Separator separates)
    (h : ∀ line ∈ lines.tail.dropLast, separates line = false) :
    stanzasOf separates lines = whole (lines.flatMap verseLines) := by
  cases lines with
  | nil => exact stanzasOf_of_forall (by simp)
  | cons first rest =>
      rw [List.tail_cons] at h
      cases hfirst : separates first with
      | true =>
          have hverse := hsep first hfirst
          rw [stanzasOf_cons_of_blank hsep hverse, stanzasOf_of_dropLast hsep h, List.flatMap_cons,
            hverse, List.nil_append]
      | false =>
          refine stanzasOf_of_dropLast hsep fun line hline => ?_
          cases rest with
          | nil => cases hline
          | cons second rest =>
              rw [List.dropLast_cons_cons] at hline
              rcases List.mem_cons.1 hline with rfl | hline
              · exact hfirst
              · exact h line hline

/-- Joining lines can only keep two stanzas together. -/
theorem refines_stanzasOf_append (separates : Text → Bool) (lines more : List Text) :
    Refines (stanzasOf separates lines ++ stanzasOf separates more)
      (stanzasOf separates (lines ++ more)) := by
  obtain ⟨front, last, first, behind, hlines, hmore, happend⟩ :=
    stretches_append separates lines more
  rw [stanzasOf, stanzasOf, stanzasOf, hlines, hmore, happend, List.filter_append,
    List.filter_append, List.append_assoc]
  refine (Refines.refl _).append ?_
  cases last with
  | nil => exact .refl _
  | cons line last =>
      cases first with
      | nil => simpa using Refines.refl _
      | cons line' first =>
          simpa using Refines.cons [line :: last, line' :: first] (.refl _)

/-- The stanzas hold the lines of verse, in order. -/
theorem flatten_stanzasOf (hsep : Separator separates) (lines : List Text) :
    (stanzasOf separates lines).flatten = lines.flatMap verseLines := by
  rw [stanzasOf, List.flatten_filter_not_isEmpty]
  induction lines with
  | nil => simp [stretches]
  | cons line lines ih =>
      obtain ⟨front, last, first, behind, hline, hlines, happend⟩ :=
        stretches_append separates [line] lines
      have hfirst : (front ++ [last]).flatten = verseLines line := by
        rw [← hline]
        rcases stretches_singleton hsep line with hone | ⟨hverse, htwo⟩
        · simp [hone]
        · simp [htwo, hverse]
      rw [← List.singleton_append, happend, List.flatMap_append, ← ih, hlines]
      simp [← hfirst]

/-- The stanzas are parts of all the verse. -/
theorem refines_whole (hsep : Separator separates) (lines : List Text) :
    Refines (stanzasOf separates lines) (whole (lines.flatMap verseLines)) := by
  have hflatten := flatten_stanzasOf hsep lines
  cases hverse : lines.flatMap verseLines with
  | nil =>
      have hnone : stanzasOf separates lines = [] := by
        rw [hverse, List.flatten_eq_nil_iff] at hflatten
        exact List.eq_nil_iff_forall_not_mem.2 fun stanza hmem =>
          ne_nil_of_mem_stanzasOf hmem (hflatten stanza hmem)
      rw [hnone]
      exact .nil
  | cons line rest =>
      rw [← hverse, ← hflatten, whole, List.filter_cons_of_pos (by simp [hflatten, hverse])]
      exact .singleton _

/-- With more lines that separate, the stanzas are parts of those with fewer. -/
theorem refines_of_finer (hsep : Separator finer)
    (hfiner : ∀ line, separates line = true → finer line = true) (lines : List Text) :
    Refines (stanzasOf finer lines) (stanzasOf separates lines) := by
  induction hlength : lines.length using Nat.strongRecOn generalizing lines with
  | _ n ih =>
      by_cases hsome : ∃ line ∈ lines, separates line = true
      · obtain ⟨line, hmem, hline⟩ := hsome
        obtain ⟨front, behind, rfl⟩ := List.append_of_mem hmem
        rw [stanzasOf_append_cons (hfiner line hline), stanzasOf_append_cons hline]
        rw [List.length_append, List.length_cons] at hlength
        exact (ih _ (by omega) front rfl).append (ih _ (by omega) behind rfl)
      · have hone : stanzasOf separates lines = whole (lines.flatMap verseLines) :=
          stanzasOf_of_forall (by simpa using hsome)
        exact hone ▸ refines_whole hsep lines

/-! ## Texts -/

variable {t : Text}

/-- A line has no line feed. -/
theorem newline_not_mem_of_mem_splitOn (h : line ∈ splitOn '\n' t) : '\n' ∉ line := fun hmem =>
  forall_mem_splitOn.2 (fun _ _ hc => hc) line h _ hmem rfl

/-- One line has at most one line of verse. -/
theorem verseLines_of_newline_not_mem (h : '\n' ∉ line) :
    verseLines line = [trim line].filter fun line => !line.isEmpty := by
  rw [verseLines, splitOn_eq, List.splitOn_eq_singleton h]
  rfl

/-- The lines of a text hold its lines of verse. -/
theorem flatMap_verseLines_splitOn (t : Text) :
    (splitOn '\n' t).flatMap verseLines = verseLines t := by
  rw [List.flatMap_congr fun line hline =>
      verseLines_of_newline_not_mem (newline_not_mem_of_mem_splitOn hline),
    ← List.filter_flatMap, ← List.map_eq_flatMap, verseLines]

/-- A line that separates cuts the stanzas of a text. -/
theorem stanzas_append_separator (h : separates line = true) (hline : '\n' ∉ line) (t u : Text) :
    stanzas separates (t ++ '\n' :: line ++ '\n' :: u) =
      stanzas separates t ++ stanzas separates u := by
  have hsplit : splitOn '\n' (t ++ '\n' :: line ++ '\n' :: u) =
      splitOn '\n' t ++ line :: splitOn '\n' u := by
    rw [splitOn_eq, List.splitOn_append_cons_self, List.splitOn_append_cons_self,
      List.splitOn_eq_singleton hline, splitOn_eq, splitOn_eq]
    simp
  rw [stanzas, hsplit, stanzasOf_append_cons h, stanzas, stanzas]

/-- A line feed between texts can only keep two stanzas together. -/
theorem refines_stanzas_append (separates : Text → Bool) (t u : Text) :
    Refines (stanzas separates t ++ stanzas separates u) (stanzas separates (t ++ '\n' :: u)) := by
  have hsplit : splitOn '\n' (t ++ '\n' :: u) = splitOn '\n' t ++ splitOn '\n' u := by
    rw [splitOn_eq, List.splitOn_append_cons_self, splitOn_eq, splitOn_eq]
  rw [stanzas, stanzas, stanzas, hsplit]
  exact refines_stanzasOf_append separates _ _

/-- A blank in front of a text is no part of its stanzas. -/
theorem stanzas_blank_cons (hsep : Separator separates) {c : Char} (h : isBlank c = true)
    (t : Text) : stanzas separates (c :: t) = stanzas separates t := by
  by_cases hc : c = '\n'
  · rw [stanzas, splitOn, if_pos hc]
    exact stanzasOf_cons_of_blank hsep rfl _
  · obtain ⟨line, lines, hsplit⟩ :=
      List.exists_cons_of_ne_nil (splitOn_eq '\n' t ▸ List.splitOn_ne_nil '\n' t)
    have hline : '\n' ∉ line := newline_not_mem_of_mem_splitOn (hsplit ▸ List.mem_cons_self)
    have hblank : ∀ d ∈ [c], isBlank d = true := by simpa using h
    have htrim : trim ([c] ++ line) = trim line := trim_blank_append hblank line
    have hverse : verseLines (c :: line) = verseLines line := by
      have hcons : '\n' ∉ c :: line := by simp [hline, Ne.symm hc]
      rw [verseLines_of_newline_not_mem hline, verseLines_of_newline_not_mem hcons, ← htrim,
        List.singleton_append]
    rw [stanzas, splitOn, if_neg hc, hsplit, consHead, stanzasOf_cons hsep, hverse,
      ← stanzasOf_cons hsep, stanzas, hsplit]

/-- Blanks in front of a text are no part of its stanzas. -/
theorem stanzas_blank_append (hsep : Separator separates) {front : Text}
    (h : ∀ c ∈ front, isBlank c = true) (t : Text) :
    stanzas separates (front ++ t) = stanzas separates t := by
  induction front with
  | nil => rfl
  | cons c front ih =>
      rw [List.cons_append, stanzas_blank_cons hsep (h c List.mem_cons_self),
        ih fun d hd => h d (List.mem_cons_of_mem _ hd)]

/-- A blank behind a text is no part of its stanzas. -/
theorem stanzas_concat_blank (hsep : Separator separates) {c : Char} (h : isBlank c = true)
    (t : Text) : stanzas separates (t ++ [c]) = stanzas separates t := by
  by_cases hc : c = '\n'
  · have hsplit : splitOn '\n' (t ++ [c]) = splitOn '\n' t ++ [[]] := by
      rw [hc, splitOn_eq, List.splitOn_append_cons_self, splitOn_eq]
      rfl
    rw [stanzas, hsplit]
    exact stanzasOf_concat_of_blank hsep rfl _
  · obtain ⟨front, last, first, behind, ht, hfirst, happend⟩ :=
      splitOnP_append (· == '\n') t [c]
    obtain ⟨rfl, rfl⟩ : [c] = first ∧ [] = behind := by
      simpa [List.splitOnP_cons_eq_if_modifyHead, hc] using hfirst
    have hsplit : splitOn '\n' t = front ++ [last] := (splitOn_eq _ _).trans ht
    have hlast : '\n' ∉ last := newline_not_mem_of_mem_splitOn (t := t) (by simp [hsplit])
    have hblank : ∀ d ∈ [c], isBlank d = true := by simpa using h
    have htrim : trim (last ++ [c]) = trim last := trim_append_blank last hblank
    have hverse : verseLines (last ++ [c]) = verseLines last := by
      have hconcat : '\n' ∉ last ++ [c] := by simp [hlast, Ne.symm hc]
      rw [verseLines_of_newline_not_mem hlast, verseLines_of_newline_not_mem hconcat, htrim]
    obtain ⟨before, verse, -, hconcat⟩ := stanzasOf_concat hsep front
    have hsplit' : splitOn '\n' (t ++ [c]) = front ++ [last ++ [c]] :=
      (splitOn_eq _ _).trans happend
    rw [stanzas, hsplit', hconcat, hverse, ← hconcat, stanzas, hsplit]

/-- Blanks behind a text are no part of its stanzas. -/
theorem stanzas_append_blank (hsep : Separator separates) (t : Text) {behind : Text}
    (h : ∀ c ∈ behind, isBlank c = true) :
    stanzas separates (t ++ behind) = stanzas separates t := by
  induction behind using List.reverseRecOn with
  | nil => rw [List.append_nil]
  | append_singleton behind c ih =>
      rw [← List.append_assoc, stanzas_concat_blank hsep (h c (by simp)),
        ih fun d hd => h d (List.mem_append_left _ hd)]

/-- Trimming a text leaves its stanzas alone. -/
theorem stanzas_trim (hsep : Separator separates) (t : Text) :
    stanzas separates (trim t) = stanzas separates t := by
  obtain ⟨front, behind, hfront, hbehind, ht⟩ := exists_trim t
  conv_rhs => rw [ht, stanzas_append_blank hsep _ hbehind, stanzas_blank_append hsep hfront]

/-- The stanzas of a text hold its lines of verse. -/
theorem flatten_stanzas (hsep : Separator separates) (t : Text) :
    (stanzas separates t).flatten = verseLines t := by
  rw [stanzas, flatten_stanzasOf hsep, flatMap_verseLines_splitOn]

/-- The stanzas of a text are parts of all its verse. -/
theorem refines_stanzas (hsep : Separator separates) (t : Text) :
    Refines (stanzas separates t) (whole (verseLines t)) := by
  rw [← flatMap_verseLines_splitOn]
  exact refines_whole hsep _

/-- Trimming a text leaves its lines of verse alone. -/
@[simp]
theorem verseLines_trim (t : Text) : verseLines (trim t) = verseLines t := by
  have hsep : Separator fun _ => false := fun _ h => by cases h
  rw [← flatten_stanzas hsep, stanzas_trim hsep, flatten_stanzas hsep]

end Text

end MarkedVerse
