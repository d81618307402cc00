import Mathlib.Data.List.DropRight
import MarkedVerse.Text.Lines

/-!
# Trimmed lines

Trimming takes away blanks at both ends and nothing else. The verse lines of a text are lines in
the sense of `IsVerseLine`: trimmed, not empty, and without a line feed. Lines of that kind are
read back from the text that they make up (`verseLines_join`).
-/

namespace MarkedVerse

namespace Text

/-! ## Trimming -/

/-- Cutting a text at a character is what the library does for lists. -/
theorem splitOn_eq (mark : Char) (t : Text) : splitOn mark t = List.splitOn mark t := by
  induction t with
  | nil => rfl
  | cons c t ih =>
      rw [splitOn, List.splitOn_cons_eq_if_modifyHead, ih]
      have hcons : consHead c (List.splitOn mark t) =
          (List.splitOn mark t).modifyHead (c :: ·) := by
        obtain ⟨piece, pieces, hsplit⟩ := List.exists_cons_of_ne_nil (List.splitOn_ne_nil mark t)
        rw [hsplit]
        rfl
      simp [hcons]

/-- Blanks in front of a text are trimmed with its own. -/
theorem trimStart_append {front : Text} (h : ∀ c ∈ front, isBlank c = true) (t : Text) :
    trimStart (front ++ t) = trimStart t :=
  List.dropWhile_append_of_pos h

/-- Blanks behind a text are trimmed with its own. -/
theorem trimEnd_append (t : Text) {behind : Text} (h : ∀ c ∈ behind, isBlank c = true) :
    trimEnd (t ++ behind) = trimEnd t := by
  rw [trimEnd, List.reverse_append, List.dropWhile_append_of_pos (by simpa using h), trimEnd]

/-- A text of blanks is trimmed to nothing, and no other text is. -/
theorem trim_eq_nil_iff {t : Text} : trim t = [] ↔ ∀ c ∈ t, isBlank c = true := by
  constructor
  · intro h
    have hstart : ∀ c ∈ trimStart t, isBlank c = true := List.rdropWhile_eq_nil_iff.1 h
    rw [← List.dropWhile_eq_nil_iff]
    -- Otherwise the text is cut at the front down to a character that is not blank.
    by_contra hne
    have hhead := hstart _ (List.head_mem hne)
    rw [List.head_dropWhile_not isBlank hne] at hhead
    cases hhead
  · intro h
    have hstart : trimStart t = [] := List.dropWhile_eq_nil_iff.2 h
    rw [trim, hstart]
    rfl

/-- Blanks around a text are trimmed with its own. -/
theorem trim_append {front behind : Text} (hfront : ∀ c ∈ front, isBlank c = true)
    (hbehind : ∀ c ∈ behind, isBlank c = true) (t : Text) :
    trim (front ++ t ++ behind) = trim t := by
  rw [trim, List.append_assoc, trimStart_append hfront, trim, trimStart, List.dropWhile_append]
  split
  · next hempty =>
      have hnil : trimStart t = [] := List.isEmpty_iff.1 hempty
      have hblank : List.dropWhile isBlank behind = [] := List.dropWhile_eq_nil_iff.2 hbehind
      rw [hnil, hblank]
  · exact trimEnd_append _ hbehind

/-- Blanks in front of a text are trimmed with those at its front. -/
theorem trim_blank_append {front : Text} (h : ∀ c ∈ front, isBlank c = true) (t : Text) :
    trim (front ++ t) = trim t := by
  simpa using trim_append h (List.forall_mem_nil _) t

/-- Blanks behind a text are trimmed with those at its back. -/
theorem trim_append_blank (t : Text) {behind : Text} (h : ∀ c ∈ behind, isBlank c = true) :
    trim (t ++ behind) = trim t := by
  simpa using trim_append (List.forall_mem_nil _) h t

/-- A text is its trimmed form with blanks around it. -/
theorem exists_trim (t : Text) : ∃ front behind, (∀ c ∈ front, isBlank c = true) ∧
    (∀ c ∈ behind, isBlank c = true) ∧ t = front ++ trim t ++ behind := by
  refine ⟨t.takeWhile isBlank, (trimStart t).rtakeWhile isBlank,
    fun c hc => List.mem_takeWhile_imp hc, fun c hc => List.mem_rtakeWhile_imp hc, ?_⟩
  have hend : trim t ++ (trimStart t).rtakeWhile isBlank = trimStart t :=
    List.rdropWhile_append_rtakeWhile
  rw [List.append_assoc, hend]
  exact List.takeWhile_append_dropWhile.symm

/-- Trimming twice is trimming once. -/
@[simp]
theorem trim_trim (t : Text) : trim (trim t) = trim t := by
  obtain ⟨front, behind, hfront, hbehind, ht⟩ := exists_trim t
  conv_rhs => rw [ht, trim_append hfront hbehind]

/-- A trimmed text holds no character that the text does not. -/
theorem mem_of_mem_trim {c : Char} {t : Text} (h : c ∈ trim t) : c ∈ t := by
  obtain ⟨front, behind, -, -, ht⟩ := exists_trim t
  rw [ht]
  simp [h]

/-- A bar is not blank. -/
theorem bar_not_mem_of_blank {t : Text} (h : ∀ c ∈ t, isBlank c = true) : '|' ∉ t :=
  fun hbar => absurd (h _ hbar) (by decide)

/-! ## Lines -/

/-- Texts are made of lines: the last one has no end. -/
theorem line_induction {motive : Text → Prop} (last : ∀ line, '\n' ∉ line → motive line)
    (line : ∀ line t, '\n' ∉ line → (∀ u : Text, u.length ≤ t.length → motive u) →
      motive (line ++ '\n' :: t)) (t : Text) : motive t := by
  induction hlength : t.length using Nat.strongRecOn generalizing t with
  | _ n ih =>
      by_cases hmem : '\n' ∈ t
      · obtain ⟨first, rest, rfl, hfirst⟩ := List.eq_append_cons_of_mem hmem
        rw [List.length_append, List.length_cons] at hlength
        exact line first rest hfirst fun u hu => ih u.length (by omega) u rfl
      · exact last t hmem

/-- A property of the characters in the pieces between marks is one of all others than marks. -/
theorem forall_mem_splitOn {mark : Char} {p : Char → Prop} {t : Text} :
    (∀ piece ∈ splitOn mark t, ∀ c ∈ piece, p c) ↔ ∀ c ∈ t, c ≠ mark → p c := by
  induction t with
  | nil => simp [splitOn]
  | cons d t ih =>
      rw [splitOn]
      split
      · next hd => simp [ih, hd]
      · next hd =>
          rw [splitOn_eq] at ih ⊢
          obtain ⟨piece, pieces, hsplit⟩ := List.exists_cons_of_ne_nil (List.splitOn_ne_nil mark t)
          rw [hsplit] at ih ⊢
          simp only [consHead, List.forall_mem_cons] at ih ⊢
          simp only [and_assoc, ← ih, ne_eq, hd, not_false_eq_true, forall_const]

/-- A line of verse: trimmed, not empty, and without a line feed. -/
structure IsVerseLine (line : Text) : Prop where
  trimmed : trim line = line
  nonempty : line ≠ []
  oneLine : '\n' ∉ line

/-- The verse lines of a text are lines of verse. -/
theorem isVerseLine_of_mem {line t : Text} (h : line ∈ verseLines t) : IsVerseLine line := by
  obtain ⟨hmem, hne⟩ := List.mem_filter.1 h
  obtain ⟨piece, hpiece, rfl⟩ := List.mem_map.1 hmem
  have hpieces : ∀ piece ∈ splitOn '\n' t, ∀ c ∈ piece, c ≠ '\n' :=
    forall_mem_splitOn.2 fun c _ hc => hc
  refine ⟨trim_trim piece, by simpa using hne, fun hline => ?_⟩
  exact hpieces piece hpiece _ (mem_of_mem_trim hline) rfl

/-- A carriage return at the end of a line is trimmed with it. -/
@[simp]
theorem trim_dropReturn (line : Text) : trim (dropReturn line) = trim line := by
  unfold dropReturn
  split
  · next hlast =>
      have hblank : ∀ c ∈ ['\r'], isBlank c = true := List.all_eq_true.1 rfl
      obtain ⟨front, rfl⟩ := List.getLast?_eq_some_iff.1 hlast
      rw [trim_append_blank front hblank, List.dropLast_concat]
  · rfl

/-- The verse lines of a text are its lines, trimmed, without those that are blank: neither the
returns that end lines nor a missing last line end make a difference. -/
theorem verseLines_eq (t : Text) :
    verseLines t = ((lines t).map trim).filter fun line => !line.isEmpty := by
  have hpieces : ∀ pieces : List Text,
      ((linesOf pieces).map trim).filter (fun line => !line.isEmpty) =
        (pieces.map trim).filter fun line => !line.isEmpty := by
    intro pieces
    fun_induction linesOf pieces with
    | case1 => rfl
    | case2 last hempty =>
        obtain rfl : last = [] := List.isEmpty_iff.1 hempty
        rfl
    | case3 last _ => rfl
    | case4 piece pieces _ ih =>
        rw [List.map_cons, List.filter_cons, ih, trim_dropReturn, List.map_cons, List.filter_cons]
  rw [lines, hpieces, verseLines]

/-- The verse lines of a text are those in front of a line feed and those behind it. -/
theorem verseLines_append_newline (t u : Text) :
    verseLines (t ++ '\n' :: u) = verseLines t ++ verseLines u := by
  rw [verseLines, splitOn_eq, List.splitOn_append_cons_self, List.map_append, List.filter_append,
    verseLines, verseLines, splitOn_eq, splitOn_eq]

/-- A text has no verse lines exactly when it is blank. -/
theorem verseLines_eq_nil_iff {t : Text} : verseLines t = [] ↔ ∀ c ∈ t, isBlank c = true := by
  have hlines : verseLines t = [] ↔ ∀ piece ∈ splitOn '\n' t, ∀ c ∈ piece, isBlank c = true := by
    simp [verseLines, List.filter_eq_nil_iff, trim_eq_nil_iff]
  rw [hlines, forall_mem_splitOn]
  refine forall₂_congr fun c _ => ⟨fun h => ?_, fun h _ => h⟩
  by_cases hc : c = '\n'
  · exact hc ▸ by decide
  · exact h hc

/-- A line feed in front of a text adds no verse line. -/
@[simp]
theorem verseLines_newline_cons (t : Text) : verseLines ('\n' :: t) = verseLines t :=
  verseLines_append_newline [] t

/-- One line of verse is the only verse line of its text. -/
theorem IsVerseLine.verseLines {line : Text} (h : IsVerseLine line) :
    verseLines line = [line] := by
  have hsplit : splitOn '\n' line = [line] := by
    rw [splitOn_eq, List.splitOn_eq_singleton h.oneLine]
  simp [Text.verseLines, hsplit, h.trimmed, h.nonempty]

/-- Lines that are joined stand one below the other. -/
theorem join_newline_cons (line : Text) (lines : List Text) :
    join ['\n'] (line :: lines) = line ++ lines.flatMap ('\n' :: ·) := by
  induction lines generalizing line with
  | nil => simp [join]
  | cons second lines ih =>
      have hrest := ih second
      simp only [join] at hrest ⊢
      simp [hrest]

/-- Lines of verse are read back from the text that they make up. -/
theorem verseLines_join {lines : List Text} (h : ∀ line ∈ lines, IsVerseLine line) :
    verseLines (join ['\n'] lines) = lines := by
  induction lines with
  | nil => rfl
  | cons line lines ih =>
      have hline := (h line List.mem_cons_self).verseLines
      have hlines := ih fun l hl => h l (List.mem_cons_of_mem _ hl)
      cases lines with
      | nil => simpa [join] using hline
      | cons second lines =>
          have hjoin : join ['\n'] (line :: second :: lines) =
              line ++ '\n' :: join ['\n'] (second :: lines) := by simp [join_newline_cons]
          rw [hjoin, verseLines_append_newline, hline, hlines]
          rfl

end Text

end MarkedVerse
