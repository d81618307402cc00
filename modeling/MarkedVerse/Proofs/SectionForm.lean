import MarkedVerse.Proofs.Paragraphs
import MarkedVerse.Proofs.SectionMeaning

/-!
# The form of sections

A divider has no content, and every other section has at least one line. Where the content is made
up of these lines, trimmed and one below the other, the section is tidy. `sections_form` says when
the sections of a text are: those of a text with markers always are, but a paragraph of a text
without markers is kept as it stands, so it has to be tidy by itself.
-/

namespace MarkedVerse

namespace Text

/-- A text consists of its verse lines exactly when every line is trimmed and not blank. -/
theorem join_verseLines_eq_iff {t : Text} (ht : t ≠ []) :
    t = join ['\n'] (verseLines t) ↔
      ∀ line ∈ splitOn '\n' t, trim line = line ∧ line ≠ [] := by
  constructor
  · intro h
    have hne : verseLines t ≠ [] := by
      intro hnil
      rw [hnil] at h
      exact ht h
    -- Cut at its line feeds, the text has its verse lines and no others.
    have hsplit : splitOn '\n' t = verseLines t := by
      conv_lhs => rw [h, splitOn_eq, join]
      exact List.splitOn_intercalate '\n' (fun line hline => (isVerseLine_of_mem hline).oneLine) hne
    intro line hline
    have hverse := isVerseLine_of_mem (hsplit ▸ hline)
    exact ⟨hverse.trimmed, hverse.nonempty⟩
  · intro h
    have htrim : (splitOn '\n' t).map trim = splitOn '\n' t := by
      rw [List.map_congr_left fun line hline => (h line hline).1]
      exact List.map_id' _
    have hlines : verseLines t = splitOn '\n' t := by
      rw [verseLines, htrim, List.filter_eq_self]
      exact fun line hline => by simpa using (h line hline).2
    rw [hlines, splitOn_eq, join, List.intercalate_splitOn]

end Text

namespace Section

/-- A section that is a divider without content, or has lines and consists of them. -/
structure Tidy (s : Section) : Prop where
  divider : s.isBreak = true → s.content = []
  lines_ne_nil : s.isBreak = false → s.lines ≠ []
  content : s.isBreak = false → s.content = Text.join ['\n'] s.lines

theorem tidy_divider : Tidy divider where
  divider _ := rfl
  lines_ne_nil h := by cases h
  content h := by cases h

/-- The section of a plain text is tidy. -/
theorem tidy_block {t : Text} (h : Text.verseLines t ≠ []) (role : Role) :
    Tidy (block role t) where
  divider hbreak := by cases role <;> cases hbreak
  lines_ne_nil _ := by rwa [lines_block]
  content _ := by
    rw [lines_block]
    cases role <;> rfl

/-- A section of segments is a divider, or the section of a plain text. -/
theorem eq_divider_or_block {role : Role} {segments : List Segment} {s : Section}
    (h : s ∈ sectionsFrom role segments) :
    s = divider ∨ ∃ role t, Text.verseLines t ≠ [] ∧ s = block role t := by
  induction segments generalizing role with
  | nil => cases h
  | cons segment segments ih =>
      cases segment with
      | text t =>
          rcases List.mem_append.1 h with h | h
          · by_cases hlines : Text.verseLines t = []
            · simp [ofText, hlines] at h
            · rw [ofText_eq_block hlines, List.mem_singleton] at h
              exact .inr ⟨role, t, hlines, h⟩
          · exact ih h
      | marker m =>
          rw [sectionsFrom] at h
          split at h
          · rcases List.mem_cons.1 h with rfl | h
            · exact .inl rfl
            · exact ih h
          · exact ih h

/-- The sections of a text with markers are tidy. -/
theorem tidy_of_mem_parse {t : Text} (h : Segment.markers t ≠ []) {s : Section}
    (hs : s ∈ parse t) : Tidy s := by
  rw [parse_eq_sectionsFrom h] at hs
  obtain rfl | ⟨role, t, hlines, rfl⟩ := eq_divider_or_block hs
  · exact tidy_divider
  · exact tidy_block hlines role

/-- A text without markers has a section for each paragraph. -/
theorem mem_parse_iff {t : Text} (h : Segment.markers t = []) {s : Section} :
    s ∈ parse t ↔ ∃ paragraph ∈ Text.paragraphs t, verse paragraph .right = s := by
  rw [parse_eq_paragraphs h, List.mem_map]

/-- Dividers have no content, and every other section of a text has lines. -/
theorem form_of_mem_parse {t : Text} {s : Section} (hs : s ∈ parse t) :
    (s.isBreak = true → s.content = []) ∧ (s.isBreak = false → s.lines ≠ []) := by
  by_cases h : Segment.markers t = []
  · obtain ⟨paragraph, hparagraph, rfl⟩ := (mem_parse_iff h).1 hs
    refine ⟨fun hbreak => ?_, fun _ => Text.verseLines_ne_nil_of_mem_paragraphs hparagraph⟩
    cases hbreak
  · have htidy := tidy_of_mem_parse h hs
    exact ⟨htidy.divider, htidy.lines_ne_nil⟩

/-- The sections of a text without markers consist of their lines exactly when the lines of its
paragraphs are trimmed and not blank as they stand. -/
theorem content_eq_join_iff {t : Text} (h : Segment.markers t = []) :
    (∀ s ∈ parse t, s.isBreak = false → s.content = Text.join ['\n'] s.lines) ↔
      ∀ paragraph ∈ Text.paragraphs t,
        ∀ line ∈ Text.splitOn '\n' paragraph, Text.trim line = line ∧ line ≠ [] := by
  have hform : ∀ paragraph ∈ Text.paragraphs t,
      paragraph = Text.join ['\n'] (Text.verseLines paragraph) ↔
        ∀ line ∈ Text.splitOn '\n' paragraph, Text.trim line = line ∧ line ≠ [] :=
    fun paragraph hp => Text.join_verseLines_eq_iff (Text.trim_of_mem_paragraphs hp).2
  constructor
  · intro hcontent paragraph hp
    refine (hform paragraph hp).1 ?_
    exact hcontent (verse paragraph .right) ((mem_parse_iff h).2 ⟨paragraph, hp, rfl⟩) rfl
  · intro hlines s hs _
    obtain ⟨paragraph, hp, rfl⟩ := (mem_parse_iff h).1 hs
    exact (hform paragraph hp).2 (hlines paragraph hp)

end Section

/-- Dividers have no content, and every other section has lines, each of them trimmed, not empty and
without a line feed. The other sections consist of their lines exactly when the text has markers or
each line of each paragraph is trimmed and not blank. -/
theorem sections_form (t : Text) :
    (∀ s ∈ Section.parse t, (s.isBreak = true → s.content = []) ∧
      (s.isBreak = false → s.lines ≠ [] ∧ ∀ line ∈ s.lines, Text.IsVerseLine line)) ∧
    ((∀ s ∈ Section.parse t, s.isBreak = false → s.content = Text.join ['\n'] s.lines) ↔
      Segment.markers t ≠ [] ∨ ∀ paragraph ∈ Text.paragraphs t,
        ∀ line ∈ Text.splitOn '\n' paragraph, Text.trim line = line ∧ line ≠ []) := by
  constructor
  · intro s hs
    obtain ⟨hdivider, hlines⟩ := Section.form_of_mem_parse hs
    exact ⟨hdivider, fun hbreak => ⟨hlines hbreak, fun line => Text.isVerseLine_of_mem⟩⟩
  · by_cases h : Segment.markers t = []
    · rw [Section.content_eq_join_iff h]
      simp [h]
    · -- Behind or in front of a marker, lines are trimmed one by one.
      refine ⟨fun _ => .inl h, fun _ s hs => ?_⟩
      exact (Section.tidy_of_mem_parse h hs).content

/-- A text without markers whose lines end with returns: the return stays inside the paragraph, so
the section does not consist of its lines. -/
theorem return_stays_in_paragraph :
    ¬∀ s ∈ Section.parse "one\r\ntwo".toList,
      s.isBreak = false → s.content = Text.join ['\n'] s.lines := by
  decide +kernel

end MarkedVerse
