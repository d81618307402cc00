import MarkedVerse.Proofs.EditOrder
import MarkedVerse.Proofs.Offsets

/-!
# Editing in one pass

Edits that take different characters of a text may come in any order. Carrying them out from the last
to the first gives the text that is built in one pass from the first character to the last: what
stands between the ranges is kept, and the new texts stand in place of the ranges
(`edits_build_in_one_pass`). Ranges are counted in bytes here, so an edit fails unless both of its
ends lie between characters of the text that it meets; none does, because no edit moves what stands
in front of it.
-/

namespace MarkedVerse

namespace Edit

/-! ## Ranges in bytes -/

/-- The range of an edit, counted in bytes, takes some of the characters of the text. -/
structure FitsIn (e : Edit) (t : Text) : Prop where
  nonempty : e.start < e.stop
  start : t.IsBoundary e.start
  stop : t.IsBoundary e.stop

instance (e : Edit) (t : Text) : Decidable (e.FitsIn t) :=
  decidable_of_iff (e.start < e.stop ∧ t.IsBoundary e.start ∧ t.IsBoundary e.stop)
    ⟨fun h => ⟨h.1, h.2.1, h.2.2⟩, fun h => ⟨h.nonempty, h.start, h.stop⟩⟩

/-- No character is in the ranges of both edits. -/
def Apart (a b : Edit) : Prop :=
  a.stop ≤ b.start ∨ b.stop ≤ a.start

instance (a b : Edit) : Decidable (Apart a b) :=
  inferInstanceAs (Decidable (a.stop ≤ b.start ∨ b.stop ≤ a.start))

/-- Carries out an edit whose range is counted in bytes. -/
def applyBytes? (e : Edit) (t : Text) : Option Text := do
  let (before, behind) ← t.cutAt? e.stop
  let (front, _) ← before.cutAt? e.start
  some (front ++ e.newText ++ behind)

/-- Carries out all edits, those with the greatest start first. -/
def applyAllBytes? (edits : List Edit) (t : Text) : Option Text :=
  (edits.mergeSort fun a b => decide (b.start ≤ a.start)).foldlM (fun t e => e.applyBytes? t) t

/-- The edits by rising start. -/
def rising (edits : List Edit) : List Edit :=
  edits.mergeSort fun a b => decide (a.start ≤ b.start)

/-- Builds the edited text from the rest of a text, which starts at this offset, and the edits that
are left, by rising start: what stands in front of the next range is kept, the range is skipped, and
the new text stands there. -/
def onePass? (offset : Nat) : List Edit → Text → Option Text
  | [], rest => some rest
  | e :: edits, rest => do
    let (kept, rest) ← rest.cutAt? (e.start - offset)
    let (_, rest) ← rest.cutAt? (e.stop - e.start)
    let built ← onePass? e.stop edits rest
    some (kept ++ e.newText ++ built)

/-- The edit of a text with its range counted in characters. -/
def inCharacters (t : Text) (e : Edit) : Edit :=
  ⟨t.position e.start, t.position e.stop, e.newText⟩

variable {edits : List Edit} {front t out : Text} {offset : Nat}

/-! ## Kept and replaced parts -/

/-- The rest of a text, which starts at this offset, and what edits by rising start make of it: it is
cut into parts that are kept and, between them, the ranges of the edits with their new texts. -/
inductive Replaced : (offset : Nat) → List Edit → Text → Text → Prop where
  | rest (offset : Nat) (t : Text) : Replaced offset [] t t
  | edit {offset : Nat} {edits : List Edit} {t out : Text} (kept old newText : Text) :
      Replaced (offset + kept.byteLength + old.byteLength) edits t out →
      Replaced offset
        (⟨offset + kept.byteLength, offset + kept.byteLength + old.byteLength, newText⟩ :: edits)
        (kept ++ old ++ t) (kept ++ newText ++ out)

/-- Edits with ranges that follow one another cut the text. -/
theorem exists_replaced (hfits : ∀ e ∈ edits, e.FitsIn (front ++ t))
    (hbehind : ∀ e ∈ edits, front.byteLength ≤ e.start)
    (hrising : edits.Pairwise fun a b => a.stop ≤ b.start) :
    ∃ out, Replaced front.byteLength edits t out := by
  induction edits generalizing front t with
  | nil => exact ⟨t, .rest _ t⟩
  | cons e edits ih =>
      obtain ⟨hnext, hlater⟩ := List.pairwise_cons.1 hrising
      have hfirst := hfits e List.mem_cons_self
      obtain ⟨before, behind, hstart, hbefore⟩ := hfirst.start
      obtain ⟨covered, rest, hstop, hcovered⟩ := hfirst.stop
      -- The range starts behind the front, and it stops behind its start.
      obtain ⟨kept, rfl, rfl⟩ := Text.isSize_byteLength.exists_front hstart
        (hbefore ▸ hbehind e List.mem_cons_self)
      obtain ⟨old, rfl, rfl⟩ := Text.isSize_byteLength.exists_front (hstart.symm.trans hstop)
        (by rw [hbefore, hcovered]; exact Nat.le_of_lt hfirst.nonempty)
      obtain ⟨start, stop, newText⟩ := e
      simp only [Text.byteLength_append] at hbefore hcovered
      subst hbefore hcovered
      have hcut : front ++ (kept ++ (old ++ rest)) = front ++ kept ++ old ++ rest := by
        simp only [List.append_assoc]
      rw [hcut] at hfits
      obtain ⟨out, hout⟩ := ih (fun e he => hfits e (List.mem_cons_of_mem _ he))
        (fun e he => by simpa only [Text.byteLength_append] using hnext e he) hlater
      simp only [Text.byteLength_append] at hout
      refine ⟨kept ++ newText ++ out, ?_⟩
      rw [← List.append_assoc kept]
      exact .edit kept old newText hout

/-- The pass from the first character to the last keeps and replaces these parts. -/
theorem Replaced.onePass? (h : Replaced offset edits t out) :
    onePass? offset edits t = some out := by
  induction h with
  | rest offset t => rfl
  | @edit offset edits t out kept old newText _ ih =>
      have hkept : offset + kept.byteLength - offset = kept.byteLength := Nat.add_sub_cancel_left _ _
      have hold : offset + kept.byteLength + old.byteLength - (offset + kept.byteLength) =
          old.byteLength := Nat.add_sub_cancel_left _ _
      simp only [Edit.onePass?, hkept, hold, List.append_assoc, Text.cutAt?_append, bind,
        Option.bind_some, ih]

/-- An edit is carried out at its range, wherever it starts. -/
theorem applyBytes?_append (front old behind newText : Text) :
    applyBytes? ⟨front.byteLength, front.byteLength + old.byteLength, newText⟩
      (front ++ old ++ behind) = some (front ++ newText ++ behind) := by
  simp only [applyBytes?, ← Text.byteLength_append, Text.cutAt?_append, bind, Option.bind_some]

/-- An edit does the same with its range counted in characters of a text with the same front. -/
theorem apply_inCharacters_append (front old behind rest newText : Text) :
    (inCharacters (front ++ old ++ rest)
      ⟨front.byteLength, front.byteLength + old.byteLength, newText⟩).apply
        (front ++ old ++ behind) = front ++ newText ++ behind := by
  have hstart : (front ++ old ++ rest).position front.byteLength = front.length := by
    rw [List.append_assoc, Text.position_append]
  have hstop : (front ++ old ++ rest).position (front.byteLength + old.byteLength) =
      front.length + old.length := by
    rw [← Text.byteLength_append, Text.position_append, List.length_append]
  rw [inCharacters, hstart, hstop]
  exact apply_append front old behind newText

/-- Carrying out the edits from the last to the first replaces the same parts. Those that are left
find the text in front of them untouched. -/
theorem Replaced.foldrM_applyBytes? (h : Replaced offset edits t out)
    (hfront : front.byteLength = offset) :
    edits.foldrM (fun e t => e.applyBytes? t) (front ++ t) = some (front ++ out) := by
  induction h generalizing front with
  | rest offset t => rfl
  | @edit offset edits t out kept old newText _ ih =>
      subst hfront
      have hbehind : (front ++ kept ++ old).byteLength =
          front.byteLength + kept.byteLength + old.byteLength := by
        rw [Text.byteLength_append, Text.byteLength_append]
      have hlater := ih hbehind
      have hlast := applyBytes?_append (front ++ kept) old out newText
      simp only [Text.byteLength_append, List.append_assoc] at hlater hlast ⊢
      rw [List.foldrM_cons, hlater]
      exact hlast

/-- The same holds for ranges that are counted in characters. -/
theorem Replaced.foldr_apply (h : Replaced offset edits t out)
    (hfront : front.byteLength = offset) :
    (edits.map (inCharacters (front ++ t))).foldr apply (front ++ t) = front ++ out := by
  induction h generalizing front with
  | rest offset t => rfl
  | @edit offset edits t out kept old newText _ ih =>
      subst hfront
      have hbehind : (front ++ kept ++ old).byteLength =
          front.byteLength + kept.byteLength + old.byteLength := by
        rw [Text.byteLength_append, Text.byteLength_append]
      have hlater := ih hbehind
      have hlast := apply_inCharacters_append (front ++ kept) old out t newText
      simp only [Text.byteLength_append, List.append_assoc] at hlater hlast ⊢
      rw [List.map_cons, List.foldr_cons, hlater]
      exact hlast

/-! ## Any order -/

/-- Sorting keeps the edits. -/
theorem perm_rising (edits : List Edit) : edits.Perm (rising edits) :=
  (List.mergeSort_perm edits _).symm

/-- Sorted ranges without common characters follow one another. -/
theorem pairwise_rising (hfits : ∀ e ∈ edits, e.FitsIn t) (hapart : edits.Pairwise Apart) :
    (rising edits).Pairwise fun a b => a.stop ≤ b.start := by
  have hsorted : (rising edits).Pairwise fun a b => decide (a.start ≤ b.start) = true :=
    List.pairwise_mergeSort (by simp only [decide_eq_true_eq]; omega)
      (by simp only [Bool.or_eq_true, decide_eq_true_eq]; omega) edits
  have hdistinct : (rising edits).Pairwise Apart :=
    ((perm_rising edits).pairwise_iff fun h => h.symm).1 hapart
  refine (hsorted.and hdistinct).imp_of_mem fun {a b} ha hb hab => ?_
  have hstart : a.start ≤ b.start := of_decide_eq_true hab.1
  have hnonempty := (hfits b ((perm_rising edits).mem_iff.2 hb)).nonempty
  rcases hab.2 with hle | hle <;> omega

/-- Edits of a text that rise in bytes rise in characters. -/
theorem pairwise_inCharacters (hfits : ∀ e ∈ edits, e.FitsIn t)
    (hrising : edits.Pairwise fun a b => a.stop ≤ b.start) :
    (edits.map (inCharacters t)).Pairwise fun a b => a.start < b.start := by
  rw [List.pairwise_map]
  refine hrising.imp_of_mem fun {a b} ha hb hle => ?_
  exact Text.position_lt (hfits a ha).start (hfits b hb).start
    (Nat.lt_of_lt_of_le (hfits a ha).nonempty hle)

/-- Let no range of some edits be empty, let all their ends lie between characters of the text, and
let no character be in two ranges; the edits may be listed in any order. Then all of them can be
carried out from the last to the first, and the result is the text that is built in one pass from the
first character to the last, where the parts between the ranges are kept and each new text stands
in place of its range. The same comes of the ranges counted in characters. -/
theorem edits_build_in_one_pass (hfits : ∀ e ∈ edits, e.FitsIn t)
    (hapart : edits.Pairwise Apart) :
    ∃ out, onePass? 0 (rising edits) t = some out ∧ applyAllBytes? edits t = some out ∧
      applyAll (edits.map (inCharacters t)) t = out := by
  have hperm := perm_rising edits
  have hrising := pairwise_rising hfits hapart
  have hfitsRising : ∀ e ∈ rising edits, e.FitsIn t := fun e he => hfits e (hperm.mem_iff.2 he)
  have hstarts : (rising edits).Pairwise fun a b => a.start < b.start :=
    hrising.imp_of_mem fun {a b} ha _ hle =>
      Nat.lt_of_lt_of_le (hfitsRising a ha).nonempty hle
  have hempty : Text.byteLength [] = 0 := rfl
  obtain ⟨out, hout⟩ : ∃ out, Replaced (Text.byteLength []) (rising edits) t out :=
    exists_replaced hfitsRising (fun _ _ => Nat.zero_le _) hrising
  refine ⟨out, hout.onePass?, ?_, ?_⟩
  · rw [applyAllBytes?, mergeSort_eq_reverse hperm hstarts, List.foldlM_reverse]
    exact hout.foldrM_applyBytes? hempty
  · rw [applyAll, mergeSort_eq_reverse (hperm.map _) (pairwise_inCharacters hfitsRising hrising),
      List.foldl_reverse]
    exact hout.foldr_apply hempty

/-- Behind a letter of two bytes, one break gets a shorter and another one a longer text in its place,
and the letter between them goes. The last edit of the list is the one in the middle. -/
theorem edits_build_in_one_pass_of_breaks :
    let t : Text := "é||BREAK:center||y||BREAK||".toList
    let edits : List Edit := [⟨2, 18, "||BREAK||".toList⟩, ⟨19, 28, "||BREAK:indent||".toList⟩,
      ⟨18, 19, []⟩]
    ((∀ e ∈ edits, e.FitsIn t) ∧ edits.Pairwise Apart) ∧
      applyAllBytes? edits t = some "é||BREAK||||BREAK:indent||".toList ∧
      applyAll (edits.map (inCharacters t)) t = "é||BREAK||||BREAK:indent||".toList := by
  intro t edits
  have hfits : ∀ e ∈ edits, e.FitsIn t := by decide
  have hapart : edits.Pairwise Apart := by decide
  let listed : List Edit := [⟨2, 18, "||BREAK||".toList⟩, ⟨18, 19, []⟩,
    ⟨19, 28, "||BREAK:indent||".toList⟩]
  have hsorted : (edits.mergeSort fun a b => decide (b.start ≤ a.start)) = listed.reverse :=
    mergeSort_eq_reverse (by decide) (by decide)
  have hresult : applyAllBytes? edits t = some "é||BREAK||||BREAK:indent||".toList := by
    rw [applyAllBytes?, hsorted]
    decide
  obtain ⟨out, -, hbytes, hcharacters⟩ := edits_build_in_one_pass hfits hapart
  obtain rfl : _ = out := Option.some.inj (hresult.symm.trans hbytes)
  exact ⟨⟨hfits, hapart⟩, hresult, hcharacters⟩

end Edit

end MarkedVerse
