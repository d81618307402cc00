import MarkedVerse.Proofs.PageWidth
import MarkedVerse.Proofs.UnsavedChanges
import MarkedVerse.Proofs.VerseCounts

/-!
# The reading position

The verse at the reading position is one of the document's in every state of the reader
(`position_is_verse`). Moving stays between the first verse and the last one, another document is
shown from its start, and a template under a fixed position takes no verse away. So the page has a
row for the verse, and the summary counts it among the verses.
-/

namespace MarkedVerse

/-! ## The summary -/

namespace Status

variable {i j n m verses : Nat} {config : RenderConfig}

/-- A number is written without a slash. -/
theorem slash_not_mem_toString (n : Nat) : '/' ∉ (toString n).toList := by
  intro hmem
  have hdigit := Nat.isDigit_of_mem_toDigits (b := 10) (n := n) (by decide) (by decide)
    (by simpa using hmem)
  exact absurd hdigit (by decide)

/-- Different numbers are written differently. -/
theorem eq_of_toList_toString_eq (h : (toString i).toList = (toString j).toList) : i = j := by
  have hdigits : Nat.toDigits 10 i = Nat.toDigits 10 j := by simpa using h
  rw [← Nat.ofDigitChars_ten_toDigits (n := i), hdigits, Nat.ofDigitChars_ten_toDigits]

/-- A verse among verses is written in one way. -/
theorem eq_of_position_eq
    (h : "verse " ++ toString i ++ "/" ++ toString n =
      "verse " ++ toString j ++ "/" ++ toString m) :
    i = j ∧ n = m := by
  have hlists := congrArg String.toList h
  simp only [String.toList_append, List.append_assoc] at hlists
  have hslash : "/".toList = ['/'] := rfl
  have hnumbers := List.append_cancel_left hlists
  rw [hslash, List.singleton_append, List.singleton_append] at hnumbers
  obtain ⟨hi, -, hn⟩ := (List.append_cons_inj_of_notMem (slash_not_mem_toString i)
    (slash_not_mem_toString n)).1 hnumbers
  exact ⟨eq_of_toList_toString_eq hi, eq_of_toList_toString_eq hn⟩

/-- When the position names a verse, that is the highlighted one. -/
theorem position_eq (h : position config verses = "verse " ++ toString i ++ "/" ++ toString n) :
    ∃ v, config.currentVerse = some v ∧ i = v + 1 ∧ n = verses := by
  unfold position at h
  split at h
  · next v _ hverse =>
      obtain ⟨hi, hn⟩ := eq_of_position_eq h
      exact ⟨v, hverse, hi.symm, hn.symm⟩
  · -- The number of verses is told without a slash.
    have hslash : '/' ∈ (toString verses ++ " verses").toList := by
      rw [h]
      simp
    rw [String.toList_append, List.mem_append] at hslash
    obtain hnumber | hword := hslash
    · exact absurd hnumber (slash_not_mem_toString verses)
    · exact absurd hword (by decide)

/-- The summary ends with the position. -/
theorem exists_summary_eq (config : RenderConfig) (template : Option String) (verses : Nat)
    (modified : Bool) :
    ∃ front, summary config template verses modified = front ++ position config verses := by
  have hend : ∀ (parts : List String) (last : String),
      ∃ front, "  ".intercalate (parts ++ [last]) = front ++ last := by
    intro parts last
    induction parts with
    | nil => exact ⟨"", by simp⟩
    | cons part parts ih =>
        obtain ⟨front, hfront⟩ := ih
        refine ⟨part ++ "  " ++ front, ?_⟩
        rw [List.cons_append, String.intercalate_cons_of_ne_nil (by simp), hfront,
          String.append_assoc, String.append_assoc, String.append_assoc]
  exact hend _ _

end Status

/-! ## The position -/

namespace Reader

variable {r r' : Reader} {fs : FileSystem}

/-- The verse at the reading position is one of the document's. -/
def OnVerse (r : Reader) : Prop :=
  ∀ v, r.render.currentVerse = some v → v < r.verseCount

/-- The same document is shown at the same position, with the same template, and there are no new
unsaved changes. -/
structure SamePlace (r r' : Reader) : Prop where
  config : r'.config = r.config
  document : r'.document = r.document
  currentVerse : r'.render.currentVerse = r.render.currentVerse
  template : r'.template = r.template
  modified : r'.modified = true → r.modified = true

/-- A document of no fewer verses may take the place of the one that is shown. -/
theorem OnVerse.of_le (h : OnVerse r) (hverse : r'.render.currentVerse = r.render.currentVerse)
    (hcount : r.verseCount ≤ r'.verseCount) : OnVerse r' :=
  fun v hv => (h v (hverse ▸ hv)).trans_le hcount

theorem OnVerse.of_samePlace (h : OnVerse r) (hplace : SamePlace r r') : OnVerse r' := by
  refine h.of_le hplace.currentVerse ?_
  rw [verseCount, verseCount, hplace.document]

/-- A document is shown from its start. -/
theorem onVerse_setDocument (r : Reader) (d : Document) : OnVerse (r.setDocument d) := by
  intro v hv
  cases hv

/-- A move that stays between the first verse and the last one leads to a verse. -/
theorem OnVerse.moveVerse (h : OnVerse r) {move : Nat → Nat → Nat}
    (hmove : ∀ v last, move v last ≤ last) : OnVerse (r.moveVerse move) := by
  unfold Reader.moveVerse
  split
  · exact h.of_samePlace ⟨rfl, rfl, rfl, rfl, id⟩
  · next last hcount =>
      intro v hv
      have hlast : v ≤ last := by
        rw [← Option.some.inj hv]
        cases r.render.currentVerse with
        | none => exact Nat.zero_le last
        | some current => exact hmove current last
      change v < r.verseCount
      omega

theorem OnVerse.nextVerse (h : OnVerse r) : OnVerse r.nextVerse :=
  h.moveVerse fun _ _ => Nat.min_le_right _ _

theorem OnVerse.prevVerse (h : OnVerse r) : OnVerse r.prevVerse :=
  h.moveVerse fun _ _ => Nat.min_le_right _ _

/-- A template that is applied leaves at least the verses that were there. -/
theorem OnVerse.cycleTemplate (h : OnVerse r) : OnVerse r.cycleTemplate := by
  unfold Reader.cycleTemplate
  split
  · exact h.of_samePlace ⟨rfl, rfl, rfl, rfl, id⟩
  · next p _ =>
      split
      · next d mode happly =>
          refine h.of_le rfl ?_
          unfold Document.applyTemplate at happly
          cases houtcome : Template.apply r.document.text p with
          | error e =>
              rw [houtcome] at happly
              cases happly
          | ok outcome =>
              rw [houtcome] at happly
              cases happly
              exact Template.verseCount_le_of_apply houtcome
      · exact h.of_le rfl (Nat.le_refl _)

/-! ## Keys and files -/

theorem samePlace_requestQuit (r : Reader) : SamePlace r r.requestQuit := by
  unfold requestQuit
  split <;> exact ⟨rfl, rfl, rfl, rfl, id⟩

/-- Saving does not move the reader, whether it fails or not. -/
theorem samePlace_save (r : Reader) (fs : FileSystem) : SamePlace r (r.save fs).1 := by
  obtain ⟨status, modified, hsave, hmodified⟩ := exists_save_eq r fs
  rw [hsave]
  exact ⟨rfl, rfl, rfl, rfl, hmodified⟩

theorem samePlace_trySave (r : Reader) (fs : FileSystem) : SamePlace r (r.trySave fs).2.1 := by
  obtain ⟨status, modified, hsave, hmodified⟩ := exists_trySave_eq r fs
  rw [hsave]
  exact ⟨rfl, rfl, rfl, rfl, hmodified⟩

theorem samePlace_helpKey (r : Reader) (k : KeyPress) : SamePlace r (r.helpKey k) := by
  unfold helpKey
  split <;> exact ⟨rfl, rfl, rfl, rfl, id⟩

theorem samePlace_promptKey (r : Reader) (fs : FileSystem) (k : KeyPress) :
    SamePlace r (r.promptKey fs k).1 := by
  have hsave := samePlace_trySave r fs
  unfold promptKey
  generalize r.trySave fs = run at hsave ⊢
  obtain ⟨saved, r', fs'⟩ := run
  obtain ⟨hconfig, hdocument, hverse, htemplate, hmodified⟩ := hsave
  dsimp only
  split
  case h_1 | h_2 => cases saved <;> exact ⟨hconfig, hdocument, hverse, htemplate, hmodified⟩
  all_goals exact ⟨rfl, rfl, rfl, rfl, id⟩

/-- What a key can do to the document and the place in it: it tries a template, moves to a verse, or
leaves both alone. -/
inductive KeyStep (r : Reader) : Reader → Prop where
  | cycles : KeyStep r r.cycleTemplate
  | next : KeyStep r r.nextVerse
  | prev : KeyStep r r.prevVerse
  | stays {r' : Reader} (h : SamePlace r r') : KeyStep r r'

theorem keyStep_readingKey (r : Reader) (fs : FileSystem) (k : KeyPress) :
    KeyStep r (r.readingKey fs k).1 := by
  unfold readingKey
  split
  case h_1 =>
    cases k.control with
    | true => exact .stays (samePlace_requestQuit r)
    | false => exact .stays ⟨rfl, rfl, rfl, rfl, id⟩
  case h_2 | h_3 => exact .next
  case h_4 | h_5 => exact .prev
  case h_10 => exact .cycles
  case h_11 => exact .stays (samePlace_trySave r fs)
  case h_12 | h_13 => exact .stays (samePlace_requestQuit r)
  all_goals exact .stays ⟨rfl, rfl, rfl, rfl, id⟩

theorem keyStep_press (r : Reader) (fs : FileSystem) (k : KeyPress) :
    KeyStep r (r.press fs k).1 := by
  unfold press
  split
  · exact keyStep_readingKey r fs k
  · exact .stays (samePlace_helpKey r k)
  · exact .stays (samePlace_promptKey r fs k)

theorem OnVerse.keyStep (h : OnVerse r) (hstep : KeyStep r r') : OnVerse r' := by
  cases hstep with
  | cycles => exact h.cycleTemplate
  | next => exact h.nextVerse
  | prev => exact h.prevVerse
  | stays hstays => exact h.of_samePlace hstays

/-! ## The configuration -/

theorem config_moveVerse (r : Reader) (move : Nat → Nat → Nat) :
    (r.moveVerse move).config = r.config := by
  unfold moveVerse
  split <;> rfl

theorem config_cycleTemplate (r : Reader) : r.cycleTemplate.config = r.config := by
  unfold cycleTemplate
  split
  · rfl
  · split <;> rfl

theorem KeyStep.config_eq {r' : Reader} (h : KeyStep r r') : r'.config = r.config := by
  cases h with
  | cycles => exact config_cycleTemplate r
  | next | prev => exact config_moveVerse r _
  | stays hstays => exact hstays.config

/-! ## Every state -/

/-- The states of the reader. It may be shown any document, open any file in any state of the file
system, or be told to do one of the things that it also does on a key. -/
inductive Reachable (config : Config) : Reader → Prop where
  | new : Reachable config (new config)
  | shown {r : Reader} (h : Reachable config r) (d : Document) : Reachable config (r.setDocument d)
  | opened {r : Reader} (h : Reachable config r) (fs : FileSystem) (path : String) :
      Reachable config (r.openAt fs path).1
  | pressed {r : Reader} (h : Reachable config r) (fs : FileSystem) (k : KeyPress) :
      Reachable config (r.press fs k).1
  | next {r : Reader} (h : Reachable config r) : Reachable config r.nextVerse
  | prev {r : Reader} (h : Reachable config r) : Reachable config r.prevVerse
  | scrolled {r : Reader} (h : Reachable config r) (delta : Int) :
      Reachable config (r.scrollBy delta)
  | cycled {r : Reader} (h : Reachable config r) : Reachable config r.cycleTemplate
  | saved {r : Reader} (h : Reachable config r) (fs : FileSystem) : Reachable config (r.save fs).1
  | drawn {r : Reader} (h : Reachable config r) (width height : Nat) :
      Reachable config (r.page width height).1

variable {config : Config}

/-- What holds of a new reader, and is kept when a document is shown and by every step of a key,
holds in every state. The other actions are steps of a key, and opening a file shows its
document. -/
theorem Reachable.invariant {P : Reader → Prop} (h : Reachable config r)
    (hnew : P (Reader.new config)) (hshown : ∀ r d, P r → P (r.setDocument d))
    (hstep : ∀ r r', P r → KeyStep r r' → P r') : P r := by
  have hstays : ∀ r r', P r → SamePlace r r' → P r' := fun r r' hr hplace =>
    hstep r r' hr (.stays hplace)
  induction h with
  | new => exact hnew
  | shown h d ih => exact hshown _ d ih
  | @opened r h fs path ih =>
      unfold openAt
      split
      · exact hstays _ _ ih ⟨rfl, rfl, rfl, rfl, id⟩
      · next file d _ =>
          have hfile := hstays r { r with file } ih ⟨rfl, rfl, rfl, rfl, id⟩
          exact hstays _ _ (hshown _ d hfile) ⟨rfl, rfl, rfl, rfl, id⟩
  | pressed h fs k ih => exact hstep _ _ ih (keyStep_press _ fs k)
  | next h ih => exact hstep _ _ ih .next
  | prev h ih => exact hstep _ _ ih .prev
  | scrolled h delta ih => exact hstays _ _ ih ⟨rfl, rfl, rfl, rfl, id⟩
  | cycled h ih => exact hstep _ _ ih .cycles
  | saved h fs ih => exact hstays _ _ ih (samePlace_save _ fs)
  | drawn h width height ih => exact hstays _ _ ih ⟨rfl, rfl, rfl, rfl, id⟩

/-- Whatever the reader does, it stays on a verse. -/
theorem Reachable.onVerse (h : Reachable config r) : OnVerse r := by
  refine h.invariant ?_ (fun r d _ => onVerse_setDocument r d) fun r r' hr hstep => hr.keyStep hstep
  intro v hv
  cases hv

/-- Whatever the reader does, it keeps its configuration. -/
theorem Reachable.config_eq (h : Reachable config r) : r.config = config :=
  h.invariant (P := fun r => r.config = config) rfl (fun _ _ hr => hr)
    fun _ _ hr hstep => hstep.config_eq.trans hr

/-- In every state of the reader, the verse at the reading position is one of the document's. So
every page of the document has a row for it, and the summary, which ends with the position, counts
the verse among the verses when it names one. -/
theorem position_is_verse (h : Reachable config r) :
    (∀ v, r.render.currentVerse = some v →
      v < r.verseCount ∧
        (∀ style, ((Page.render r.document.sections r.render style).rowOf v).isSome = true) ∧
        ∀ width height, ((r.page width height).2.rowOf v).isSome = true) ∧
      (∃ front, r.summary = front ++ Status.position r.render r.verseCount) ∧
      ∀ i n, Status.position r.render r.verseCount = "verse " ++ toString i ++ "/" ++ toString n →
        1 ≤ i ∧ i ≤ n ∧ n = r.verseCount := by
  refine ⟨fun v hv => ?_, Status.exists_summary_eq _ _ _ _, fun i n hposition => ?_⟩
  · have hverse := h.onVerse v hv
    exact ⟨hverse, fun style => Page.isSome_rowOf_iff.2 hverse,
      fun width height => Page.isSome_rowOf_iff.2 hverse⟩
  · obtain ⟨v, hv, rfl, rfl⟩ := Status.position_eq hposition
    exact ⟨Nat.le_add_left 1 v, h.onVerse v hv, rfl⟩

/-- A text with a heading is at its first verse, and a template is tried: the position is at the
first of the two verses that there are now. -/
theorem position_is_verse_of_headings :
    ∃ r, Reachable .standard r ∧ r.render.currentVerse = some 0 ∧ r.verseCount = 2 ∧
      0 < r.verseCount := by
  have hnew : Reachable .standard _ := .new
  have hmoved := (hnew.shown ⟨"moon\n\nstars ||HEADER|| sky".toList⟩).next
  have h := hmoved.pressed (.sound .empty) ⟨.char 't', false⟩
  refine ⟨_, h, by decide +kernel, by decide +kernel, ?_⟩
  exact ((position_is_verse h).1 0 (by decide +kernel)).1

end Reader

end MarkedVerse
