import MarkedVerse.Proofs.UnsavedChanges

/-!
# Openings that fail

An opening notes the protection of a file before it reads the document, so an opening that fails
leaves the path and the document of the reader but may leave the protection of another file.
`failed_open_changes_protection_only` says that this is all it can change, and when a later save
comes out otherwise for it: exactly when a document is open and the file that could not be read is
protected and the open one is not, or the other way round. Where the protection is the same or
nothing is open, every run of keys goes on as if nothing had been opened.
-/

namespace MarkedVerse

namespace DocumentFile

variable {f g : DocumentFile} {fs : FileSystem} {path : String} {d : Document} {e : FileError}

/-- The protection that is noted by opening a path: that of the file there, and the one that was
noted before when there seems to be no file. -/
def noted (f : DocumentFile) (fs : FileSystem) (path : String) : Bool :=
  match fs.look .find path, fs.look .kind path with
  | .ok _, .ok (.file _ _) => protectionAt fs path
  | _, _ => f.readOnly

/-- An opening that fails changes at most the protection. -/
theorem openAt_of_error (h : (f.openAt fs path).2 = .error e) :
    (f.openAt fs path).1 = ⟨f.path, noted f fs path⟩ := by
  unfold openAt at h ⊢
  unfold noted
  cases hfind : fs.look .find path with
  | error cause => rfl
  | ok found =>
      cases hkind : fs.look .kind path with
      | error cause => rfl
      | ok entry =>
          cases entry with
          | directory => rfl
          | file bytes readOnly =>
              simp only [hfind, hkind] at h ⊢
              cases hread : fs.read path with
              | error cause => rfl
              | ok bytes =>
                  simp only [hread] at h ⊢
                  cases hdecode : decode path bytes with
                  | error cause => rfl
                  | ok document => simp [hdecode] at h

/-- Only a document with too many bytes cannot be encoded. -/
theorem eq_tooLarge_of_encode (h : encode d = .error e) : ∃ bytes, e = .tooLarge bytes := by
  unfold encode at h
  simp only at h
  split at h
  · exact ⟨_, (Except.error.inj h).symm⟩
  · cases h

/-- Saving the document of a path is refused for its protection exactly when that was noted. -/
theorem save_eq_readOnly_iff (hpath : f.path = some path) :
    (f.save fs d).2 = .error (.readOnly path) ↔ f.readOnly = true := by
  unfold save
  simp only [hpath]
  cases hprotected : f.readOnly with
  | true => simp
  | false =>
      cases hencode : encode d with
      | error cause =>
          obtain ⟨bytes, rfl⟩ := eq_tooLarge_of_encode hencode
          simp
      | ok bytes =>
          simp only [Bool.false_eq_true, if_false]
          generalize (backUp fs path).writeAgain path bytes moreAttempts = written
          obtain ⟨after, _ | _⟩ := written <;> simp

/-- Two files of the same path save a document alike exactly when there is no path to save it to or
the noted protection is the same. -/
theorem save_eq_iff (hpath : g.path = f.path) (fs : FileSystem) (d : Document) :
    g.save fs d = f.save fs d ↔ f.path = none ∨ g.readOnly = f.readOnly := by
  constructor
  · intro hsave
    cases hf : f.path with
    | none => exact .inl rfl
    | some path =>
        have hrefused : (g.save fs d).2 = .error (.readOnly path) ↔ g.readOnly = true :=
          save_eq_readOnly_iff (hpath.trans hf)
        rw [hsave, save_eq_readOnly_iff hf] at hrefused
        exact .inr (Bool.eq_iff_iff.2 hrefused.symm)
  · rintro (hnone | hprotection)
    · rw [save, save, hpath, hnone]
    · have hsame : g = f := by
        cases f
        cases g
        simp_all
      rw [hsame]

end DocumentFile

namespace Reader

variable {r : Reader} {g : DocumentFile} {fs : FileSystem} {path : String} {e : FileError}

/-! ## Runs of keys -/

/-- The reader with another file. -/
def withFile (r : Reader) (g : DocumentFile) : Reader :=
  { r with file := g }

/-- Presses keys one after the other. -/
def pressAll (r : Reader) (fs : FileSystem) : List KeyPress → Reader × FileSystem
  | [] => (r, fs)
  | k :: keys => pressAll (r.press fs k).1 (r.press fs k).2 keys

/-- No key opens another file. -/
theorem Effect.file {k : KeyPress} {r' : Reader} {fs' : FileSystem}
    (h : Effect k r fs r' fs') : r'.file = r.file := by
  cases h with
  | shown quiet shows => exact shows.file
  | unsaved quiet file modified quitting => exact file
  | left quiet may => rfl
  | saved saved file modified stored asks => exact file
  | failed saves complains shows leaves => exact shows.file

/-- A file that can take the place of the reader's: it has the same path and saves alike. -/
structure Replaces (g f : DocumentFile) : Prop where
  path : g.path = f.path
  save : ∀ fs d, g.save fs d = f.save fs d

theorem moveVerse_withFile (r : Reader) (g : DocumentFile) (move : Nat → Nat → Nat) :
    (r.withFile g).moveVerse move = (r.moveVerse move).withFile g := by
  have hcount : (r.withFile g).verseCount = r.verseCount := rfl
  unfold moveVerse
  rw [hcount]
  cases r.verseCount <;> rfl

theorem cycleTemplate_withFile (r : Reader) (g : DocumentFile) :
    (r.withFile g).cycleTemplate = r.cycleTemplate.withFile g := by
  have hnext : (r.withFile g).config.catalog.nextAfter (r.withFile g).template =
      r.config.catalog.nextAfter r.template := rfl
  have hdocument : (r.withFile g).document = r.document := rfl
  unfold cycleTemplate
  rw [hnext, hdocument]
  cases r.config.catalog.nextAfter r.template with
  | none => rfl
  | some p =>
      dsimp only
      cases r.document.applyTemplate p <;> rfl

theorem requestQuit_withFile (r : Reader) (g : DocumentFile) :
    (r.withFile g).requestQuit = r.requestQuit.withFile g := by
  have hmodified : (r.withFile g).modified = r.modified := rfl
  unfold requestQuit
  rw [hmodified]
  cases r.modified <;> rfl

theorem trySave_withFile (h : Replaces g r.file) (fs : FileSystem) :
    (r.withFile g).trySave fs =
      ((r.trySave fs).1, (r.trySave fs).2.1.withFile g, (r.trySave fs).2.2) := by
  have hfile : (r.withFile g).file = g := rfl
  have hdocument : (r.withFile g).document = r.document := rfl
  unfold trySave save
  rw [hfile, hdocument, h.path, h.save]
  cases r.file.path with
  | none => rfl
  | some path =>
      cases hsave : r.file.save fs r.document with
      | mk fs' result => cases result <;> rfl

theorem readingKey_withFile (h : Replaces g r.file) (fs : FileSystem) (k : KeyPress) :
    (r.withFile g).readingKey fs k =
      ((r.readingKey fs k).1.withFile g, (r.readingKey fs k).2) := by
  unfold readingKey
  split
  case h_1 =>
    cases k.control with
    | true => exact congrArg (·, fs) (requestQuit_withFile r g)
    | false => rfl
  case h_2 | h_3 | h_4 | h_5 => exact congrArg (·, fs) (moveVerse_withFile r g _)
  case h_10 => exact congrArg (·, fs) (cycleTemplate_withFile r g)
  case h_11 => rw [trySave_withFile h]
  case h_12 | h_13 => exact congrArg (·, fs) (requestQuit_withFile r g)
  all_goals rfl

theorem helpKey_withFile (r : Reader) (g : DocumentFile) (k : KeyPress) :
    (r.withFile g).helpKey k = (r.helpKey k).withFile g := by
  unfold helpKey
  split <;> rfl

theorem promptKey_withFile (h : Replaces g r.file) (fs : FileSystem) (k : KeyPress) :
    (r.withFile g).promptKey fs k =
      ((r.promptKey fs k).1.withFile g, (r.promptKey fs k).2) := by
  unfold promptKey
  rw [trySave_withFile h]
  obtain ⟨saved, r', fs'⟩ := r.trySave fs
  dsimp only
  split
  case h_1 | h_2 => cases saved <;> rfl
  all_goals rfl

/-- A key does the same with a file in place of the reader's. -/
theorem press_withFile (h : Replaces g r.file) (fs : FileSystem) (k : KeyPress) :
    (r.withFile g).press fs k = ((r.press fs k).1.withFile g, (r.press fs k).2) := by
  have hmode : (r.withFile g).mode = r.mode := rfl
  unfold press
  rw [hmode]
  cases r.mode with
  | reading => exact readingKey_withFile h fs k
  | help => exact congrArg (·, fs) (helpKey_withFile r g k)
  | savePrompt => exact promptKey_withFile h fs k

/-- Any keys do the same with a file in place of the reader's. -/
theorem pressAll_withFile (h : Replaces g r.file) (fs : FileSystem) (keys : List KeyPress) :
    (r.withFile g).pressAll fs keys =
      ((r.pressAll fs keys).1.withFile g, (r.pressAll fs keys).2) := by
  induction keys generalizing r fs with
  | nil => rfl
  | cons k keys ih =>
      have hfile : Replaces g (r.press fs k).1.file := (press_effect r fs k).file ▸ h
      rw [pressAll, press_withFile h, ih hfile, pressAll]

/-! ## After an opening that failed -/

/-- An opening that fails leaves all of the reader but the protection of its file. -/
theorem openAt_of_error (h : (r.openAt fs path).2 = .error e) :
    (r.openAt fs path).1 =
      r.withFile ⟨r.file.path, DocumentFile.noted r.file fs path⟩ := by
  unfold openAt at h ⊢
  cases hopen : r.file.openAt fs path with
  | mk file result =>
      cases result with
      | ok d => simp [hopen] at h
      | error cause =>
          have hfile := DocumentFile.openAt_of_error (congrArg Prod.snd hopen)
          rw [hopen] at hfile
          exact congrArg r.withFile hfile

/-- An opening that fails, for whatever reason, leaves the text, the position, the unsaved changes
and everything else of the reader, except that the protection of a file that cannot be read, or
holds no document, takes the place of the one that was noted before. A later save of the open
document comes out as it would have come out without the opening exactly when nothing is open or the
two protections are the same, and in that case any keys do what they would have done. -/
theorem failed_open_changes_protection_only (h : (r.openAt fs path).2 = .error e) :
    let noted := DocumentFile.noted r.file fs path
    let after := (r.openAt fs path).1
    after = { r with file := { r.file with readOnly := noted } } ∧
      (∀ later d, after.file.save later d = r.file.save later d ↔
        r.file.path = none ∨ noted = r.file.readOnly) ∧
      (r.file.path = none ∨ noted = r.file.readOnly → ∀ later keys,
        after.pressAll later keys =
          ({ (r.pressAll later keys).1 with file := after.file }, (r.pressAll later keys).2)) := by
  intro noted after
  have hafter : after = r.withFile ⟨r.file.path, noted⟩ := openAt_of_error h
  have hsave (later : FileSystem) (d : Document) :
      after.file.save later d = r.file.save later d ↔
        r.file.path = none ∨ noted = r.file.readOnly := by
    rw [hafter]
    exact DocumentFile.save_eq_iff (f := r.file) (g := ⟨r.file.path, noted⟩) rfl later d
  refine ⟨hafter, hsave, fun hsame later keys => ?_⟩
  have hreplaces : Replaces after.file r.file :=
    ⟨by rw [hafter]; rfl, fun later d => (hsave later d).2 hsame⟩
  have hrun := pressAll_withFile hreplaces later keys
  have hself : r.withFile after.file = after := by rw [hafter]; rfl
  rwa [hself] at hrun

/-- A poem is open, and what is opened next is protected and may not be read: the poem stays, its
later saves do not come out as they would have. -/
theorem failed_open_changes_protection_only_of_poem :
    let fs := FileSystem.failing
      ⟨[(["poem.txt"], .file "moon".toUTF8 false), (["ode.txt"], .file "sun".toUTF8 true)], []⟩
      [(.read "ode.txt", ⟨.permissionDenied, none⟩)]
    let r := ((new .standard).openAt fs "poem.txt").1
    let after := (r.openAt fs "ode.txt").1
    (r.openAt fs "ode.txt").2 = .error (.unreadable "ode.txt" .permissionDenied) ∧
      after = { r with file := { r.file with readOnly := true } } ∧
      ∀ later d, ¬after.file.save later d = r.file.save later d := by
  intro fs r after
  have hfails : (r.openAt fs "ode.txt").2 =
      .error (.unreadable "ode.txt" .permissionDenied) := rfl
  obtain ⟨hafter, hsave, -⟩ := failed_open_changes_protection_only hfails
  refine ⟨hfails, hafter, fun later d hsame => ?_⟩
  exact absurd ((hsave later d).1 hsame) (by decide +kernel)

/-- The poem that is open can be saved. After an opening that failed it cannot, because the
protection of the other file is noted. -/
theorem protection_of_unreadable_file_stays :
    let fs := FileSystem.sound
      ⟨[(["poem.txt"], .file "moon".toUTF8 false), (["data.bin"], .file ⟨#[0xff]⟩ true)], []⟩
    let r := ((new .standard).openAt fs "poem.txt").1
    let after := (r.openAt fs "data.bin").1
    (r.openAt fs "data.bin").2 = .error (.notUtf8 "data.bin") ∧
      after.file.readOnly ≠ r.file.readOnly ∧
      (r.save fs).2.2 = .ok () ∧ (after.save fs).2.2 = .error (.readOnly "poem.txt") :=
  ⟨rfl, by decide +kernel, rfl, rfl⟩

end Reader

end MarkedVerse
