import MarkedVerse.Reader
import MarkedVerse.Proofs.Saving

/-!
# Unsaved changes

A reader is not left with changes that are lost unnoticed, unless a save has failed half-way. What
one key can do is told once (`press_effect`): it changes nothing but what is shown, leaves the
document with unsaved changes, leaves the reader, or saves. `Safe` ties the reader to the file of
its document: without unsaved changes the file holds the text of the document, and the reader asks
whether to save only while there are unsaved changes. It holds in every state that keys lead to from
an opened document (`Reached.safe`), whatever else happens to the files between two keys as long as
the document's own is read as before. A save that fails after the file was opened for writing breaks
this: it tells that it failed, but not that the file has lost its bytes.
-/

namespace MarkedVerse

namespace Reader

/-! ## What a key can do -/

/-- Nothing changed but what is shown, and the reader did not begin to ask. -/
structure Shows (r r' : Reader) : Prop where
  file : r'.file = r.file
  document : r'.document = r.document
  modified : r'.modified = r.modified
  quitting : r'.quitting = r.quitting
  asks : r'.mode = .savePrompt → r.mode = .savePrompt

/-- The bytes of the text of a reader. -/
def bytes (r : Reader) : ByteArray :=
  r.document.toString.toUTF8

/-- The file of the document holds its text. -/
def Stored (r : Reader) (tree : FileTree) : Prop :=
  ∀ path, r.file.path = some path → tree.read path = .ok r.bytes

/-- The file of the document is read as a save that failed has left it. -/
def LeavesFile (r : Reader) (fs fs' : FileSystem) : Prop :=
  ∀ path old, r.file.path = some path → fs.tree.read path = .ok old →
    ∃ left, fs'.tree.read path = .ok left ∧ DocumentFile.Leaves fs path old r.bytes left

/-- The reader asks, and the key answers that unsaved changes are not wanted. -/
def GivesUp (r : Reader) (k : KeyPress) : Prop :=
  r.mode = .savePrompt ∧ (k.key = .char 'n' ∨ k.key = .char 'N')

/-- The key saves. -/
def Saves (r : Reader) (k : KeyPress) : Prop :=
  r.mode = .reading ∧ k.key = .char 'w' ∨
    r.mode = .savePrompt ∧ (k.key = .char 'y' ∨ k.key = .char 'Y')

/-- A save fails, and it is told why. -/
def Complains (r : Reader) (fs : FileSystem) (r' : Reader) : Prop :=
  ∃ e, (r.save fs).2.2 = .error e ∧
    r'.status = some (.new ("Error saving: " ++ e.message) .error)

/-- What a key does to the reader and the files. -/
inductive Effect (k : KeyPress) (r : Reader) (fs : FileSystem) : Reader → FileSystem → Prop where
  /-- The key only changes what is shown. -/
  | shown {r' : Reader} (quiet : ¬Saves r k) (shows : Shows r r') : Effect k r fs r' fs
  /-- The key edits, or it makes the reader ask. There are unsaved changes. -/
  | unsaved {r' : Reader} (quiet : ¬Saves r k) (file : r'.file = r.file)
      (modified : r'.modified = true) (quitting : r'.quitting = r.quitting) : Effect k r fs r' fs
  | left (quiet : ¬Saves r k) (may : r.modified = false ∨ GivesUp r k) : Effect k r fs r.quit fs
  | saved {r' : Reader} {fs' : FileSystem} (saved : (r.save fs).2.2 = .ok ())
      (file : r'.file = r.file) (modified : r'.modified = false) (stored : Stored r' fs'.tree)
      (asks : r'.mode = .savePrompt → r'.quitting = true) : Effect k r fs r' fs'
  | failed {r' : Reader} {fs' : FileSystem} (saves : Saves r k) (complains : Complains r fs r')
      (shows : Shows r r') (leaves : LeavesFile r fs fs') : Effect k r fs r' fs'

variable {r r' : Reader} {fs fs' : FileSystem} {path : String} {k : KeyPress} {damaged : Prop}

theorem Shows.refl (r : Reader) : Shows r r :=
  ⟨rfl, rfl, rfl, rfl, id⟩

theorem shows_moveVerse (r : Reader) (move : Nat → Nat → Nat) : Shows r (r.moveVerse move) := by
  unfold moveVerse
  split
  · exact ⟨rfl, rfl, rfl, rfl, id⟩
  · exact ⟨rfl, rfl, rfl, rfl, id⟩

/-- Trying a template edits the document, or shows why it does not. -/
theorem cycleTemplate_effect (hquiet : ¬Saves r k) (fs : FileSystem) :
    Effect k r fs r.cycleTemplate fs := by
  unfold cycleTemplate
  split
  · exact .shown hquiet ⟨rfl, rfl, rfl, rfl, id⟩
  · split
    · exact .unsaved hquiet rfl rfl rfl
    · exact .shown hquiet ⟨rfl, rfl, rfl, rfl, id⟩

/-- A request to leave is granted without unsaved changes, and with them it makes the reader ask. -/
theorem requestQuit_effect (hquiet : ¬Saves r k) (fs : FileSystem) :
    Effect k r fs r.requestQuit fs := by
  unfold requestQuit
  split
  case isTrue hmodified => exact .unsaved hquiet rfl hmodified rfl
  case isFalse hmodified => exact .left hquiet (.inl (Bool.eq_false_iff.2 hmodified))

/-- Saving changes nothing of a reader but the message, and it makes no unsaved changes. -/
theorem exists_save_eq (r : Reader) (fs : FileSystem) :
    ∃ status modified, (r.save fs).1 = { r with status, modified } ∧
      (modified = true → r.modified = true) := by
  unfold save
  split
  · exact ⟨_, _, rfl, id⟩
  · split
    · exact ⟨_, _, rfl, id⟩
    · exact ⟨_, _, rfl, Bool.noConfusion⟩

theorem exists_trySave_eq (r : Reader) (fs : FileSystem) :
    ∃ status modified, (r.trySave fs).2.1 = { r with status, modified } ∧
      (modified = true → r.modified = true) := by
  obtain ⟨status, modified, hsave, hmodified⟩ := exists_save_eq r fs
  unfold trySave
  generalize r.save fs = run at hsave ⊢
  obtain ⟨r', fs', result⟩ := run
  obtain rfl : r' = { r with status, modified } := hsave
  cases result <;> exact ⟨_, modified, rfl, hmodified⟩

/-- Saving stores the document, or it shows why it does not. -/
theorem trySave_cases (r : Reader) (fs : FileSystem) :
    (∃ r' fs', r.trySave fs = (true, r', fs') ∧ (r.save fs).2.2 = .ok () ∧ r'.file = r.file ∧
        r'.modified = false ∧ r'.mode = r.mode ∧ Stored r' fs'.tree) ∨
      ∃ r' fs', r.trySave fs = (false, r', fs') ∧ Complains r fs r' ∧ Shows r r' ∧
        LeavesFile r fs fs' := by
  unfold Complains trySave save
  cases hpath : r.file.path with
  | none =>
      right
      exact ⟨_, _, rfl, ⟨_, rfl, rfl⟩, ⟨rfl, rfl, rfl, rfl, id⟩,
        fun path _ h _ => by simp [hpath] at h⟩
  | some path =>
      cases hsave : r.file.save fs r.document with
      | mk fs' result =>
          cases result with
          | error e =>
              right
              refine ⟨_, _, rfl, ⟨e, rfl, rfl⟩, ⟨rfl, rfl, rfl, rfl, id⟩,
                fun other old hother hread => ?_⟩
              have herror : (r.file.save fs r.document).2 = .error e := by rw [hsave]
              have hleft := DocumentFile.read_save_of_error hother herror hread
              rwa [hsave] at hleft
          | ok message =>
              left
              refine ⟨_, _, rfl, rfl, rfl, rfl, rfl,
                fun other (hother : r.file.path = some other) => ?_⟩
              have hok : (r.file.save fs r.document).2 = .ok message := by rw [hsave]
              have hstored := DocumentFile.read_save_of_ok hother hok
              rwa [hsave] at hstored

/-! ## One key -/

theorem readingKey_effect (hmode : r.mode = .reading) (fs : FileSystem) (k : KeyPress) :
    Effect k r fs (r.readingKey fs k).1 (r.readingKey fs k).2 := by
  have hquiet (hkey : k.key ≠ .char 'w') : ¬Saves r k := by simp [Saves, hmode, hkey]
  unfold readingKey
  split
  case h_11 hkey =>
    obtain ⟨r', fs', h, hsaved, hfile, hmodified, hsame, hstored⟩ |
      ⟨r', fs', h, hcomplains, hshows, hleaves⟩ := trySave_cases r fs
    · rw [h]
      exact .saved hsaved hfile hmodified hstored fun hasks => by simp [hsame, hmode] at hasks
    · rw [h]
      exact .failed (.inl ⟨hmode, hkey⟩) hcomplains hshows hleaves
  all_goals replace hquiet := hquiet (by simp_all)
  case h_1 =>
    -- The letter asks to leave only together with control.
    cases hcontrol : k.control with
    | true => exact requestQuit_effect hquiet fs
    | false => exact .shown hquiet ⟨rfl, rfl, rfl, rfl, id⟩
  case h_10 => exact cycleTemplate_effect hquiet fs
  case h_12 => exact requestQuit_effect hquiet fs
  case h_13 => exact requestQuit_effect hquiet fs
  case h_14 => exact .shown hquiet ⟨rfl, rfl, rfl, rfl, fun h => by cases h⟩
  all_goals first
    | exact .shown hquiet (shows_moveVerse r _)
    | exact .shown hquiet ⟨rfl, rfl, rfl, rfl, id⟩

theorem helpKey_shows (r : Reader) (k : KeyPress) : Shows r (r.helpKey k) := by
  unfold helpKey
  split
  case h_4 => exact .refl r
  all_goals exact ⟨rfl, rfl, rfl, rfl, fun h => by cases h⟩

theorem promptKey_effect (hmode : r.mode = .savePrompt) (fs : FileSystem) (k : KeyPress) :
    Effect k r fs (r.promptKey fs k).1 (r.promptKey fs k).2 := by
  have hquiet (hkey : k.key ≠ .char 'y' ∧ k.key ≠ .char 'Y') : ¬Saves r k := by
    simp [Saves, hmode, hkey]
  unfold promptKey
  simp only
  split
  case h_1 hkey | h_2 hkey =>
    have hsaves : Saves r k := .inr ⟨hmode, by simp [hkey]⟩
    obtain ⟨r', fs', h, hsaved, hfile, hmodified, -, hstored⟩ |
      ⟨r', fs', h, hcomplains, hshows, hleaves⟩ := trySave_cases r fs
    · rw [h]
      exact .saved hsaved hfile hmodified hstored fun _ => rfl
    · rw [h]
      exact .failed hsaves hcomplains ⟨hshows.file, hshows.document, hshows.modified,
        hshows.quitting, fun hasks => by cases hasks⟩ hleaves
  all_goals replace hquiet := hquiet (by simp_all)
  case h_3 hkey => exact .left hquiet (.inr ⟨hmode, .inl hkey⟩)
  case h_4 hkey => exact .left hquiet (.inr ⟨hmode, .inr hkey⟩)
  case h_5 | h_6 | h_7 =>
    exact .shown hquiet ⟨rfl, rfl, rfl, rfl, fun hasks => by cases hasks⟩
  case h_8 => exact .shown hquiet (.refl r)

/-- Every key has one of the effects. -/
theorem press_effect (r : Reader) (fs : FileSystem) (k : KeyPress) :
    Effect k r fs (r.press fs k).1 (r.press fs k).2 := by
  unfold press
  cases hmode : r.mode with
  | reading => exact readingKey_effect hmode fs k
  | help => exact .shown (by simp [Saves, hmode]) (helpKey_shows r k)
  | savePrompt => exact promptKey_effect hmode fs k

/-! ## Any number of keys -/

/-- The key saves, and that succeeds. -/
def Stores (r : Reader) (fs : FileSystem) (k : KeyPress) : Prop :=
  Saves r k ∧ (r.save fs).2.2 = .ok ()

/-- The key saves, that fails, and afterwards the file at the path is not read as before. -/
def Damages (path : String) (r : Reader) (fs : FileSystem) (k : KeyPress) (fs' : FileSystem) :
    Prop :=
  Saves r k ∧ (∃ e, (r.save fs).2.2 = .error e) ∧ fs'.tree.read path ≠ fs.tree.read path

/-- The states that keys lead to from the document opened at a path by a reader that does not ask,
and whether a save has damaged the file there since one succeeded. Between two keys anything may
happen to the files and to the calls that fail, as long as the file at the path is read as
before. -/
inductive Reached (path : String) : Prop → Reader → FileSystem → Prop where
  | opened {r : Reader} {fs : FileSystem} (hmode : r.mode ≠ .savePrompt)
      (h : (r.openAt fs path).2 = .ok ()) : Reached path False (r.openAt fs path).1 fs
  | pressed {damaged : Prop} {r : Reader} {fs : FileSystem} (h : Reached path damaged r fs)
      (k : KeyPress) :
      Reached path (¬Stores r fs k ∧ (damaged ∨ Damages path r fs k (r.press fs k).2))
        (r.press fs k).1 (r.press fs k).2
  | elsewhere {damaged : Prop} {r : Reader} {fs fs' : FileSystem} (h : Reached path damaged r fs)
      (hread : fs'.tree.read path = fs.tree.read path) : Reached path damaged r fs'

/-- The reader of a document file: without unsaved changes the file holds the text unless it is
damaged, and the reader asks only while there are unsaved changes. -/
structure Safe (path : String) (damaged : Prop) (r : Reader) (fs : FileSystem) : Prop where
  file : r.file.path = some path
  there : ∃ old, fs.tree.read path = .ok old
  stored : r.modified = false → ¬damaged → fs.tree.read path = .ok r.bytes
  asks : r.quitting = false → r.mode = .savePrompt → r.modified = true

/-- What a key does keeps the reader safe. -/
theorem Safe.effect (h : Safe path damaged r fs) (heffect : Effect k r fs r' fs') :
    Safe path (¬Stores r fs k ∧ (damaged ∨ Damages path r fs k fs')) r' fs' := by
  have hsound (hquiet : ¬Saves r k)
      (hwhole : ¬(¬Stores r fs k ∧ (damaged ∨ Damages path r fs k fs'))) : ¬damaged :=
    fun hdamaged => hwhole ⟨fun hstores => hquiet hstores.1, .inl hdamaged⟩
  cases heffect with
  | shown quiet shows =>
      refine ⟨shows.file ▸ h.file, h.there, fun hmodified hwhole => ?_, fun hquitting hmode => ?_⟩
      · rw [bytes, shows.document]
        exact h.stored (shows.modified ▸ hmodified) (hsound quiet hwhole)
      · rw [shows.modified]
        exact h.asks (shows.quitting ▸ hquitting) (shows.asks hmode)
  | unsaved quiet file modified quitting =>
      refine ⟨file ▸ h.file, h.there, fun hmodified => ?_, fun _ _ => modified⟩
      rw [modified] at hmodified
      cases hmodified
  | left quiet may =>
      exact ⟨h.file, h.there, fun hmodified hwhole => h.stored hmodified (hsound quiet hwhole),
        fun hquitting => by cases hquitting⟩
  | saved saved file modified stored asks =>
      have hfile : r'.file.path = some path := file ▸ h.file
      have hread := stored path hfile
      refine ⟨hfile, ⟨_, hread⟩, fun _ _ => hread, fun hquitting hmode => ?_⟩
      rw [asks hmode] at hquitting
      cases hquitting
  | failed saves complains shows leaves =>
      obtain ⟨old, hold⟩ := h.there
      obtain ⟨left, hleft, -⟩ := leaves path old h.file hold
      obtain ⟨e, herror, -⟩ := complains
      refine ⟨shows.file ▸ h.file, ⟨left, hleft⟩, fun hmodified hwhole => ?_,
        fun hquitting hmode => ?_⟩
      · -- The save did not succeed, so the file was whole before and is read as before.
        have hfails : ¬Stores r fs k := fun hstores => by cases herror.symm.trans hstores.2
        simp only [hfails, not_false_eq_true, true_and, not_or] at hwhole
        have hsame : fs'.tree.read path = fs.tree.read path :=
          Classical.byContradiction fun hother => hwhole.2 ⟨saves, ⟨e, herror⟩, hother⟩
        rw [hsame, bytes, shows.document]
        exact h.stored (shows.modified ▸ hmodified) hwhole.1
      · rw [shows.modified]
        exact h.asks (shows.quitting ▸ hquitting) (shows.asks hmode)

/-- A key that makes the reader quit was allowed to, or it has saved. -/
theorem Effect.leaves (heffect : Effect k r fs r' fs') (hstays : r.quitting = false)
    (hquits : r'.quitting = true) :
    r'.modified = false ∨ GivesUp r k := by
  cases heffect with
  | shown quiet shows => simp [shows.quitting, hstays] at hquits
  | unsaved quiet file modified quitting => simp [quitting, hstays] at hquits
  | left quiet may => exact may
  | saved saved file modified stored asks => exact .inl modified
  | failed saves complains shows leaves => simp [shows.quitting, hstays] at hquits

/-- A key damages the file only by a save that broke off, or by one that made the backup of a file
that is its own backup. Then it tells that the save failed, and the reader stays. -/
theorem Effect.complains (heffect : Effect k r fs r' fs') (hfile : r.file.path = some path)
    (hthere : ∃ old, fs.tree.read path = .ok old) (hdamages : Damages path r fs k fs') :
    Complains r fs r' ∧ r'.quitting = r.quitting ∧
      ((∃ count, fs.BreaksOff (.write path) count) ∨
        ∃ p, fs.tree.resolve path = .ok p ∧
          fs.tree.resolve (DocumentFile.backupPath path) = .ok p) := by
  obtain ⟨-, ⟨e, herror⟩, hother⟩ := hdamages
  cases heffect with
  | shown | unsaved | left => exact absurd rfl hother
  | saved saved => cases herror.symm.trans saved
  | failed saves complains shows leaves =>
      refine ⟨complains, shows.quitting, ?_⟩
      obtain ⟨old, hold⟩ := hthere
      obtain ⟨left, hleft, hleaves⟩ := leaves path old hfile hold
      cases hleaves with
      | kept => exact absurd (hleft.trans hold.symm) hother
      | brokenOff h => exact .inl ⟨_, h⟩
      | emptied hfile hbackup => exact .inr ⟨_, hfile, hbackup⟩

/-- The reader of a document that was just opened is safe. -/
theorem safe_openAt (hmode : r.mode ≠ .savePrompt) (h : (r.openAt fs path).2 = .ok ()) :
    Safe path False (r.openAt fs path).1 fs := by
  unfold openAt at h ⊢
  cases hopen : r.file.openAt fs path with
  | mk file result =>
      cases result with
      | error e => simp [hopen] at h
      | ok d =>
          obtain ⟨hfile, hread⟩ := DocumentFile.openAt_ok hopen
          exact ⟨hfile, ⟨_, hread⟩, fun _ _ => hread, fun _ hasks => absurd hasks hmode⟩

/-- Every reader that keys lead to is safe. -/
theorem Reached.safe (h : Reached path damaged r fs) : Safe path damaged r fs := by
  induction h with
  | opened hmode h => exact safe_openAt hmode h
  | pressed h k ih => exact ih.effect (press_effect _ _ k)
  | elsewhere h hread ih =>
      exact ⟨ih.file, hread ▸ ih.there, fun hmodified hwhole => hread ▸ ih.stored hmodified hwhole,
        ih.asks⟩

/-- Changes are not lost unnoticed. Whatever keys follow on the opening of a document: without
unsaved changes its file holds the text of the reader, unless a save has damaged it since one
succeeded; the reader asks only while there are unsaved changes; a key that makes the reader quit
either leaves no unsaved changes, and the text in the file unless that is damaged, or is the answer
that gives the changes up; and a key that damages the file tells that a save failed. -/
theorem keeps_unsaved_changes (h : Reached path damaged r fs) :
    r.file.path = some path ∧
      (r.modified = false → ¬damaged → fs.tree.read path = .ok r.bytes) ∧
      (r.quitting = false → r.mode = .savePrompt → r.modified = true) ∧
      ∀ k, let after := r.press fs k
        (r.quitting = false → after.1.quitting = true →
          (after.1.modified = false ∧
            ((¬damaged ∨ Stores r fs k) → after.2.tree.read path = .ok after.1.bytes)) ∨
          GivesUp r k) ∧
        (Damages path r fs k after.2 →
          Complains r fs after.1 ∧ after.1.quitting = r.quitting ∧
            ((∃ count, fs.BreaksOff (.write path) count) ∨
              ∃ p, fs.tree.resolve path = .ok p ∧
                fs.tree.resolve (DocumentFile.backupPath path) = .ok p)) := by
  refine ⟨h.safe.file, h.safe.stored, h.safe.asks, fun k => ⟨fun hstays hquits => ?_, ?_⟩⟩
  · obtain hsaved | hgiven := (press_effect r fs k).leaves hstays hquits
    · refine .inl ⟨hsaved, fun hwhole => (h.pressed k).safe.stored hsaved ?_⟩
      -- The reader has quit, so the key has damaged nothing.
      rintro ⟨hfails, hdamaged | hdamages⟩
      · exact hwhole.elim (fun hsound => hsound hdamaged) hfails
      · have hsame := ((press_effect r fs k).complains h.safe.file h.safe.there hdamages).2.1
        simp [hsame, hstays] at hquits
    · exact .inr hgiven
  · exact (press_effect r fs k).complains h.safe.file h.safe.there

/-- A template was tried and the reader asks; the answer gives the change up. -/
theorem keeps_unsaved_changes_of_poem :
    ∃ damaged r fs,
      Reached "poem.txt" damaged r fs ∧ r.mode = .savePrompt ∧ r.modified = true ∧
        r.quitting = false ∧ (r.press fs ⟨.char 'n', false⟩).1.quitting = true ∧
        (((r.press fs ⟨.char 'n', false⟩).1.modified = false ∧
            ((¬damaged ∨ Stores r fs ⟨.char 'n', false⟩) →
              (r.press fs ⟨.char 'n', false⟩).2.tree.read "poem.txt" =
                .ok (r.press fs ⟨.char 'n', false⟩).1.bytes)) ∨
          GivesUp r ⟨.char 'n', false⟩) := by
  let fs := FileSystem.sound ⟨[(["poem.txt"], .file "moon\n\nstars".toUTF8 false)], []⟩
  have hopened : ((new .standard).openAt fs "poem.txt").2 = .ok () := rfl
  have hmode : (new .standard).mode ≠ .savePrompt := by decide
  have h := ((Reached.opened hmode hopened).pressed ⟨.char 't', false⟩).pressed ⟨.char 'q', false⟩
  exact ⟨_, _, _, h, by decide +kernel, by decide +kernel, by decide +kernel, by decide +kernel,
    ((keeps_unsaved_changes h).2.2.2 ⟨.char 'n', false⟩).1 (by decide +kernel)
      (by decide +kernel)⟩

/-- On a disk that is full after one byte, saving a document without changes leaves one byte of it,
and the reader is left without a question. And a reader that asks about another document goes on
asking when a document is opened, which has no changes. -/
theorem changes_are_lost :
    (let fs := FileSystem.failing ⟨[(["poem.txt"], .file "moon".toUTF8 false)], []⟩
      [(.write "poem.txt", ⟨.storageFull, some 1⟩)]
    let opened := (new .standard).openAt fs "poem.txt"
    let saved := opened.1.press fs ⟨.char 'w', false⟩
    let left := saved.1.press saved.2 ⟨.char 'q', false⟩
    opened.2 = .ok () ∧ saved.1.modified = false ∧
      saved.2.tree.read "poem.txt" = .ok "m".toUTF8 ∧ saved.1.bytes = "moon".toUTF8 ∧
      left.1.quitting = true) ∧
    (let fs := FileSystem.sound ⟨[(["poem.txt"], .file "moon".toUTF8 false)], []⟩
    let shown := (new .standard).setDocument (.ofString "a\n\nb")
    let tried := shown.press fs ⟨.char 't', false⟩
    let asking := tried.1.press tried.2 ⟨.char 'q', false⟩
    let opened := asking.1.openAt asking.2 "poem.txt"
    opened.2.toOption = some () ∧ opened.1.quitting = false ∧ opened.1.mode = .savePrompt ∧
      opened.1.modified = false) :=
  ⟨⟨rfl, by decide +kernel, rfl, by decide +kernel, by decide +kernel⟩,
    by decide +kernel, by decide +kernel, by decide +kernel, by decide +kernel⟩

end Reader

end MarkedVerse
