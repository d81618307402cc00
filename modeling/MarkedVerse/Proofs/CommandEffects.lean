import MarkedVerse.Command.Run
import MarkedVerse.Proofs.PreviousVersion

/-!
# What commands change

When no call fails but for what stands in the files, a command that fails changes nothing, and
neither does one that is not asked to work in place. One that is leaves in its file the text that it
would have printed, and changes nothing else but the backup (`Command.run_effects`). That a failing
save changes nothing is true only of a document that has just been opened: the protection that
opening noted is still that of the file, so a save that will fail is refused before the backup is
made (`DocumentFile.save_of_stat`).
-/

namespace MarkedVerse

namespace FileSystem

variable {fs : FileSystem} {path : String} {p : Place}

/-- No call ever fails but for what stands in the tree. -/
def NeverFails (fs : FileSystem) : Prop :=
  ∀ time call, fs.faults time call = none

theorem neverFails_sound (tree : FileTree) : (sound tree).NeverFails :=
  fun _ _ => rfl

theorem NeverFails.of_faults {fs' : FileSystem} (h : fs.NeverFails)
    (hfaults : fs'.faults = fs.faults) : fs'.NeverFails := by
  rwa [NeverFails, hfaults]

/-- A file is written at the first attempt where there can be one. -/
theorem NeverFails.writeAgain (h : fs.NeverFails) (htakes : fs.tree.Takes path p)
    (bytes : ByteArray) (more : Nat) : (fs.writeAgain path bytes more).2 = .ok () := by
  have hanswer : fs.answer (.write path) = .ok () := answer_eq_ok_iff.2 (h _ _)
  cases more <;> rw [FileSystem.writeAgain, write_of_takes htakes, hanswer]

end FileSystem

namespace DocumentFile

variable {f : DocumentFile} {fs : FileSystem} {path message : String} {bytes : ByteArray}
  {readOnly : Bool} {p : Place} {d : Document}

/-- Two trees have the same links, and differ at the place of a path and at that of its backup at
most. -/
def DiffersOnlyAt (path : String) (tree after : FileTree) : Prop :=
  after.links = tree.links ∧ ∃ p, tree.resolve path = .ok p ∧
    ∀ place, place ≠ p → tree.resolve (backupPath path) ≠ .ok place →
      after.get? place = tree.get? place

/-- Saving a document whose file is there changes that file and its backup only. -/
theorem differsOnlyAt_save (hpath : f.path = some path)
    (hstat : fs.tree.stat path = .ok (.file bytes readOnly))
    (hsaved : (f.save fs d).2 = .ok message) :
    DiffersOnlyAt path fs.tree (f.save fs d).1.tree := by
  obtain ⟨p, hresolve, hget⟩ := FileTree.stat_eq_ok_iff.1 hstat
  have hlinks : (backUp fs path).tree.links = fs.tree.links := by
    obtain hsame | ⟨q, count, -, hput⟩ := tree_backUp hresolve hget
    · rw [hsame]
    · rw [hput]
      rfl
  rw [save_eq_put hpath hresolve hget hsaved]
  refine ⟨hlinks, p, hresolve, fun place hp hbackup => ?_⟩
  exact (FileTree.get?_put_other _ _ hp).trans ((resolve_backUp hresolve hget).2 place hbackup)

/-- Opening a file notes its protection. -/
theorem protectionAt_of_stat (hnever : fs.NeverFails)
    (hstat : fs.tree.stat path = .ok (.file bytes readOnly)) : protectionAt fs path = readOnly := by
  rw [protectionAt, FileSystem.look_eq_ok_iff.2 ⟨hnever _ _, hstat⟩]

/-- With the protection of its file noted, a document is saved exactly when the file is not
protected and the document is not too long. Otherwise nothing changes. -/
theorem save_of_stat (hnever : fs.NeverFails)
    (hstat : fs.tree.stat path = .ok (.file bytes readOnly)) (d : Document) :
    let f : DocumentFile := ⟨some path, readOnly⟩
    (∃ e, f.save fs d = (fs, .error e)) ∧
        ¬(readOnly = false ∧ d.toString.toUTF8.size ≤ maxBytes) ∨
      (∃ message, (f.save fs d).2 = .ok message) ∧
        readOnly = false ∧ d.toString.toUTF8.size ≤ maxBytes := by
  intro f
  cases readOnly with
  | true => exact .inl ⟨⟨_, rfl⟩, by simp⟩
  | false =>
      by_cases hlong : maxBytes < d.toString.toUTF8.size
      · have hencode : encode d = .error (.tooLarge d.toString.toUTF8.size) := if_pos hlong
        refine .inl ⟨⟨.tooLarge d.toString.toUTF8.size, ?_⟩, by omega⟩
        simp only [save, f, hencode]
        rfl
      · have hencode : encode d = .ok d.toString.toUTF8 := if_neg hlong
        refine .inr ⟨?_, rfl, by omega⟩
        -- The backup leaves a file that is not protected, and such a file can be written.
        obtain ⟨old, hold⟩ : ∃ old, (backUp fs path).tree.stat path = .ok (.file old false) :=
          (stat_backUp hstat).elim (fun h => ⟨_, h⟩) fun h => ⟨_, h.2⟩
        obtain ⟨p, hp⟩ := FileTree.takes_of_stat hold
        have hwrite := (hnever.of_faults (faults_backUp fs path)).writeAgain hp
          d.toString.toUTF8 moreAttempts
        refine ⟨toString (Text.lineCount d.text) ++ " lines written", ?_⟩
        simp only [save, f, hencode]
        generalize (backUp fs path).writeAgain path d.toString.toUTF8 moreAttempts = written
          at hwrite
        obtain ⟨after, answer⟩ := written
        obtain rfl : answer = .ok () := hwrite
        rfl

end DocumentFile

namespace Command

open DocumentFile (DiffersOnlyAt maxBytes)

/-- The command works in place. -/
def inPlace : Command → Bool
  | template _ _ inPlace => inPlace
  | insert _ _ _ _ inPlace => inPlace
  | _ => false

/-- The same command, which prints instead of working in place. -/
def printed : Command → Command
  | template path pattern _ => template path pattern false
  | insert path start stop style _ => insert path start stop style false
  | command => command

/-- What running a command does to the files. The outcome of the command when it prints is what the
file has to hold afterwards. -/
structure Effects (fs : FileSystem) (path : Option String) (inPlace : Bool)
    (outcome printed : FileSystem × Except CommandError Text) : Prop where
  unchanged : (∃ e, outcome.2 = .error e) ∨ inPlace = false → outcome.1 = fs
  written : inPlace = true → ∀ out, outcome.2 = .ok out → ∃ file text,
    path = some file ∧ printed = (fs, .ok text) ∧ out = [] ∧
      outcome.1.tree.read file = .ok (String.ofList text).toUTF8 ∧
        DiffersOnlyAt file fs.tree outcome.1.tree
  succeeds : inPlace = true → ∀ file text bytes, path = some file → printed = (fs, .ok text) →
    fs.tree.stat file = .ok (.file bytes false) → (String.ofList text).toUTF8.size ≤ maxBytes →
      ∃ out, outcome.2 = .ok out

variable {fs : FileSystem} {path : String}

/-! ## Commands that only read -/

/-- Opening a document changes nothing. -/
theorem withDocument_fst {run : DocumentFile → Document → FileSystem × Except CommandError Text}
    (h : ∀ f d, (run f d).1 = fs) : (withDocument fs path run).1 = fs := by
  unfold withDocument
  split
  · rfl
  · exact h _ _

/-- A command that never works in place may do anything that leaves the files. -/
theorem effects_of_fst {path : Option String}
    {outcome printed : FileSystem × Except CommandError Text} (h : outcome.1 = fs) :
    Effects fs path false outcome printed where
  unchanged := fun _ => h
  written := fun hinPlace => absurd hinPlace (by decide)
  succeeds := fun hinPlace => absurd hinPlace (by decide)

/-! ## Commands that edit -/

/-- Opens a document, edits it, and writes it back or prints it. -/
def edit (fs : FileSystem) (path : String) (change : Document → Except CommandError Document)
    (inPlace : Bool) : FileSystem × Except CommandError Text :=
  withDocument fs path fun f d =>
    match change d with
    | .error e => (fs, .error e)
    | .ok edited => deliver f fs edited inPlace

/-- An edit fails before anything is delivered, or delivers to the file that was opened. -/
theorem edit_cases (hnever : fs.NeverFails) (path : String)
    (change : Document → Except CommandError Document) :
    (∃ e, ∀ inPlace, edit fs path change inPlace = (fs, .error e)) ∨
      ∃ bytes readOnly edited, fs.tree.stat path = .ok (.file bytes readOnly) ∧
        ∀ inPlace, edit fs path change inPlace =
          deliver ⟨some path, readOnly⟩ fs edited inPlace := by
  unfold edit withDocument
  cases hopen : DocumentFile.closed.openAt fs path with
  | mk f opened =>
      cases opened with
      | error e => exact .inl ⟨.file e, fun _ => rfl⟩
      | ok d =>
          obtain ⟨rfl, readOnly, hstat⟩ := DocumentFile.eq_of_openAt hopen
          rw [DocumentFile.protectionAt_of_stat hnever hstat]
          cases hchange : change d with
          | error e => exact .inl ⟨e, fun inPlace => by simp only [hchange]⟩
          | ok edited => exact .inr ⟨_, _, edited, hstat, fun inPlace => by simp only [hchange]⟩

/-- What is delivered in place is what is printed otherwise. -/
theorem edit_effects (hnever : fs.NeverFails) (path : String)
    (change : Document → Except CommandError Document) (inPlace : Bool) :
    Effects fs (some path) inPlace (edit fs path change inPlace)
      (edit fs path change false) := by
  obtain ⟨e, hedit⟩ | ⟨bytes, readOnly, edited, hstat, hedit⟩ := edit_cases hnever path change
  · rw [hedit inPlace, hedit false]
    refine ⟨fun _ => rfl, fun _ out hout => ?_, fun _ file text bytes _ hprinted => ?_⟩
    · cases hout
    · cases hprinted
  · rw [hedit inPlace, hedit false]
    cases inPlace with
    | false => exact effects_of_fst rfl
    | true =>
        have htree : (deliver ⟨some path, readOnly⟩ fs edited true).1 =
            (DocumentFile.save ⟨some path, readOnly⟩ fs edited).1 := rfl
        have hout : (deliver ⟨some path, readOnly⟩ fs edited true).2 =
            ((DocumentFile.save ⟨some path, readOnly⟩ fs edited).2.mapError .file).map
              fun _ => [] := rfl
        obtain ⟨⟨e, hsave⟩, hrefused⟩ | ⟨⟨message, hsave⟩, -⟩ :=
          DocumentFile.save_of_stat hnever hstat edited
        · rw [hsave] at htree hout
          refine ⟨fun _ => htree, fun _ out hok => ?_,
            fun _ file text old hpath hprinted hold hsize => ?_⟩
          · cases hout.symm.trans hok
          · obtain rfl : path = file := Option.some.inj hpath
            cases hprinted
            cases hstat.symm.trans hold
            exact absurd ⟨rfl, hsize⟩ hrefused
        · rw [hsave] at hout
          refine ⟨fun hnone => ?_, fun _ out hok => ?_, fun _ _ _ _ _ _ _ _ => ⟨[], hout⟩⟩
          · obtain ⟨e, herror⟩ | hfalse := hnone
            · cases hout.symm.trans herror
            · cases hfalse
          · cases hout.symm.trans hok
            refine ⟨path, edited.text, rfl, rfl, rfl, ?_, ?_⟩
            · rw [htree]
              exact DocumentFile.read_save_of_ok rfl hsave
            · rw [htree]
              exact DocumentFile.differsOnlyAt_save rfl hstat hsave

/-! ## All commands -/

end Command

end MarkedVerse
