import MarkedVerse.DocumentFile
import MarkedVerse.Proofs.FailingCalls

/-!
# Saving a document

What saving leaves at the path of a document. A save that succeeds leaves the text of the document
there (`read_save_of_ok`). One that fails leaves what could be read before, with two exceptions
(`read_save_of_error`): a write that breaks off has replaced the old bytes by the first ones of the
text, and a file that is its own backup has been emptied by the copy.
-/

namespace MarkedVerse

namespace DocumentFile

variable {f : DocumentFile} {fs : FileSystem} {path : String} {bytes : ByteArray} {d : Document}
  {readOnly : Bool} {p : Place}

/-- The bytes of a document that was read are the bytes it was read from. -/
theorem toUTF8_of_decode (h : decode path bytes = .ok d) : d.toString.toUTF8 = bytes := by
  unfold decode at h
  split at h
  case h_1 => cases h
  case h_2 s hs =>
    have hbytes : s.toUTF8 = bytes := by
      unfold String.fromUTF8? at hs
      split at hs
      · rw [← Option.some.inj hs]
        rfl
      · cases hs
    split at h
    · cases h
    · rw [← Except.ok.inj h, Document.toString, Document.ofString, String.ofList_toList, hbytes]

/-- A document that was opened holds what its path leads to, and the protection of the file is
noted. -/
theorem eq_of_openAt {g : DocumentFile} (h : f.openAt fs path = (g, .ok d)) :
    g = ⟨some path, protectionAt fs path⟩ ∧
      ∃ readOnly, fs.tree.stat path = .ok (.file d.toString.toUTF8 readOnly) := by
  unfold openAt at h
  split at h
  · cases h
  · split at h
    case h_2 => cases h
    case h_1 =>
      dsimp only at h
      split at h
      · cases h
      · next bytes hread =>
        split at h
        · cases h
        · next document hdecode =>
          obtain ⟨rfl, hd⟩ := Prod.mk.inj h
          rw [← Except.ok.inj hd, toUTF8_of_decode hdecode]
          exact ⟨rfl, FileTree.read_eq_ok_iff.1 (FileSystem.read_eq_ok_iff.1 hread).2⟩

theorem openAt_ok {g : DocumentFile} (h : f.openAt fs path = (g, .ok d)) :
    g.path = some path ∧ fs.tree.read path = .ok d.toString.toUTF8 := by
  obtain ⟨rfl, hstat⟩ := eq_of_openAt h
  exact ⟨rfl, FileTree.read_eq_ok_iff.2 hstat⟩

/-! ## The backup -/

/-- Making the backup of a file that holds something copies it. -/
theorem backUp_eq_copy (hstat : fs.look .details path = .ok (.file bytes readOnly))
    (hne : bytes.size ≠ 0) : backUp fs path = (fs.copy path (backupPath path)).1 := by
  rw [backUp, hstat]
  exact if_neg hne

/-- Making the backup changes nothing, or it puts bytes of the file at the place of the backup. -/
theorem tree_backUp (hresolve : fs.tree.resolve path = .ok p)
    (hget : fs.tree.get? p = some (.file bytes readOnly)) :
    (backUp fs path).tree = fs.tree ∨ ∃ q count, fs.tree.Takes (backupPath path) q ∧
      (backUp fs path).tree =
        fs.tree.put q (.file (FileTree.copied p q bytes count) readOnly) := by
  unfold backUp
  split
  · split
    · exact .inl rfl
    · by_cases htakes : ∃ q, fs.tree.Takes (backupPath path) q
      · obtain ⟨q, hq⟩ := htakes
        rw [FileSystem.copy_of_takes hresolve hget hq]
        obtain ⟨-, hafter⟩ | ⟨-, hafter | ⟨count, -, hafter⟩⟩ :=
          FileSystem.answer_cases fs (.copy path (backupPath path)) fun count =>
            fs.tree.put q (.file (FileTree.copied p q bytes count) readOnly)
        · exact .inr ⟨q, none, hq, hafter⟩
        · exact .inl hafter
        · exact .inr ⟨q, some count, hq, hafter⟩
      · obtain ⟨cause, hcopy⟩ := FileSystem.copy_of_not_takes (not_exists.1 htakes) path
        rw [hcopy]
        exact .inl rfl
  · exact .inl rfl

/-- Making the backup leaves the file as it was, or empties a file that is its own backup and is not
protected. -/
theorem stat_backUp (h : fs.tree.stat path = .ok (.file bytes readOnly)) :
    (backUp fs path).tree.stat path = .ok (.file bytes readOnly) ∨
      (∃ p, fs.tree.resolve path = .ok p ∧ fs.tree.resolve (backupPath path) = .ok p) ∧
        (backUp fs path).tree.stat path = .ok (.file ByteArray.empty false) := by
  obtain ⟨p, hresolve, hget⟩ := FileTree.stat_eq_ok_iff.1 h
  obtain hsame | ⟨q, count, hq, hput⟩ := tree_backUp hresolve hget
  · rw [hsame]
    exact .inl h
  · by_cases hpq : p = q
    · -- The file is its own backup, so the writable place is the one where it stands.
      subst hpq
      obtain rfl : readOnly = false := hq.writable.readOnly_eq_false hget
      rw [hput, FileTree.copied_self]
      exact .inr ⟨⟨p, hresolve, hq.resolve⟩, FileTree.stat_put_same hq.writable hresolve
        (FileTree.wantsDirectory_eq_false hresolve hget) _⟩
    · rw [hput, FileTree.stat_put_other hq.writable hresolve hpq]
      exact .inl h

@[simp]
theorem faults_backUp (fs : FileSystem) (path : String) : (backUp fs path).faults = fs.faults := by
  unfold backUp
  split
  · split
    · rfl
    · exact FileSystem.faults_copy _ _ _
  · rfl

/-! ## What a save leaves -/

variable {e : FileError} {message : String}

theorem eq_toUTF8_of_encode (h : encode d = .ok bytes) : bytes = d.toString.toUTF8 := by
  unfold encode at h
  simp only at h
  split at h
  · cases h
  · exact (Except.ok.inj h).symm

/-- A save is refused before anything is written, or it makes the backup and then writes. -/
theorem save_cases (hpath : f.path = some path) (fs : FileSystem) (d : Document) :
    let written := (backUp fs path).writeAgain path d.toString.toUTF8 moreAttempts
    (∃ e, f.save fs d = (fs, .error e)) ∨
      (∃ cause, written.2 = .error cause ∧
        f.save fs d = (written.1, .error (.unwritable path cause))) ∨
      written.2 = .ok () ∧
        f.save fs d = (written.1, .ok (toString (Text.lineCount d.text) ++ " lines written")) := by
  intro written
  have hwritten : (backUp fs path).writeAgain path d.toString.toUTF8 moreAttempts = written := rfl
  unfold save
  simp only [hpath]
  cases hprotected : f.readOnly with
  | true => exact .inl ⟨_, rfl⟩
  | false =>
      cases hencode : encode d with
      | error e => exact .inl ⟨e, rfl⟩
      | ok bytes =>
          obtain rfl := eq_toUTF8_of_encode hencode
          simp only [hwritten, Bool.false_eq_true, if_false]
          clear_value written
          obtain ⟨after, result⟩ := written
          cases result with
          | error cause => exact .inr (.inl ⟨cause, rfl, rfl⟩)
          | ok => exact .inr (.inr ⟨rfl, rfl⟩)

/-- A save that succeeds has written the file, whatever attempts came before. -/
theorem tree_save_of_ok (hpath : f.path = some path) (h : (f.save fs d).2 = .ok message) :
    ∃ p, (backUp fs path).tree.Takes path p ∧
      (f.save fs d).1.tree = (backUp fs path).tree.put p (.file d.toString.toUTF8 false) := by
  obtain ⟨e, hsave⟩ | ⟨cause, -, hsave⟩ | ⟨hok, hsave⟩ := save_cases hpath fs d
  · rw [hsave] at h
    cases h
  · rw [hsave] at h
    cases h
  · rw [hsave]
    by_cases htakes : ∃ p, (backUp fs path).tree.Takes path p
    · obtain ⟨p, hp⟩ := htakes
      obtain ⟨-, hput⟩ | ⟨⟨cause, herror⟩, -⟩ :=
        FileSystem.writeAgain_of_takes hp d.toString.toUTF8 moreAttempts
      · exact ⟨p, hp, hput⟩
      · cases hok.symm.trans herror
    · obtain ⟨⟨cause, herror⟩, -⟩ := FileSystem.writeAgain_of_not_takes
        (not_exists.1 htakes) d.toString.toUTF8 moreAttempts
      cases hok.symm.trans herror

/-- After a save that succeeds the file holds the text of the document. -/
theorem read_save_of_ok (hpath : f.path = some path) (h : (f.save fs d).2 = .ok message) :
    (f.save fs d).1.tree.read path = .ok d.toString.toUTF8 := by
  obtain ⟨p, hp, hput⟩ := tree_save_of_ok hpath h
  rw [hput]
  exact hp.read_put _ _

/-- What a save that fails leaves where the bytes of a file were: these bytes, or the first ones of
the text when a write broke off, or none when the file is its own backup. -/
inductive Leaves (fs : FileSystem) (path : String) (old new : ByteArray) : ByteArray → Prop where
  | kept : Leaves fs path old new old
  | brokenOff {count : Nat} (h : fs.BreaksOff (.write path) count) :
      Leaves fs path old new (FileTree.cut new (some count))
  | emptied {p : Place} (hfile : fs.tree.resolve path = .ok p)
      (hbackup : fs.tree.resolve (backupPath path) = .ok p) :
      Leaves fs path old new ByteArray.empty

/-- A save that fails leaves the bytes of the file, unless a write broke off or the file is its own
backup. -/
theorem read_save_of_error (hpath : f.path = some path) (h : (f.save fs d).2 = .error e)
    (hread : fs.tree.read path = .ok bytes) :
    ∃ left, (f.save fs d).1.tree.read path = .ok left ∧
      Leaves fs path bytes d.toString.toUTF8 left := by
  obtain ⟨readOnly, hstat⟩ := FileTree.read_eq_ok_iff.1 hread
  obtain ⟨kept, protection, hkept, hleft⟩ : ∃ kept protection,
      (backUp fs path).tree.stat path = .ok (.file kept protection) ∧
        Leaves fs path bytes d.toString.toUTF8 kept := by
    obtain hsame | ⟨⟨p, hfile, hbackup⟩, hemptied⟩ := stat_backUp hstat
    · exact ⟨bytes, readOnly, hsame, .kept⟩
    · exact ⟨_, false, hemptied, .emptied hfile hbackup⟩
  have hagain (after : FileTree) (hafter : after = (backUp fs path).tree) :
      ∃ left, after.read path = .ok left ∧ Leaves fs path bytes d.toString.toUTF8 left :=
    ⟨kept, FileTree.read_eq_ok_iff.2 ⟨protection, hafter ▸ hkept⟩, hleft⟩
  obtain ⟨e, hsave⟩ | ⟨cause, hfails, hsave⟩ | ⟨-, hsave⟩ := save_cases hpath fs d
  · rw [hsave]
    exact ⟨bytes, hread, .kept⟩
  · rw [hsave]
    by_cases htakes : ∃ p, (backUp fs path).tree.Takes path p
    · obtain ⟨p, hp⟩ := htakes
      obtain ⟨hok, -⟩ | ⟨-, hsame | ⟨count, hbreaks, hput⟩⟩ :=
        FileSystem.writeAgain_of_takes hp d.toString.toUTF8 moreAttempts
      · cases hok.symm.trans hfails
      · exact hagain _ hsame
      · refine ⟨_, ?_, .brokenOff (hbreaks.of_faults (faults_backUp fs path))⟩
        rw [hput]
        exact hp.read_put _ _
    · exact hagain _ (FileSystem.writeAgain_of_not_takes (not_exists.1 htakes) _ _).2
  · rw [hsave] at h
    cases h

end DocumentFile

end MarkedVerse
