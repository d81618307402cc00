import MarkedVerse.Proofs.Saving
import MarkedVerse.Proofs.SiblingPaths

/-!
# The previous version of a document

Before a document is written, what its file holds is copied to a file under another extension. A
save that succeeds leaves that copy, as far as it could be made, and touches nothing else
(`save_keeps_previous_version`). The copy takes no part in whether the save succeeds: beside a
protected file the document is written all the same, and so it is when the disk has no room for the
copy or when the copy is the file itself (`previous_version_is_lost`).
-/

namespace MarkedVerse

namespace DocumentFile

variable {f : DocumentFile} {fs : FileSystem} {path : String} {bytes : ByteArray} {d : Document}
  {readOnly : Bool} {p q : Place} {message : String}

/-- The path of the backup of a file can mean a file. -/
theorem wantsDirectory_backupPath (hresolve : fs.tree.resolve path = .ok p)
    (hget : fs.tree.get? p = some (.file bytes readOnly)) :
    Path.wantsDirectory (backupPath path) = false :=
  Path.wantsDirectory_withExtension (FileTree.resolve_eq_ok_iff.1 hresolve).1
    (FileTree.wantsDirectory_eq_false hresolve hget) (by decide) (by decide)

/-- A backup can be made where no protected file stands, and no directory. -/
theorem takes_backupPath_iff (hresolve : fs.tree.resolve path = .ok p)
    (hget : fs.tree.get? p = some (.file bytes readOnly))
    (hbackup : fs.tree.resolve (backupPath path) = .ok q)
    (hdirectory : fs.tree.get? q ≠ some .directory) :
    fs.tree.Takes (backupPath path) q ↔ ∀ old, fs.tree.get? q ≠ some (.file old true) := by
  rw [← FileTree.writable_iff hdirectory]
  exact ⟨fun h => h.writable, fun h => ⟨hbackup, h, wantsDirectory_backupPath hresolve hget⟩⟩

/-! ## Making the backup -/

/-- The backup of a file that holds something is made as far as the copy goes. -/
theorem backUp_of_takes (hresolve : fs.tree.resolve path = .ok p)
    (hget : fs.tree.get? p = some (.file bytes readOnly)) (hne : bytes.size ≠ 0)
    (hdetails : fs.fault? (.details path) = none) (hq : fs.tree.Takes (backupPath path) q) :
    (backUp fs path).tree = fs.outcome (.copy path (backupPath path)) fs.tree fun count =>
      fs.tree.put q (.file (FileTree.copied p q bytes count) readOnly) := by
  have hstat := FileTree.stat_eq_ok_iff.2 ⟨p, hresolve, hget⟩
  rw [backUp_eq_copy (FileSystem.look_eq_ok_iff.2 ⟨hdetails, hstat⟩) hne,
    FileSystem.copy_of_takes hresolve hget hq]
  rfl

/-- No backup is made of a file about which nothing can be learned, or where there can be none. -/
theorem backUp_of_not_takes
    (h : fs.fault? (.details path) ≠ none ∨ ∀ q, ¬fs.tree.Takes (backupPath path) q) :
    (backUp fs path).tree = fs.tree := by
  unfold backUp
  split
  · next bytes readOnly hlook =>
    split
    · rfl
    · obtain hdetails | htakes := h
      · exact absurd (FileSystem.look_eq_ok_iff.1 hlook).1 hdetails
      · obtain ⟨cause, hcopy⟩ := FileSystem.copy_of_not_takes htakes path
        rw [hcopy]
  · rfl

/-- Making the backup changes its place only, and the path of the file still leads to the file. -/
theorem resolve_backUp (hresolve : fs.tree.resolve path = .ok p)
    (hget : fs.tree.get? p = some (.file bytes readOnly)) :
    (backUp fs path).tree.resolve path = .ok p ∧
      ∀ place, fs.tree.resolve (backupPath path) ≠ .ok place →
        (backUp fs path).tree.get? place = fs.tree.get? place := by
  obtain hsame | ⟨q, count, hq, hput⟩ := tree_backUp hresolve hget
  · rw [hsame]
    exact ⟨hresolve, fun _ _ => rfl⟩
  · rw [hput]
    refine ⟨FileTree.resolve_put hq.writable.ne_directory _ hresolve fun _ =>
      FileTree.wantsDirectory_eq_false hresolve hget, fun place hplace => ?_⟩
    exact FileTree.get?_put_other _ _ fun heq => hplace (heq ▸ hq.resolve)

/-! ## What a save leaves -/

/-- A save that succeeds puts the text at the place of the file, in the tree in which the backup has
been made. -/
theorem save_eq_put (hpath : f.path = some path) (hresolve : fs.tree.resolve path = .ok p)
    (hget : fs.tree.get? p = some (.file bytes readOnly))
    (hsaved : (f.save fs d).2 = .ok message) :
    (f.save fs d).1.tree = (backUp fs path).tree.put p (.file d.toString.toUTF8 false) := by
  obtain ⟨p', hp', hput⟩ := tree_save_of_ok hpath hsaved
  obtain rfl : p = p' := hp'.eq_of_resolve (resolve_backUp hresolve hget).1
  exact hput

/-- What a save leaves at the place of the backup of a file that held these bytes: all of them,
those that were written before the copy broke off, or what stood there before. -/
structure IsBackedUp (fs : FileSystem) (after : FileTree) (path : String) (bytes : ByteArray)
    (readOnly : Bool) (q : Place) : Prop where
  copied : fs.fault? (.details path) = none → fs.fault? (.copy path (backupPath path)) = none →
    (∀ old, fs.tree.get? q ≠ some (.file old true)) → after.get? q = some (.file bytes readOnly)
  brokenOff : ∀ cause count, fs.fault? (.details path) = none →
    fs.fault? (.copy path (backupPath path)) = some ⟨cause, some count⟩ →
    (∀ old, fs.tree.get? q ≠ some (.file old true)) →
      after.get? q = some (.file (bytes.extract 0 count) readOnly)
  left : fs.fault? (.details path) ≠ none ∨
    (∃ cause, fs.fault? (.copy path (backupPath path)) = some ⟨cause, none⟩) ∨
    (∃ old, fs.tree.get? q = some (.file old true)) → after.get? q = fs.tree.get? q

/-- Making the backup has these effects at another place than that of the file, when no directory
stands there. -/
theorem isBackedUp_backUp (hresolve : fs.tree.resolve path = .ok p)
    (hget : fs.tree.get? p = some (.file bytes readOnly)) (hne : bytes.size ≠ 0)
    (hbackup : fs.tree.resolve (backupPath path) = .ok q)
    (hdirectory : fs.tree.get? q ≠ some .directory) (hpq : p ≠ q) :
    IsBackedUp fs (backUp fs path).tree path bytes readOnly q := by
  have htakes := takes_backupPath_iff hresolve hget hbackup hdirectory
  have hmade (hdetails : fs.fault? (.details path) = none)
      (hfree : ∀ old, fs.tree.get? q ≠ some (.file old true)) :=
    backUp_of_takes hresolve hget hne hdetails (htakes.2 hfree)
  have hput (t : FileTree) (content : ByteArray) (hfree : ∀ old,
      fs.tree.get? q ≠ some (.file old true)) (ht : t = fs.tree.put q (.file content readOnly)) :
      t.get? q = some (.file content readOnly) :=
    ht ▸ FileTree.get?_put_same _ _ (htakes.2 hfree).writable.ne_top
  refine ⟨fun hdetails hcopy hfree => ?_, fun cause count hdetails hcopy hfree => ?_,
    fun hleft => ?_⟩
  · refine hput _ _ hfree ?_
    rw [hmade hdetails hfree, FileSystem.outcome_of_none hcopy, FileTree.copied_other hpq]
    rfl
  · refine hput _ _ hfree ?_
    rw [hmade hdetails hfree, FileSystem.outcome_of_brokenOff hcopy, FileTree.copied_other hpq]
    rfl
  · by_cases hdetails : fs.fault? (.details path) = none
    · by_cases hfree : ∀ old, fs.tree.get? q ≠ some (.file old true)
      · obtain hnot | ⟨cause, hcopy⟩ | ⟨old, hold⟩ := hleft
        · exact absurd hdetails hnot
        · rw [hmade hdetails hfree, FileSystem.outcome_of_refused hcopy]
        · exact absurd hold (hfree old)
      · rw [backUp_of_not_takes (.inr fun q' hq' => ?_)]
        obtain rfl : q = q' := hq'.eq_of_resolve hbackup
        exact hfree (htakes.1 hq')
    · rw [backUp_of_not_takes (.inl hdetails)]

/-- A document is open whose file holds something, and no directory stands under the extension of
backups. After a save that succeeds the file holds the text of the document. The backup, when it
stands at another place, holds what the file held before, as far as the copy went: a protected file
cannot be replaced, and the copy may be refused or break off. Nothing else has changed. Without
links the backup does stand at another place, unless the path is that of a backup itself. -/
theorem save_keeps_previous_version (hpath : f.path = some path)
    (hfile : fs.tree.stat path = .ok (.file bytes readOnly)) (hne : bytes.size ≠ 0)
    (hdirectory : fs.tree.isDirectory (backupPath path) = false)
    (hsaved : (f.save fs d).2 = .ok message) :
    let after := (f.save fs d).1.tree
    after.read path = .ok d.toString.toUTF8 ∧
      ∃ p, fs.tree.resolve path = .ok p ∧
        (∀ q, fs.tree.resolve (backupPath path) = .ok q → q ≠ p →
          IsBackedUp fs after path bytes readOnly q) ∧
        (∀ place, place ≠ p → fs.tree.resolve (backupPath path) ≠ .ok place →
          after.get? place = fs.tree.get? place) ∧
        ((∀ place n, fs.tree.link? place n = none) → ∃ q,
          fs.tree.resolve (backupPath path) = .ok q ∧ (q = p ↔ backupPath path = path)) := by
  intro after
  obtain ⟨p, hresolve, hget⟩ := FileTree.stat_eq_ok_iff.1 hfile
  have hafter : after = (backUp fs path).tree.put p (.file d.toString.toUTF8 false) :=
    save_eq_put hpath hresolve hget hsaved
  have hother (place : Place) (hplace : place ≠ p) :
      after.get? place = (backUp fs path).tree.get? place := by
    rw [hafter, FileTree.get?_put_other _ _ hplace]
  refine ⟨read_save_of_ok hpath hsaved, p, hresolve, fun q hbackup hqp => ?_,
    fun place hplace hbackup => ?_, fun hlinks => ?_⟩
  · have hnone := FileTree.ne_directory_of_isDirectory hdirectory hbackup
    have hmade := isBackedUp_backUp hresolve hget hne hbackup hnone (Ne.symm hqp)
    constructor
    · exact fun hdetails hcopy hfree => (hother q hqp).trans (hmade.copied hdetails hcopy hfree)
    · exact fun cause count hdetails hcopy hfree =>
        (hother q hqp).trans (hmade.brokenOff cause count hdetails hcopy hfree)
    · exact fun hleft => (hother q hqp).trans (hmade.left hleft)
  · exact (hother place hplace).trans ((resolve_backUp hresolve hget).2 place hbackup)
  · exact FileTree.resolve_withExtension hlinks hresolve
      (FileTree.wantsDirectory_eq_false hresolve hget) (by decide) (by decide)

/-- A path that goes up again out of a linked directory, and a name with two dots: the old backup is
replaced by what the file held. -/
theorem save_keeps_previous_version_of_poem :
    let fs : FileSystem := .sound
      ⟨[(["all"], .directory), (["all", "new"], .directory),
        (["all", "a.b.txt"], .file "moon".toUTF8 false),
        (["all", "a.b.bak"], .file "old moon".toUTF8 false)], [(["poems"], "all/new")]⟩
    let f : DocumentFile := ⟨some "poems/../a.b.txt", false⟩
    let after := (f.save fs (.ofString "stars")).1.tree
    (f.path = some "poems/../a.b.txt" ∧
        fs.tree.stat "poems/../a.b.txt" = .ok (.file "moon".toUTF8 false) ∧
        "moon".toUTF8.size ≠ 0 ∧
        fs.tree.isDirectory (backupPath "poems/../a.b.txt") = false ∧
        (f.save fs (.ofString "stars")).2 = .ok "1 lines written") ∧
      after.read "poems/../a.b.txt" = .ok "stars".toUTF8 ∧
      after.get? ["all", "a.b.bak"] = some (.file "moon".toUTF8 false) := by
  intro fs f after
  have hfile : fs.tree.stat "poems/../a.b.txt" = .ok (.file "moon".toUTF8 false) := rfl
  have hne : "moon".toUTF8.size ≠ 0 := by decide
  have hdirectory : fs.tree.isDirectory (backupPath "poems/../a.b.txt") = false := rfl
  have hsaved : (f.save fs (.ofString "stars")).2 = .ok "1 lines written" := rfl
  have hbackup : fs.tree.resolve (backupPath "poems/../a.b.txt") = .ok ["all", "a.b.bak"] := rfl
  obtain ⟨hread, p, hresolve, hmade, -⟩ :=
    save_keeps_previous_version rfl hfile hne hdirectory hsaved
  obtain rfl : ["all", "a.b.txt"] = p := Except.ok.inj hresolve
  have hcopied := (hmade _ hbackup (by decide)).copied rfl rfl
  refine ⟨⟨rfl, hfile, hne, hdirectory, hsaved⟩, hread, hcopied fun old hold => ?_⟩
  cases hold

/-- A save succeeds, and afterwards the file under the extension of backups, which is no directory,
does not hold what the file of the document held. A protected file stays there as it was; a link
that leads to the file of the document ends up with the new text, and so does a document that stands
under that extension itself; on a full disk there is no copy at all. -/
theorem previous_version_is_lost :
    let poem : Place × Entry := (["poem.txt"], .file "moon".toUTF8 false)
    let occupied : FileSystem := .sound ⟨[poem, (["poem.bak"], .file "sun".toUTF8 true)], []⟩
    let linked : FileSystem := .sound ⟨[poem], [(["poem.bak"], "poem.txt")]⟩
    let own : FileSystem := .sound ⟨[(["poem.bak"], .file "moon".toUTF8 false)], []⟩
    let full : FileSystem :=
      .failing ⟨[poem], []⟩ [(.copy "poem.txt" "poem.bak", ⟨.storageFull, none⟩)]
    let Loses (fs : FileSystem) (path : String) (left : Except OsError ByteArray) : Prop :=
      let saved := (⟨some path, false⟩ : DocumentFile).save fs (.ofString "stars")
      fs.tree.stat path = .ok (.file "moon".toUTF8 false) ∧
        fs.tree.isDirectory (backupPath path) = false ∧ saved.2 = .ok "1 lines written" ∧
        saved.1.tree.read (backupPath path) = left
    "moon".toUTF8.size ≠ 0 ∧ "sun".toUTF8.size ≠ "moon".toUTF8.size ∧
      "stars".toUTF8.size ≠ "moon".toUTF8.size ∧
      Loses occupied "poem.txt" (.ok "sun".toUTF8) ∧ Loses linked "poem.txt" (.ok "stars".toUTF8) ∧
      Loses own "poem.bak" (.ok "stars".toUTF8) ∧ Loses full "poem.txt" (.error .notFound) :=
  ⟨by decide, by decide, by decide, ⟨rfl, rfl, rfl, rfl⟩, ⟨rfl, rfl, rfl, rfl⟩,
    ⟨rfl, rfl, rfl, rfl⟩, rfl, rfl, rfl, rfl⟩

end DocumentFile

end MarkedVerse
