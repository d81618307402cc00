import MarkedVerse.Proofs.ConfigFile
import MarkedVerse.Proofs.ValidConfig

/-!
# Loading twice

A configuration that was loaded can be used (`valid_of_load`), and loading once more gives the same
one and changes no file (`load_stable`), if calls go on failing as they did. A load leaves of every
file what another load leaves as it is: what it has taken for a configuration, what it cannot
replace, or the standard configuration, which is read back. Where there was nothing at the path,
there still is nothing, or the standard configuration is there. For the path of a missing directory
and back out of it that is not so: once the directory is made, the path leads to whatever was there
(`second_load_differs`).
-/

namespace MarkedVerse

/-- Two trees hold the same. -/
structure FileTree.Agrees (t t' : FileTree) : Prop where
  links : t.links = t'.links
  entries : ∀ place, t.get? place = t'.get? place

theorem FileTree.Agrees.refl (t : FileTree) : t.Agrees t :=
  ⟨rfl, fun _ => rfl⟩

namespace FileSystem

variable {fs fs' : FileSystem} {path : String}

/-- A call that fails always fails in the same way, and one that does not never does. -/
def Steady (fs : FileSystem) : Prop :=
  ∀ time call, fs.faults time call = fs.fault? call

theorem Steady.of_faults (h : fs.Steady) (hfaults : fs'.faults = fs.faults) : fs'.Steady :=
  fun time call => by rw [fault?, hfaults, h time, h fs'.clock]

theorem Steady.fault?_eq (h : fs.Steady) (hfaults : fs'.faults = fs.faults) (call : Call) :
    fs'.fault? call = fs.fault? call := by
  rw [fault?, hfaults, h fs'.clock]

theorem setTree_of_eq {t : FileTree} (h : fs.tree = t) : fs.setTree t = fs := by
  rw [← h]
  rfl

/-- Directories are made for the first names of a path, always for as many of them as long as calls
fail in the same way. -/
theorem exists_makeDirectories_eq (fs : FileSystem) (path : String) :
    ∃ count, ∃ answer : Except OsError Unit → Except OsError Unit,
      ∀ fs' : FileSystem, (∀ call, fs'.fault? call = fs.fault? call) →
        let made := fs'.tree.makeDirectories ((Path.names path).take count)
        fs'.makeDirectories path = (fs'.setTree made.1, answer made.2) := by
  cases hempty : path.isEmpty with
  | true => exact ⟨0, id, fun fs' _ => by rw [makeDirectories, if_pos hempty]; rfl⟩
  | false =>
      cases hfault : fs.fault? (.makeDirectories path) with
      | none =>
          refine ⟨(Path.names path).length, id, fun fs' hsame => ?_⟩
          rw [makeDirectories, if_neg (by simp [hempty]), hsame, hfault, List.take_length]
          rfl
      | some fault =>
          refine ⟨fault.progress.getD 0, fun _ => .error fault.cause, fun fs' hsame => ?_⟩
          rw [makeDirectories, if_neg (by simp [hempty]), hsame, hfault]

/-- When these bytes are written to a file at the path, all of them are, or none if that fails. -/
def WritesWhole (fs : FileSystem) (path : String) (bytes : ByteArray) : Prop :=
  ∀ count, fs.extent (.write path) = some count →
    FileTree.cut bytes count = ByteArray.empty ∨ FileTree.cut bytes count = bytes

theorem extent_congr (hfault : ∀ call, fs'.fault? call = fs.fault? call) (call : Call) :
    fs'.extent call = fs.extent call := by
  rw [extent, extent, hfault]

theorem outcome_congr {α : Type} (hfault : ∀ call, fs'.fault? call = fs.fault? call) (call : Call)
    (old : α) (new : Option Nat → α) : fs'.outcome call old new = fs.outcome call old new := by
  rw [outcome, outcome, extent_congr hfault]

/-- No file is written where there can be none, or where the call is refused. -/
theorem tree_write_of_blocked
    (h : (∀ p, ¬fs.tree.Takes path p) ∨ fs.extent (.write path) = none) (bytes : ByteArray) :
    (fs.write path bytes).1.tree = fs.tree := by
  by_cases htakes : ∃ p, fs.tree.Takes path p
  · obtain ⟨p, hp⟩ := htakes
    have hrefused := h.resolve_left fun hnever => hnever p hp
    rw [write_of_takes hp, outcome, hrefused]
    rfl
  · obtain ⟨cause, hwrite⟩ := write_of_not_takes (not_exists.1 htakes) bytes
    rw [hwrite]
    rfl

/-- The tree after a file has been written where there can be one. -/
theorem tree_write_of_extent {p : Place} {count : Option Nat} (h : fs.tree.Takes path p)
    (hextent : fs.extent (.write path) = some count) (bytes : ByteArray) :
    (fs.write path bytes).1.tree = fs.tree.put p (.file (FileTree.cut bytes count) false) := by
  rw [write_of_takes h, outcome, hextent]
  rfl

end FileSystem

namespace Config

variable {fs fs' after : FileSystem} {path : Option String} {file : String} {bytes : ByteArray}
  {readOnly : Bool} {e : Entry} {c : Config} {p : Place}

/-! ## What is loaded -/

/-- Without a file to read, the standard configuration is loaded. -/
theorem load_of_missing (hfind : fs.fault? (.find file) = none)
    (h : fs.tree.stat file = .error .notFound) :
    load fs (some file) = restore fs (some file) := by
  rw [load, FileSystem.look, hfind]
  dsimp only
  rw [h]

theorem load_of_directory (hfind : fs.fault? (.find file) = none)
    (h : fs.tree.stat file = .ok .directory) :
    load fs (some file) = restore fs (some file) := by
  have hread (bytes : ByteArray) : fs.read file ≠ .ok bytes := fun hread => by
    obtain ⟨readOnly, hstat⟩ := FileTree.read_eq_ok_iff.1 (FileSystem.read_eq_ok_iff.1 hread).2
    cases h.symm.trans hstat
  rw [load, FileSystem.look_eq_ok_iff.2 ⟨hfind, h⟩]
  cases hresult : fs.read file with
  | error cause => rfl
  | ok bytes => exact absurd hresult (hread bytes)

/-- What there is at the path of a configuration that was loaded. -/
theorem found_of_load (h : (load fs (some file)).2 = .ok c) :
    fs.fault? (.find file) = none ∧
      (fs.tree.stat file = .error .notFound ∨ ∃ e, fs.tree.stat file = .ok e) := by
  cases hfind : fs.fault? (.find file) with
  | some fault =>
      rw [load_of_fault hfind] at h
      cases h
  | none =>
      refine ⟨rfl, ?_⟩
      cases hstat : fs.tree.stat file with
      | ok e => exact .inr ⟨e, rfl⟩
      | error cause =>
          rw [load, FileSystem.look, hfind] at h
          dsimp only at h
          rw [hstat] at h
          cases cause with
          | notFound => exact .inl rfl
          | _ => cases h

/-- A configuration that was loaded can be used. -/
theorem valid_of_load (h : (load fs path).2 = .ok c) : Valid c := by
  have hstandard (fs : FileSystem) (path : Option String)
      (hrestored : (restore fs path).2 = .ok c) : Valid c := by
    cases hrestored
    exact valid_standard
  cases path with
  | none => exact hstandard fs none h
  | some file =>
      obtain ⟨hfind, hstat | ⟨e, hstat⟩⟩ := found_of_load h
      · exact hstandard fs (some file) (load_of_missing hfind hstat ▸ h)
      · cases e with
        | directory => exact hstandard fs (some file) (load_of_directory hfind hstat ▸ h)
        | file bytes readOnly =>
            rw [load_of_file hfind hstat] at h
            cases htaken : taken fs file bytes with
            | config c' =>
                rw [htaken] at h
                cases h
                exact valid_validate c'
            | unreadable | blank | broken =>
                rw [htaken] at h
                exact hstandard _ _ h

/-! ## What a load leaves the faults -/

theorem faults_restore (fs : FileSystem) (path : Option String) :
    (restore fs path).1.faults = fs.faults := by
  cases path with
  | none => rfl
  | some file =>
      have hmade := FileSystem.faults_makeDirectories fs (directoryOf file)
      generalize hresult : fs.makeDirectories (directoryOf file) = result at hmade
      obtain ⟨made, answer⟩ := result
      cases answer with
      | error cause => rwa [restore_of_not_made hresult]
      | ok =>
          rw [restore_of_made hresult]
          exact (FileSystem.faults_write made file standardBytes).trans hmade

theorem faults_load (fs : FileSystem) (path : Option String) :
    (load fs path).1.faults = fs.faults := by
  unfold load
  repeat' split
  all_goals first
    | exact faults_restore _ _
    | exact (faults_restore _ _).trans (FileSystem.faults_copy _ _ _)
    | rfl

/-! ## What is taken for what -/

/-- What a load puts into a file is taken for white space or for the standard configuration, if it
can be read. -/
theorem taken_of_written (fs : FileSystem) (file : String)
    (h : bytes = ByteArray.empty ∨ bytes = standardBytes) :
    taken fs file bytes = .unreadable ∨ taken fs file bytes = .blank ∨
      taken fs file bytes = .config standard := by
  have hblank : contents ByteArray.empty = .blank := rfl
  unfold taken
  split
  · obtain h | h := h
    · exact .inr (.inl (h ▸ hblank))
    · exact .inr (.inr (h ▸ contents_standardBytes))
  · exact .inl rfl

theorem taken_ne_broken (fs : FileSystem) (file : String)
    (h : bytes = ByteArray.empty ∨ bytes = standardBytes) : taken fs file bytes ≠ .broken := by
  obtain htaken | htaken | htaken := taken_of_written fs file h <;> simp [htaken]

theorem eq_standard_of_taken (h : bytes = ByteArray.empty ∨ bytes = standardBytes)
    (htaken : taken fs file bytes = .config c) : c = standard := by
  simpa [htaken] using taken_of_written fs file h

theorem asideBytes_cases (fs : FileSystem) (file : String) (bytes : ByteArray) (readOnly : Bool) :
    asideBytes fs file bytes readOnly = bytes ∨
      asideBytes fs file bytes readOnly = ByteArray.empty := by
  unfold asideBytes
  split
  · split
    · exact FileSystem.outcome_of_both (P := fun b => b = bytes ∨ b = ByteArray.empty) fs _
        (.inl rfl) fun _ => .inr rfl
    · exact .inl rfl
  · exact .inl rfl

/-- A load leaves a file what it held, or empties it, or puts the standard configuration there. -/
theorem fileAfter_cases (hwhole : fs.WritesWhole file standardBytes) (bytes : ByteArray)
    (readOnly : Bool) :
    fileAfter fs file bytes readOnly = bytes ∨
      fileAfter fs file bytes readOnly = ByteArray.empty ∨
      fileAfter fs file bytes readOnly = standardBytes := by
  have haside := asideBytes_cases fs file bytes readOnly
  unfold fileAfter
  split
  · exact .inl rfl
  · dsimp only
    split
    · exact haside.imp_right .inl
    · unfold FileSystem.outcome
      split
      · exact haside.imp_right .inl
      · next hextent => exact .inr (hwhole _ hextent)

/-! ## What is left is left again -/

/-- What cannot be replaced stays. -/
theorem fileAfter_of_blocked (haside : asideBytes fs file bytes readOnly = bytes)
    (h : (readOnly || directoryFails fs file) = true ∨ fs.extent (.write file) = none) :
    fileAfter fs file bytes readOnly = bytes := by
  unfold fileAfter
  split
  · rfl
  · dsimp only
    rw [haside]
    split
    · rfl
    · next hfree => rw [FileSystem.outcome, h.resolve_left hfree]

/-- What has been set aside is not set aside again. -/
theorem asideBytes_asideBytes (fs : FileSystem) (file : String) (bytes : ByteArray)
    (readOnly : Bool) :
    asideBytes fs file (asideBytes fs file bytes readOnly) readOnly =
      asideBytes fs file bytes readOnly := by
  obtain hsame | hempty := asideBytes_cases fs file bytes readOnly
  · rw [hsame, hsame]
  · rw [hempty]
    exact asideBytes_of_ne (taken_ne_broken fs file (.inl rfl))

/-- What has been written stays, or is written once more. -/
theorem fileAfter_cut (hwhole : fs.WritesWhole file standardBytes) {count : Option Nat}
    (hextent : fs.extent (.write file) = some count) (readOnly : Bool) :
    fileAfter fs file (FileTree.cut standardBytes count) readOnly =
      FileTree.cut standardBytes count := by
  have hne := taken_ne_broken fs file (hwhole count hextent)
  by_cases hblocked : (readOnly || directoryFails fs file) = true
  · exact fileAfter_of_blocked (asideBytes_of_ne hne) (.inl hblocked)
  · unfold fileAfter
    split
    · rfl
    · dsimp only
      rw [if_neg hblocked, FileSystem.outcome, hextent]

/-- A load leaves a file as another one leaves it. -/
theorem fileAfter_fileAfter (hwhole : fs.WritesWhole file standardBytes) (bytes : ByteArray)
    (readOnly : Bool) :
    fileAfter fs file (fileAfter fs file bytes readOnly) readOnly =
      fileAfter fs file bytes readOnly := by
  have haside := asideBytes_asideBytes fs file bytes readOnly
  cases htaken : taken fs file bytes with
  | config c =>
      have hsame : fileAfter fs file bytes readOnly = bytes := by rw [fileAfter, htaken]
      rw [hsame, hsame]
  | unreadable | blank | broken =>
      have hafter : fileAfter fs file bytes readOnly = _ := fileAfter_of_ne (by simp [htaken])
      by_cases hblocked : (readOnly || directoryFails fs file) = true
      · rw [hafter, if_pos hblocked]
        exact fileAfter_of_blocked haside (.inl hblocked)
      · rw [hafter, if_neg hblocked, FileSystem.outcome]
        cases hextent : fs.extent (.write file) with
        | none => exact fileAfter_of_blocked haside (.inr hextent)
        | some count => exact fileAfter_cut hwhole hextent readOnly

/-- A load leaves a file no text that has to be set aside, unless it left the file alone. -/
theorem eq_of_taken_fileAfter (hwhole : fs.WritesWhole file standardBytes)
    (h : taken fs file (fileAfter fs file bytes readOnly) = .broken) :
    fileAfter fs file bytes readOnly = bytes :=
  (fileAfter_cases hwhole bytes readOnly).resolve_right fun hwritten =>
    taken_ne_broken fs file hwritten h

/-- A copy of a file is made in the same way once more, or is protected like the file. -/
theorem backupAfter_backupAfter (hwhole : fs.WritesWhole file standardBytes) (bytes : ByteArray)
    (readOnly : Bool) (old : Option Entry) :
    backupAfter fs file (fileAfter fs file bytes readOnly) readOnly
        (backupAfter fs file bytes readOnly old) =
      backupAfter fs file bytes readOnly old := by
  by_cases hbroken : taken fs file (fileAfter fs file bytes readOnly) = .broken
  · have hsame := eq_of_taken_fileAfter hwhole hbroken
    rw [hsame] at hbroken ⊢
    by_cases hprotected : ∃ kept, old = some (.file kept true)
    · obtain ⟨kept, rfl⟩ := hprotected
      rw [backupAfter_of_protected, backupAfter_of_protected]
    · have hfree : backupAfter fs file bytes readOnly old = _ :=
        backupAfter_of_free hbroken (not_exists.1 hprotected)
      rw [hfree, FileSystem.outcome]
      cases hextent : fs.extent (.copy file (backupPath file)) with
      | none => rw [hfree, FileSystem.outcome, hextent]
      | some count =>
          cases readOnly with
          | true => rw [backupAfter_of_protected]
          | false =>
              rw [backupAfter_of_free hbroken (by simp), FileSystem.outcome, hextent]
  · exact backupAfter_of_ne hbroken _

/-! ## What is left to load again -/

/-- Loading gives the standard configuration and changes no file. -/
def Settled (fs : FileSystem) (file : String) : Prop :=
  (load fs (some file)).2 = .ok standard ∧ (load fs (some file)).1.tree.Agrees fs.tree

/-- A file is settled when it and its backup are left as they are. -/
theorem settled_of_file (hfind : fs.fault? (.find file) = none)
    (hresolve : fs.tree.resolve file = .ok p)
    (hget : fs.tree.get? p = some (.file bytes readOnly))
    (hconfig : ∀ c, taken fs file bytes = .config c → c.validate = standard)
    (hheld : fileAfter fs file bytes readOnly = bytes)
    (hbackup : ∀ q, fs.tree.resolve (backupPath file) = .ok q → q ≠ p →
      fs.tree.get? q ≠ some .directory →
        backupAfter fs file bytes readOnly (fs.tree.get? q) = fs.tree.get? q) :
    Settled fs file := by
  have hloaded := isLoaded_load hfind hresolve hget
  refine ⟨?_, hloaded.ways.links, fun place => ?_⟩
  · rw [load_of_file hfind (FileTree.stat_eq_ok_iff.2 ⟨p, hresolve, hget⟩)]
    cases htaken : taken fs file bytes with
    | config c => exact congrArg Except.ok (hconfig c htaken)
    | unreadable | blank | broken => rfl
  · by_cases hp : place = p
    · rw [hp, hloaded.held, hheld, hget]
    by_cases hq : fs.tree.resolve (backupPath file) = .ok place
    · by_cases hdirectory : fs.tree.get? place = some .directory
      · rw [hloaded.ways.directories place hdirectory, hdirectory]
      · rw [hloaded.backup place hq hp hdirectory, hbackup place hq hp hdirectory]
    · exact hloaded.elsewhere place hp hq

/-- A file is settled when the standard configuration has been written, or when it was emptied. -/
theorem settled_of_cut (hwhole : fs.WritesWhole file standardBytes) {count : Option Nat}
    (hextent : fs.extent (.write file) = some count) (hfind : fs.fault? (.find file) = none)
    (hresolve : fs.tree.resolve file = .ok p)
    (hget : fs.tree.get? p = some (.file (FileTree.cut standardBytes count) readOnly)) :
    Settled fs file := by
  have hcut := hwhole count hextent
  refine settled_of_file hfind hresolve hget (fun c hc => ?_)
    (fileAfter_cut hwhole hextent readOnly)
    fun q _ _ _ => backupAfter_of_ne (taken_ne_broken fs file hcut) _
  obtain rfl := eq_standard_of_taken hcut hc
  exact validate_standard

section

variable (hfault : ∀ call, fs'.fault? call = fs.fault? call)

include hfault

theorem taken_congr (file : String) (bytes : ByteArray) :
    taken fs' file bytes = taken fs file bytes := by
  simp only [taken, hfault]

/-- What becomes of a file depends on the calls that fail, and on the file being its own backup. -/
theorem fileAfter_congr (hown : isOwnBackup fs'.tree file = isOwnBackup fs.tree file)
    (bytes : ByteArray) (readOnly : Bool) :
    fileAfter fs' file bytes readOnly = fileAfter fs file bytes readOnly := by
  have haside : asideBytes fs' file bytes readOnly = asideBytes fs file bytes readOnly := by
    rw [asideBytes, asideBytes, taken_congr hfault, FileSystem.outcome_congr hfault, hown]
  have hfails : directoryFails fs' file = directoryFails fs file := by
    rw [directoryFails, directoryFails, hfault]
  simp only [fileAfter, taken_congr hfault, haside, hfails,
    FileSystem.outcome_congr hfault]

theorem backupAfter_congr (file : String) (bytes : ByteArray) (readOnly : Bool)
    (old : Option Entry) :
    backupAfter fs' file bytes readOnly old = backupAfter fs file bytes readOnly old := by
  simp only [backupAfter, taken_congr hfault, FileSystem.outcome_congr hfault]

end

/-- A load settles a file that is not taken for a configuration. -/
theorem settled_load_of_file (hsteady : fs.Steady) (hwhole : fs.WritesWhole file standardBytes)
    (hfind : fs.fault? (.find file) = none) (hresolve : fs.tree.resolve file = .ok p)
    (hget : fs.tree.get? p = some (.file bytes readOnly))
    (hnone : ∀ c, taken fs file bytes ≠ .config c) : Settled (load fs (some file)).1 file := by
  have hfault := hsteady.fault?_eq (faults_load fs (some file))
  have hloaded := isLoaded_load hfind hresolve hget
  have hpath := FileTree.wantsDirectory_eq_false hresolve hget
  have hwants := DocumentFile.wantsDirectory_backupPath hresolve hget
  generalize (load fs (some file)).1 = after at hfault hloaded
  have hstill := hloaded.ways.resolve hpath hresolve
  have hown : isOwnBackup after.tree file = isOwnBackup fs.tree file := by
    rw [Bool.eq_iff_iff, isOwnBackup_iff hstill, isOwnBackup_iff hresolve]
    exact ⟨hloaded.ways_back.resolve hwants, hloaded.ways.resolve hwants⟩
  refine settled_of_file (hfault _ ▸ hfind) hstill hloaded.held (fun c hc => ?_) ?_
    fun q hq hne hdirectory => ?_
  · rw [taken_congr hfault] at hc
    obtain hsame | hwritten := fileAfter_cases hwhole bytes readOnly
    · exact absurd (hsame ▸ hc) (hnone c)
    · obtain rfl := eq_standard_of_taken hwritten hc
      exact validate_standard
  · rw [fileAfter_congr hfault hown, fileAfter_fileAfter hwhole]
  · have hbefore := hloaded.ways_back.resolve hwants hq
    have hold : fs.tree.get? q ≠ some .directory :=
      fun hold => hdirectory (hloaded.ways.directories q hold)
    rw [hloaded.backup q hbefore hne hold, backupAfter_congr hfault, backupAfter_backupAfter hwhole]

/-- The standard configuration cannot take the place of a directory. -/
theorem tree_restore_of_directory (hstat : fs.tree.stat file = .ok .directory) :
    (restore fs (some file)).1.tree = fs.tree := by
  have hnever (q : Place) : ¬fs.tree.Takes file q := fun hq => by
    obtain ⟨p, hresolve, hget⟩ := FileTree.stat_eq_ok_iff.1 hstat
    obtain rfl : p = q := hq.eq_of_resolve hresolve
    exact hq.writable.ne_directory hget
  obtain ⟨-, hmade⟩ | ⟨-, cause, hmade⟩ := makeDirectories_of_stat hstat
  · rw [restore_of_made hmade]
    exact FileSystem.tree_write_of_blocked (.inl hnever) _
  · rw [restore_of_not_made hmade]

theorem settled_restore_of_directory (hsteady : fs.Steady)
    (hfind : fs.fault? (.find file) = none) (hstat : fs.tree.stat file = .ok .directory) :
    Settled (restore fs (some file)).1 file := by
  have hfault := hsteady.fault?_eq (faults_restore fs (some file))
  have htree := tree_restore_of_directory hstat
  generalize (restore fs (some file)).1 = after at hfault htree
  have hstill : after.tree.stat file = .ok .directory := htree ▸ hstat
  rw [Settled, load_of_directory ((hfault _).trans hfind) hstill, tree_restore_of_directory hstill]
  exact ⟨rfl, .refl _⟩

/-- After the directories for a path that leads to nothing have been made, as far as they can be, it
still leads to nothing, and there is no more to be made. -/
theorem makeDirectories_again (htree : fs.tree.WellFormed) (hdown : fs.tree.GoesDown file)
    (hstat : fs.tree.stat file = .error .notFound) :
    let made := fs.makeDirectories (directoryOf file)
    made.1.tree.stat file = .error .notFound ∧
      ∀ fs' : FileSystem, fs'.tree = made.1.tree → (∀ call, fs'.fault? call = fs.fault? call) →
        fs'.makeDirectories (directoryOf file) = (fs', made.2) := by
  obtain ⟨count, answer, hmade⟩ := FileSystem.exists_makeDirectories_eq fs (directoryOf file)
  obtain ⟨hstill, hsame⟩ := htree.stat_of_makeDirectories hdown hstat count
  have hnames : Path.parentNames file = Path.names (directoryOf file) := rfl
  rw [hnames] at hstill hsame
  rw [hmade fs fun _ => rfl]
  refine ⟨hstill, fun fs' htree' hfault => ?_⟩
  replace htree' : fs'.tree = (fs.tree.makeDirectories _).1 := htree'
  rw [hmade fs' hfault, htree', hsame, FileSystem.setTree_of_eq htree']

/-- Where there is nothing, nothing changes when neither directories nor the file are made. -/
theorem settled_of_missing (hfind : fs.fault? (.find file) = none)
    (hstat : fs.tree.stat file = .error .notFound) {answer : Except OsError Unit}
    (hmade : fs.makeDirectories (directoryOf file) = (fs, answer))
    (hwrite : answer = .ok () → (fs.write file standardBytes).1.tree = fs.tree) :
    Settled fs file := by
  rw [Settled, load_of_missing hfind hstat]
  cases answer with
  | error cause =>
      rw [restore_of_not_made hmade]
      exact ⟨rfl, .refl _⟩
  | ok =>
      rw [restore_of_made hmade]
      refine ⟨rfl, ?_⟩
      rw [hwrite rfl]
      exact .refl _

/-- Where there is nothing, either the directories for the path or the file cannot be made, and then
they cannot be made again, or the file is there now. -/
theorem settled_restore_of_missing (hsteady : fs.Steady)
    (hwhole : fs.WritesWhole file standardBytes) (htree : fs.tree.WellFormed)
    (hdown : fs.tree.GoesDown file) (hfind : fs.fault? (.find file) = none)
    (hstat : fs.tree.stat file = .error .notFound) :
    Settled (restore fs (some file)).1 file := by
  obtain ⟨hstill, hagain⟩ := makeDirectories_again htree hdown hstat
  have hfault := hsteady.fault?_eq (faults_restore fs (some file))
  have hfind' := (hfault _).trans hfind
  cases hmade : fs.makeDirectories (directoryOf file) with | mk made answer => ?_
  rw [hmade] at hstill hagain
  cases answer with
  | error cause =>
      rw [restore_of_not_made hmade] at hfault hfind' ⊢
      exact settled_of_missing hfind' hstill (hagain made rfl hfault) fun hok => by cases hok
  | ok =>
      rw [restore_of_made hmade] at hfault hfind' ⊢
      have hextent : made.extent (.write file) = fs.extent (.write file) := by
        have hfaults := FileSystem.faults_makeDirectories fs (directoryOf file)
        rw [hmade] at hfaults
        exact FileSystem.extent_congr (hsteady.fault?_eq hfaults) _
      by_cases hblocked : (∀ p, ¬made.tree.Takes file p) ∨ fs.extent (.write file) = none
      · have htree' : (made.write file standardBytes).1.tree = made.tree :=
          FileSystem.tree_write_of_blocked (hextent ▸ hblocked) _
        generalize (made.write file standardBytes).1 = written at hfault hfind' htree'
        have hstill' := htree' ▸ hstill
        refine settled_of_missing hfind' hstill' (hagain written htree' hfault) fun _ => ?_
        rw [FileSystem.tree_write_of_blocked]
        rwa [htree', FileSystem.extent_congr hfault]
      · obtain ⟨htakes, hcarried⟩ := not_or.1 hblocked
        obtain ⟨p, hp⟩ := not_forall_not.1 htakes
        obtain ⟨count, hcount⟩ := Option.ne_none_iff_exists'.1 hcarried
        have htree' := FileSystem.tree_write_of_extent hp (hextent ▸ hcount) standardBytes
        generalize (made.write file standardBytes).1 = written at hfault hfind' htree'
        have hthere := hp.put (FileTree.cut standardBytes count)
        rw [← htree'] at hthere
        have hget : written.tree.get? p =
            some (.file (FileTree.cut standardBytes count) false) := by
          rw [htree', FileTree.get?_put_same _ _ hp.writable.ne_top]
        refine settled_of_cut ?_ ?_ hfind' hthere.resolve hget
        · exact fun k hk => hwhole k (FileSystem.extent_congr hfault _ ▸ hk)
        · exact (FileSystem.extent_congr hfault _).trans hcount

/-- A configuration that was loaded can be used. Loading it again right away gives the same one and
changes no file, if the calls that fail go on failing in the same way, a write that breaks off
leaves none of the new bytes or all of them, and the path, where it leads to nothing, does not step
back out of a directory that is missing. In the tree everything stands in a directory. -/
theorem load_stable (hload : load fs path = (after, .ok c)) :
    Valid c ∧
      (fs.Steady → fs.tree.WellFormed →
        (∀ file, path = some file →
          (fs.tree.stat file = .error .notFound → fs.tree.GoesDown file) ∧
            fs.WritesWhole file standardBytes) →
          (load after path).2 = .ok c ∧ (load after path).1.tree.Agrees after.tree) := by
  have hloaded : (load fs path).2 = .ok c := congrArg Prod.snd hload
  refine ⟨valid_of_load hloaded, fun hsteady htree hpath => ?_⟩
  cases path with
  | none =>
      cases hload
      exact ⟨rfl, .refl _⟩
  | some file =>
      obtain ⟨hdown, hwhole⟩ := hpath file rfl
      -- A load changes nothing, or it settles everything and gives the standard configuration.
      have hsettled (h : Settled (load fs (some file)).1 file)
          (hstandard : (load fs (some file)).2 = .ok standard) :
          (load after (some file)).2 = .ok c ∧
            (load after (some file)).1.tree.Agrees after.tree := by
        rw [hload] at h hstandard
        cases hstandard
        exact h
      obtain ⟨hfind, hstat | ⟨e, hstat⟩⟩ := found_of_load hloaded
      · have heq := load_of_missing hfind hstat
        have hrestored :=
          settled_restore_of_missing hsteady hwhole htree (hdown hstat) hfind hstat
        exact hsettled (heq ▸ hrestored) (heq ▸ rfl)
      cases e with
      | directory =>
          have heq := load_of_directory hfind hstat
          exact hsettled (heq ▸ settled_restore_of_directory hsteady hfind hstat) (heq ▸ rfl)
      | file bytes readOnly =>
          have heq := load_of_file hfind hstat
          obtain ⟨p, hresolve, hget⟩ := FileTree.stat_eq_ok_iff.1 hstat
          have hleft (hnone : ∀ c, taken fs file bytes ≠ .config c) :=
            settled_load_of_file hsteady hwhole hfind hresolve hget hnone
          cases htaken : taken fs file bytes with
          | config c' =>
              rw [htaken] at heq
              obtain rfl : after = fs := congrArg Prod.fst (hload.symm.trans heq)
              rw [hload]
              exact ⟨rfl, .refl _⟩
          | unreadable | blank | broken =>
              rw [htaken] at heq
              exact hsettled (hleft (by simp [htaken])) (heq ▸ rfl)

/-- A text that is no configuration, on a full disk. The first load sets it aside and empties the
file, and the second one finds the file empty. -/
theorem load_stable_of_broken :
    let fs := FileSystem.failing
      ⟨[(["conf"], .directory), (["conf", "config.json"], .file "[72".toUTF8 false)], []⟩
      [(.write "conf/config.json", ⟨.storageFull, some 0⟩)]
    let after := (load fs (some "conf/config.json")).1
    (load fs (some "conf/config.json") = (after, .ok standard) ∧ fs.Steady ∧ fs.tree.WellFormed ∧
        fs.tree.GoesDown "conf/config.json" ∧
        fs.WritesWhole "conf/config.json" standardBytes) ∧
      Valid standard ∧ (load after (some "conf/config.json")).2 = .ok standard ∧
        (load after (some "conf/config.json")).1.tree.Agrees after.tree := by
  intro fs after
  have hload : load fs (some "conf/config.json") = (after, .ok standard) := rfl
  have hsteady : fs.Steady := fun _ _ => rfl
  have htree : fs.tree.WellFormed := by
    refine FileTree.wellFormed_of_mem (fun entry hentry => ?_) (List.forall_mem_nil _)
    obtain rfl | rfl : entry = _ ∨ entry = _ := by simpa [fs, FileSystem.failing] using hentry
    · rfl
    · rfl
  have hdown : fs.tree.GoesDown "conf/config.json" :=
    ⟨[], ["conf", "config.json"], FileTree.maxLinks, [], rfl, rfl, rfl, by decide⟩
  have hwhole : fs.WritesWhole "conf/config.json" standardBytes := fun count hcount => by
    have hextent : fs.extent (.write "conf/config.json") = some (some 0) := rfl
    obtain rfl : some 0 = count := Option.some.inj (hextent.symm.trans hcount)
    exact .inl (by simp [FileTree.cut])
  obtain ⟨hvalid, hagain⟩ := load_stable hload
  refine ⟨⟨hload, hsteady, htree, hdown, hwhole⟩, hvalid, hagain hsteady htree fun file hfile => ?_⟩
  obtain rfl : "conf/config.json" = file := Option.some.inj hfile
  exact ⟨fun _ => hdown, hwhole⟩

/-- The bytes of the first letter of a text are cut off it. -/
theorem cut_toUTF8_cons (c : Char) (t : Text) :
    FileTree.cut (String.ofList (c :: t)).toUTF8 (some (String.ofList [c]).toUTF8.size) =
      (String.ofList [c]).toUTF8 := by
  have hcons : String.ofList (c :: t) = String.ofList [c] ++ String.ofList t := by simp
  rw [hcons, FileTree.cut, String.toUTF8_eq_toByteArray, String.toByteArray_append]
  exact ByteArray.extract_append_eq_left rfl

/-- The directory that the path steps back out of is missing, so nothing is found. The load makes
it, and then the path leads to a file that was there all along, with another configuration. And when
the disk is full after one byte, the second load finds a text that is no configuration, and copies
it. -/
theorem second_load_differs :
    (let fs := FileSystem.sound
      ⟨[(["config.json"],
        .file "\x7b\"default_template\":\"centered\"\x7d".toUTF8 true)], []⟩
    let after := (load fs (some "build/../config.json")).1
    let centered := { standard with defaultTemplate := "centered" }
    fs.Steady ∧ fs.tree.WellFormed ∧ (load fs (some "build/../config.json")).2 = .ok standard ∧
      (load after (some "build/../config.json")).2 = .ok centered ∧ centered ≠ standard) ∧
    (let fs := FileSystem.failing ⟨[], []⟩ [(.write "config.json", ⟨.storageFull, some 1⟩)]
    let after := (load fs (some "config.json")).1
    fs.Steady ∧ fs.tree.WellFormed ∧ fs.tree.GoesDown "config.json" ∧
      (load fs (some "config.json")).2 = .ok standard ∧
      after.tree.stat "config.bak" = .error .notFound ∧
      ∃ bytes, (load after (some "config.json")).1.tree.stat "config.bak" =
        .ok (.file bytes false)) := by
  constructor
  · intro fs after centered
    have htree : fs.tree.WellFormed := by
      refine FileTree.wellFormed_of_mem (fun entry hentry => ?_) (List.forall_mem_nil _)
      obtain rfl : entry = _ := by simpa [fs, FileSystem.sound] using hentry
      rfl
    exact ⟨fun _ _ => rfl, htree, rfl, rfl, by decide⟩
  · intro fs after
    have htree : fs.tree.WellFormed :=
      FileTree.wellFormed_of_mem (List.forall_mem_nil _) (List.forall_mem_nil _)
    have hdown : fs.tree.GoesDown "config.json" :=
      ⟨[], ["config.json"], FileTree.maxLinks, [], rfl, rfl, rfl, by decide⟩
    have hload : load fs (some "config.json") = restore fs (some "config.json") :=
      load_of_missing rfl rfl
    have htree' : after.tree =
        fs.tree.put ["config.json"] (.file (FileTree.cut standardBytes (some 1)) false) :=
      congrArg (fun result => FileSystem.tree result.1) hload
    have hstat : after.tree.stat "config.json" =
        .ok (.file (FileTree.cut standardBytes (some 1)) false) := by
      rw [htree']
      rfl
    have hmissing : after.tree.stat "config.bak" = .error .notFound := by
      rw [htree']
      rfl
    have hcut : FileTree.cut standardBytes (some 1) = ⟨#[0x7b]⟩ := by
      have hhead : standard.validate.encode.head? = some '\x7b' := by decide +kernel
      obtain ⟨t, ht⟩ := List.head?_eq_some_iff.1 hhead
      rw [standardBytes, ht]
      exact cut_toUTF8_cons '\x7b' t
    have htaken : taken after "config.json" ⟨#[0x7b]⟩ = .broken := rfl
    have hsteady : fs.Steady := fun _ _ => rfl
    have hfirst : (load fs (some "config.json")).2 = .ok standard := congrArg Prod.snd hload
    refine ⟨hsteady, htree, hdown, hfirst, hmissing, ?_⟩
    rw [load_of_file rfl hstat, hcut, htaken]
    exact ⟨_, rfl⟩

end Config

end MarkedVerse
