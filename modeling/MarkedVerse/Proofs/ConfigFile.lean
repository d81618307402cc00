import MarkedVerse.Config.Storage
import MarkedVerse.Proofs.Directories
import MarkedVerse.Proofs.PreviousVersion

/-!
# The file of the configuration

Loading reads the file, and puts the standard configuration in its place when it holds none
(`load_of_file`). What a file held is kept beside it only when it is a text that is no
configuration, so bytes that are no text are lost; `load_keeps_file_iff` tells exactly when they are
kept.
-/

namespace MarkedVerse

namespace Config

variable {fs : FileSystem} {file : String} {bytes : ByteArray} {readOnly : Bool} {p q : Place}
  {e : Entry}

/-! ## What a file holds -/

/-- What the bytes of a file are taken for. -/
inductive Contents where
  /-- No text. -/
  | unreadable
  /-- Only white space. -/
  | blank
  /-- A text that is no configuration. -/
  | broken
  | config (c : Config)

/-- What loading takes the bytes of a file for. -/
def contents (bytes : ByteArray) : Contents :=
  match String.fromUTF8? bytes with
  | none => .unreadable
  | some s =>
    if (Text.trim s.toList).isEmpty then .blank
    else match decode s.toList with
      | .ok c => .config c
      | .error _ => .broken

/-- The bytes that are written for the standard configuration. -/
def standardBytes : ByteArray :=
  (String.ofList standard.validate.encode).toUTF8

/-- The text of the standard configuration is read back. -/
theorem decode_standard : (decode standard.validate.encode).toOption = some standard := by
  decide +kernel

/-- The bytes of a string are those of a text. -/
theorem fromUTF8?_toUTF8 (s : String) : String.fromUTF8? s.toUTF8 = some s :=
  dif_pos s.isValidUTF8

/-- What is written for the standard configuration is taken for it. -/
theorem contents_standardBytes : contents standardBytes = .config standard := by
  have hblank : (Text.trim standard.validate.encode).isEmpty = false := by decide +kernel
  rw [contents, standardBytes, fromUTF8?_toUTF8]
  simp only [String.toList_ofList, hblank, Bool.false_eq_true, if_false]
  have hdecode := decode_standard
  cases hresult : decode standard.validate.encode with
  | error fault =>
      rw [hresult] at hdecode
      cases hdecode
  | ok c =>
      rw [hresult] at hdecode
      rw [Option.some.inj hdecode]

/-- Bytes that are no configuration are not those that are written for the standard one. -/
theorem standardBytes_ne (h : ∀ c, contents bytes ≠ .config c) : standardBytes ≠ bytes :=
  fun hbytes => h standard (hbytes ▸ contents_standardBytes)

/-! ## What loading does -/

/-- What a load takes a file for that holds these bytes. -/
def taken (fs : FileSystem) (file : String) (bytes : ByteArray) : Contents :=
  match fs.fault? (.read file) with
  | none => contents bytes
  | some _ => .unreadable

/-- The directory of a file cannot be made sure of. -/
def directoryFails (fs : FileSystem) (file : String) : Bool :=
  !(directoryOf file).isEmpty && (fs.fault? (.makeDirectories (directoryOf file))).isSome

/-- The directory of a file that is there does not have to be made, but asking for it may fail. -/
theorem makeDirectories_of_stat (h : fs.tree.stat file = .ok e) :
    (directoryFails fs file = false ∧ fs.makeDirectories (directoryOf file) = (fs, .ok ())) ∨
      directoryFails fs file = true ∧
        ∃ cause, fs.makeDirectories (directoryOf file) = (fs, .error cause) := by
  have hself (count : Nat) : fs.tree.makeDirectories ((Path.names (directoryOf file)).take count) =
      (fs.tree, .ok ()) := FileTree.makeDirectories_eq_self h count
  unfold directoryFails FileSystem.makeDirectories
  cases hempty : (directoryOf file).isEmpty with
  | true => exact .inl ⟨rfl, rfl⟩
  | false =>
      cases hfault : fs.fault? (.makeDirectories (directoryOf file)) with
      | none =>
          have hall := hself (Path.names (directoryOf file)).length
          rw [List.take_length] at hall
          exact .inl ⟨rfl, by simp [hall, FileSystem.setTree]⟩
      | some fault => exact .inr ⟨rfl, fault.cause, by simp [hself, FileSystem.setTree]⟩

/-- In the directory that has been made for it, the standard configuration is written. -/
theorem restore_of_made {made : FileSystem}
    (h : fs.makeDirectories (directoryOf file) = (made, .ok ())) :
    restore fs (some file) = ((made.write file standardBytes).1, .ok standard) := by
  simp only [restore, save, h, standardBytes]

theorem restore_of_not_made {made : FileSystem} {cause : OsError}
    (h : fs.makeDirectories (directoryOf file) = (made, .error cause)) :
    restore fs (some file) = (made, .ok standard) := by
  simp only [restore, save, h]

/-- The standard configuration takes the place of a file as far as it is written, unless the file is
protected. -/
theorem restore_of_file (hresolve : fs.tree.resolve file = .ok p)
    (hget : fs.tree.get? p = some (.file bytes readOnly)) :
    (restore fs (some file)).1.tree =
      if readOnly || directoryFails fs file then fs.tree
      else fs.outcome (.write file) fs.tree fun count =>
        fs.tree.put p (.file (FileTree.cut standardBytes count) false) := by
  obtain ⟨hfails, hmade⟩ | ⟨hfails, cause, hmade⟩ :=
    makeDirectories_of_stat (FileTree.stat_eq_ok_iff.2 ⟨p, hresolve, hget⟩)
  · rw [restore_of_made hmade, hfails, Bool.or_false]
    cases readOnly with
    | true =>
        have hnever (q : Place) : ¬fs.tree.Takes file q := fun hq => by
          obtain rfl : p = q := hq.eq_of_resolve hresolve
          cases hq.writable.readOnly_eq_false hget
        obtain ⟨cause, hwrite⟩ := FileSystem.write_of_not_takes hnever standardBytes
        rw [hwrite]
        rfl
    | false =>
        have htakes : fs.tree.Takes file p :=
          ⟨hresolve, .inr ⟨bytes, hget⟩, FileTree.wantsDirectory_eq_false hresolve hget⟩
        rw [FileSystem.write_of_takes htakes]
        rfl
  · rw [restore_of_not_made hmade, hfails, Bool.or_true]
    rfl

/-- Nothing is loaded when nothing can be learned about the path. -/
theorem load_of_fault {fault : CallFault} (h : fs.fault? (.find file) = some fault) :
    load fs (some file) = (fs, .error (.unreachable fault.cause)) := by
  have hhonest := fs.honest _ _ _ h
  rw [load, FileSystem.look, h]
  split
  · next heq => exact absurd (Except.error.inj heq) hhonest
  · next heq => rw [← Except.error.inj heq]
  · next heq => cases heq

/-- What loading does with a file, by what it is taken for. -/
theorem load_of_file (hfind : fs.fault? (.find file) = none)
    (h : fs.tree.stat file = .ok (.file bytes readOnly)) :
    load fs (some file) =
      match taken fs file bytes with
      | .config c => (fs, .ok c.validate)
      | .broken => restore (fs.copy file (backupPath file)).1 (some file)
      | _ => restore fs (some file) := by
  have hread : fs.tree.read file = .ok bytes := FileTree.read_eq_ok_iff.2 ⟨readOnly, h⟩
  rw [load, FileSystem.look_eq_ok_iff.2 ⟨hfind, h⟩, FileSystem.read, taken]
  dsimp only
  cases fs.fault? (.read file) with
  | some fault => rfl
  | none =>
      dsimp only
      rw [hread, contents]
      dsimp only
      cases String.fromUTF8? bytes with
      | none => rfl
      | some s =>
          dsimp only
          split
          · rfl
          · cases decode s.toList <;> rfl

/-! ## What loading leaves -/

/-- The backup of a file is the file itself. -/
def isOwnBackup (t : FileTree) (file : String) : Bool :=
  (t.resolve file).toOption == (t.resolve (backupPath file)).toOption

/-- The bytes of a file after a load has set it aside. A file that is its own backup is emptied. -/
def asideBytes (fs : FileSystem) (file : String) (bytes : ByteArray) (readOnly : Bool) :
    ByteArray :=
  match taken fs file bytes with
  | .broken =>
    if isOwnBackup fs.tree file && !readOnly then
      fs.outcome (.copy file (backupPath file)) bytes fun _ => ByteArray.empty
    else bytes
  | _ => bytes

/-- The bytes of a file after a load: those that it held when it was taken for a configuration, and
otherwise the standard configuration, as far as it is written. -/
def fileAfter (fs : FileSystem) (file : String) (bytes : ByteArray) (readOnly : Bool) : ByteArray :=
  match taken fs file bytes with
  | .config _ => bytes
  | _ =>
    let left := asideBytes fs file bytes readOnly
    if readOnly || directoryFails fs file then left
    else fs.outcome (.write file) left (FileTree.cut standardBytes)

/-- What stands at the place of the backup after a load: a text that is no configuration, as far as
it is copied, and otherwise what stood there before. -/
def backupAfter (fs : FileSystem) (file : String) (bytes : ByteArray) (readOnly : Bool)
    (old : Option Entry) : Option Entry :=
  match taken fs file bytes with
  | .broken =>
    match old with
    | some (.file _ true) => old
    | _ =>
      fs.outcome (.copy file (backupPath file)) old fun count =>
        some (.file (FileTree.cut bytes count) readOnly)
  | _ => old

theorem asideBytes_of_ne (h : taken fs file bytes ≠ .broken) :
    asideBytes fs file bytes readOnly = bytes := by
  unfold asideBytes
  split
  · next hbroken => exact absurd hbroken h
  · rfl

theorem backupAfter_of_ne (h : taken fs file bytes ≠ .broken) (old : Option Entry) :
    backupAfter fs file bytes readOnly old = old := by
  unfold backupAfter
  split
  · next hbroken => exact absurd hbroken h
  · rfl

theorem asideBytes_of_broken (h : taken fs file bytes = .broken) :
    asideBytes fs file bytes readOnly =
      if isOwnBackup fs.tree file && !readOnly then
        fs.outcome (.copy file (backupPath file)) bytes fun _ => ByteArray.empty
      else bytes := by
  rw [asideBytes, h]

/-- Unless a file was taken for a configuration, the standard one takes its place. -/
theorem fileAfter_of_ne (h : ∀ c, taken fs file bytes ≠ .config c) :
    fileAfter fs file bytes readOnly =
      if readOnly || directoryFails fs file then asideBytes fs file bytes readOnly
      else fs.outcome (.write file) (asideBytes fs file bytes readOnly)
        (FileTree.cut standardBytes) := by
  unfold fileAfter
  split
  · next c hc => exact absurd hc (h c)
  · rfl

/-- A backup that is protected stays. -/
theorem backupAfter_of_protected (fs : FileSystem) (file : String) (bytes : ByteArray)
    (readOnly : Bool) (old : ByteArray) :
    backupAfter fs file bytes readOnly (some (.file old true)) = some (.file old true) := by
  unfold backupAfter
  split <;> rfl

/-- A text that is no configuration is copied as far as it is, unless the backup is protected. -/
theorem backupAfter_of_free (h : taken fs file bytes = .broken) {old : Option Entry}
    (hfree : ∀ kept, old ≠ some (.file kept true)) :
    backupAfter fs file bytes readOnly old =
      fs.outcome (.copy file (backupPath file)) old fun count =>
        some (.file (FileTree.cut bytes count) readOnly) := by
  unfold backupAfter
  rw [h]
  dsimp only
  split
  · next kept => exact absurd rfl (hfree kept)
  · rfl

/-- What a load has done to the file at `p` and to its backup before it puts the standard
configuration in the place of the file. -/
structure IsSetAside (fs : FileSystem) (aside : FileTree) (file : String) (bytes : ByteArray)
    (readOnly : Bool) (p : Place) : Prop where
  ways : fs.tree.KeepsWays aside
  ways_back : aside.KeepsWays fs.tree
  held : aside.get? p = some (.file (asideBytes fs file bytes readOnly) readOnly)
  backup : ∀ q, fs.tree.resolve (backupPath file) = .ok q → q ≠ p →
    fs.tree.get? q ≠ some .directory →
      aside.get? q = backupAfter fs file bytes readOnly (fs.tree.get? q)
  elsewhere : ∀ place, place ≠ p → fs.tree.resolve (backupPath file) ≠ .ok place →
    aside.get? place = fs.tree.get? place

/-- What is taken for no text, or for white space, is not set aside. -/
theorem isSetAside_self (hget : fs.tree.get? p = some (.file bytes readOnly))
    (htaken : taken fs file bytes ≠ .broken) :
    IsSetAside fs fs.tree file bytes readOnly p where
  ways := .refl _
  ways_back := .refl _
  held := by rw [hget, asideBytes_of_ne htaken]
  backup q _ _ _ := (backupAfter_of_ne htaken _).symm
  elsewhere _ _ _ := rfl

theorem isOwnBackup_iff (hresolve : fs.tree.resolve file = .ok p) :
    isOwnBackup fs.tree file = true ↔ fs.tree.resolve (backupPath file) = .ok p := by
  rw [isOwnBackup, hresolve]
  cases fs.tree.resolve (backupPath file) with
  | error cause => simp [Except.toOption]
  | ok q =>
      simp only [Except.toOption, beq_iff_eq, Option.some.injEq, Except.ok.injEq]
      exact eq_comm

/-- A text that is no configuration is copied to the place of the backup if there can be a file. -/
theorem isSetAside_copy (hresolve : fs.tree.resolve file = .ok p)
    (hget : fs.tree.get? p = some (.file bytes readOnly))
    (htaken : taken fs file bytes = .broken) :
    ∃ aside, (fs.copy file (backupPath file)).1 = fs.setTree aside ∧
      IsSetAside fs aside file bytes readOnly p := by
  have hpath := DocumentFile.wantsDirectory_backupPath hresolve hget
  have hown := isOwnBackup_iff hresolve
  by_cases htakes : ∃ q, fs.tree.Takes (backupPath file) q
  · obtain ⟨q, hq⟩ := htakes
    have hnone := hq.writable.ne_directory
    obtain ⟨hways, hback⟩ := fs.keepsWays_outcome_put (.copy file (backupPath file)) hnone
      (FileTree.copied p q bytes) readOnly
    have hplace := fs.get?_outcome_put (.copy file (backupPath file)) hq.writable.ne_top
      fun count => .file (FileTree.copied p q bytes count) readOnly
    rw [FileSystem.copy_of_takes hresolve hget hq]
    refine ⟨_, rfl, hways, hback, ?_, fun place hbackup hne _ => ?_, fun place _ hbackup => ?_⟩
    · rw [hplace, asideBytes_of_broken htaken]
      by_cases hpq : p = q
      · subst hpq
        obtain rfl : readOnly = false := hq.writable.readOnly_eq_false hget
        rw [if_pos rfl, hget, hown.2 hq.resolve]
        simp only [FileTree.copied_self, Bool.not_false, Bool.and_self, if_true]
        exact (FileSystem.apply_outcome (fun b => some (Entry.file b false)) fs _ _ _).symm
      · have hself : isOwnBackup fs.tree file ≠ true := fun hself =>
          hpq (hq.eq_of_resolve (hown.1 hself))
        rw [if_neg hpq, hget, if_neg (by simp [hself])]
    · obtain rfl : place = q := hq.eq_of_resolve hbackup
      rw [hplace, if_pos rfl,
        backupAfter_of_free htaken ((FileTree.writable_iff hnone).1 hq.writable)]
      simp only [FileTree.copied_other (Ne.symm hne)]
    · rw [hplace, if_neg fun heq : place = q => hbackup (heq ▸ hq.resolve)]
  · obtain ⟨cause, hcopy⟩ := FileSystem.copy_of_not_takes (not_exists.1 htakes) file
    rw [hcopy]
    refine ⟨fs.tree, rfl, .refl _, .refl _, ?_, fun q hbackup hne hdirectory => ?_,
      fun _ _ _ => rfl⟩
    · -- A file that is not protected could be copied onto itself.
      rw [hget, asideBytes_of_broken htaken, if_neg]
      rw [Bool.and_eq_true, Bool.not_eq_true']
      rintro ⟨hself, rfl⟩
      exact htakes ⟨p, hown.1 hself, .inr ⟨bytes, hget⟩, hpath⟩
    · have hprotected : ¬∀ old, fs.tree.get? q ≠ some (.file old true) := fun hfree =>
        htakes ⟨q, hbackup, (FileTree.writable_iff hdirectory).2 hfree, hpath⟩
      obtain ⟨old, hold⟩ := not_forall_not.1 hprotected
      rw [hold, backupAfter_of_protected]

/-- What a load leaves of the file at `p` and of its backup. -/
structure IsLoaded (fs : FileSystem) (after : FileTree) (file : String) (bytes : ByteArray)
    (readOnly : Bool) (p : Place) : Prop where
  ways : fs.tree.KeepsWays after
  ways_back : after.KeepsWays fs.tree
  held : after.get? p = some (.file (fileAfter fs file bytes readOnly) readOnly)
  backup : ∀ q, fs.tree.resolve (backupPath file) = .ok q → q ≠ p →
    fs.tree.get? q ≠ some .directory →
      after.get? q = backupAfter fs file bytes readOnly (fs.tree.get? q)
  elsewhere : ∀ place, place ≠ p → fs.tree.resolve (backupPath file) ≠ .ok place →
    after.get? place = fs.tree.get? place

/-- The standard configuration takes the place of a file that has been set aside. -/
theorem IsSetAside.isLoaded_restore {aside : FileTree}
    (h : IsSetAside fs aside file bytes readOnly p) (hresolve : fs.tree.resolve file = .ok p)
    (hpath : Path.wantsDirectory file = false) (hnone : ∀ c, taken fs file bytes ≠ .config c) :
    IsLoaded fs (restore (fs.setTree aside) (some file)).1.tree file bytes readOnly p := by
  have hafter : fileAfter fs file bytes readOnly = _ := fileAfter_of_ne hnone
  have hstill : (fs.setTree aside).tree.resolve file = .ok p := h.ways.resolve hpath hresolve
  have hrestore := restore_of_file hstill h.held
  have hsame : directoryFails (fs.setTree aside) file = directoryFails fs file := rfl
  rw [hrestore, hsame]
  split
  · next hkept =>
    rw [if_pos hkept] at hafter
    exact ⟨h.ways, h.ways_back, hafter ▸ h.held, h.backup, h.elsewhere⟩
  · next hwritten =>
    rw [if_neg hwritten] at hafter
    obtain rfl : readOnly = false := by
      cases readOnly with
      | false => rfl
      | true => exact absurd (Bool.true_or _) hwritten
    have hdirectory : aside.get? p ≠ some .directory := by simp [h.held]
    have htop : p ≠ [] := by
      rintro rfl
      exact hdirectory rfl
    obtain ⟨hways, hback⟩ := (fs.setTree aside).keepsWays_outcome_put (.write file) hdirectory
      (FileTree.cut standardBytes) false
    have hplace := (fs.setTree aside).get?_outcome_put (.write file) htop
      fun count => .file (FileTree.cut standardBytes count) false
    refine ⟨h.ways.trans hways, hback.trans h.ways_back, ?_, fun q hbackup hne hq => ?_,
      fun place hne hbackup => ?_⟩
    · rw [hplace, if_pos rfl, hafter]
      show (fs.setTree aside).outcome _ (aside.get? p) _ = _
      rw [h.held]
      exact (FileSystem.apply_outcome (fun b => some (Entry.file b false)) fs _ _ _).symm
    · rw [hplace, if_neg hne]
      exact h.backup q hbackup hne hq
    · rw [hplace, if_neg hne]
      exact h.elsewhere place hne hbackup

/-- A load of a file always leaves this. -/
theorem isLoaded_load (hfind : fs.fault? (.find file) = none)
    (hresolve : fs.tree.resolve file = .ok p)
    (hget : fs.tree.get? p = some (.file bytes readOnly)) :
    IsLoaded fs (load fs (some file)).1.tree file bytes readOnly p := by
  have hpath := FileTree.wantsDirectory_eq_false hresolve hget
  rw [load_of_file hfind (FileTree.stat_eq_ok_iff.2 ⟨p, hresolve, hget⟩)]
  have hself (htaken : taken fs file bytes ≠ .broken) :
      IsSetAside fs fs.tree file bytes readOnly p := isSetAside_self hget htaken
  cases htaken : taken fs file bytes with
  | config c =>
      have haside := hself (by simp [htaken])
      refine ⟨.refl _, .refl _, ?_, haside.backup, fun _ _ _ => rfl⟩
      rw [fileAfter, htaken]
      exact hget
  | broken =>
      obtain ⟨aside, hcopy, haside⟩ := isSetAside_copy hresolve hget htaken
      rw [hcopy]
      exact haside.isLoaded_restore hresolve hpath (by simp [htaken])
  | unreadable | blank =>
      exact (hself (by simp [htaken])).isLoaded_restore hresolve hpath (by simp [htaken])

/-- A load of a file does not fail, unless nothing can be learned about its path. -/
theorem exists_load_iff (h : fs.tree.stat file = .ok (.file bytes readOnly)) :
    (∃ c, (load fs (some file)).2 = .ok c) ↔ fs.fault? (.find file) = none := by
  cases hfind : fs.fault? (.find file) with
  | some fault =>
      rw [load_of_fault hfind]
      simp
  | none =>
      rw [load_of_file hfind h]
      cases taken fs file bytes <;> exact ⟨fun _ => rfl, fun _ => ⟨_, rfl⟩⟩

/-! ## What is kept -/

/-- The place of the backup of a file, when that is another file. -/
def IsBackup (t : FileTree) (file : String) (q : Place) : Prop :=
  t.resolve (backupPath file) = .ok q ∧ t.resolve file ≠ .ok q

/-- The bytes of a file are in their place after a load, or in the backup, or were only white
space. -/
def Kept (after : FileTree) (file : String) (bytes : ByteArray) : Prop :=
  after.read file = .ok bytes ∨ contents bytes = .blank ∨ after.read (backupPath file) = .ok bytes

/-- What is read after a load tells whether the bytes are kept. -/
theorem IsLoaded.kept_iff {after : FileTree} (h : IsLoaded fs after file bytes readOnly p)
    (hresolve : fs.tree.resolve file = .ok p)
    (hget : fs.tree.get? p = some (.file bytes readOnly))
    (hdirectory : fs.tree.isDirectory (backupPath file) = false) :
    Kept after file bytes ↔
      contents bytes = .blank ∨ fileAfter fs file bytes readOnly = bytes ∨
        ∃ q protection, IsBackup fs.tree file q ∧
          backupAfter fs file bytes readOnly (fs.tree.get? q) = some (.file bytes protection) := by
  have hpath := FileTree.wantsDirectory_eq_false hresolve hget
  have hwants := DocumentFile.wantsDirectory_backupPath hresolve hget
  have hread : after.read file = .ok bytes ↔ fileAfter fs file bytes readOnly = bytes := by
    simp [FileTree.read_eq_ok_iff, FileTree.stat_eq_ok_iff, h.ways.resolve hpath hresolve, h.held]
  have hbackup : after.read (backupPath file) = .ok bytes ↔
      ∃ q protection, fs.tree.resolve (backupPath file) = .ok q ∧
        after.get? q = some (.file bytes protection) := by
    simp only [FileTree.read_eq_ok_iff, FileTree.stat_eq_ok_iff]
    constructor
    · rintro ⟨protection, q, hq, hafter⟩
      exact ⟨q, protection, h.ways_back.resolve hwants hq, hafter⟩
    · rintro ⟨q, protection, hq, hafter⟩
      exact ⟨protection, q, h.ways.resolve hwants hq, hafter⟩
  have hnone {q : Place} (hq : fs.tree.resolve (backupPath file) = .ok q) :=
    FileTree.ne_directory_of_isDirectory hdirectory hq
  unfold Kept
  rw [hread, hbackup]
  constructor
  · rintro (hheld | hblank | ⟨q, protection, hq, hafter⟩)
    · exact .inr (.inl hheld)
    · exact .inl hblank
    · by_cases hqp : q = p
      · rw [hqp, h.held] at hafter
        exact .inr (.inl (Entry.file.inj (Option.some.inj hafter)).1)
      · refine .inr (.inr ⟨q, protection, ⟨hq, fun hfile => hqp ?_⟩, ?_⟩)
        · exact Except.ok.inj (hfile.symm.trans hresolve)
        · rw [← h.backup q hq hqp (hnone hq), hafter]
  · rintro (hblank | hheld | ⟨q, protection, ⟨hq, hother⟩, hafter⟩)
    · exact .inr (.inl hblank)
    · exact .inl hheld
    · refine .inr (.inr ⟨q, protection, hq, ?_⟩)
      rw [h.backup q hq (fun heq => hother (heq ▸ hresolve)) (hnone hq), hafter]

/-- When no call fails, a file that is not protected and holds no configuration is replaced. -/
theorem fileAfter_eq_iff (hsound : ∀ call, fs.fault? call = none) :
    fileAfter fs file bytes readOnly = bytes ↔
      readOnly = true ∨ ∃ c, contents bytes = .config c := by
  have htaken : taken fs file bytes = contents bytes := by rw [taken, hsound]
  have hfails : directoryFails fs file = false := by
    rw [directoryFails, hsound, Option.isSome_none, Bool.and_false]
  have haside (hprotected : readOnly = true) : asideBytes fs file bytes readOnly = bytes := by
    unfold asideBytes
    simp only [hprotected, Bool.not_true, Bool.and_false, Bool.false_eq_true, if_false]
    split <;> rfl
  unfold fileAfter
  split
  · next c hc => exact ⟨fun _ => .inr ⟨c, htaken ▸ hc⟩, fun _ => rfl⟩
  · next hnone =>
    have hnever : ∀ c, contents bytes ≠ .config c := fun c hc => hnone c (htaken.trans hc)
    simp only [hfails, Bool.or_false, FileSystem.outcome_of_none (hsound _)]
    cases readOnly with
    | true => exact ⟨fun _ => .inl rfl, fun _ => haside rfl⟩
    | false =>
        refine ⟨fun heq => absurd heq (standardBytes_ne hnever), ?_⟩
        rintro (hprotected | ⟨c, hc⟩)
        · cases hprotected
        · exact absurd hc (hnever c)

/-- When no call fails, the backup of a file holds its bytes when they are a text that is no
configuration and the backup is not protected, or when it held them before. -/
theorem backupAfter_eq_iff (hsound : ∀ call, fs.fault? call = none) (old : Option Entry) :
    (∃ protection, backupAfter fs file bytes readOnly old = some (.file bytes protection)) ↔
      contents bytes = .broken ∧ (∀ kept, old ≠ some (.file kept true)) ∨
        ∃ protection, old = some (.file bytes protection) := by
  have htaken : taken fs file bytes = contents bytes := by rw [taken, hsound]
  unfold backupAfter
  simp only [htaken, FileSystem.outcome_of_none (hsound _)]
  split
  · next hbroken =>
    split
    · next kept => simp [hbroken]
    · next hfree => exact ⟨fun _ => .inl ⟨hbroken, hfree⟩, fun _ => ⟨readOnly, rfl⟩⟩
  · next hother => exact ⟨.inr, fun h => h.resolve_left fun hbroken => hother hbroken.1⟩

/-- A load of a file that can be found always gives a configuration. What it leaves at the path is
`fileAfter`, and what it leaves in a backup that is another file is `backupAfter`; what stands
anywhere else stays. So the bytes are kept exactly if one of the two holds them. When no call fails,
that is so if the file is protected or holds a configuration, if the backup is another file that
held the same bytes already, or if they are a text and such a backup is not protected. -/
theorem load_keeps_file_iff (hfile : fs.tree.stat file = .ok (.file bytes readOnly))
    (hdirectory : fs.tree.isDirectory (backupPath file) = false) :
    let after := (load fs (some file)).1.tree
    ((∃ c, (load fs (some file)).2 = .ok c) ↔ fs.fault? (.find file) = none) ∧
      (∀ fault, fs.fault? (.find file) = some fault → after = fs.tree) ∧
      (fs.fault? (.find file) = none →
        after.read file = .ok (fileAfter fs file bytes readOnly) ∧
          (∀ q, IsBackup fs.tree file q →
            after.get? q = backupAfter fs file bytes readOnly (fs.tree.get? q)) ∧
          (Kept after file bytes ↔
            contents bytes = .blank ∨ fileAfter fs file bytes readOnly = bytes ∨
              ∃ q protection, IsBackup fs.tree file q ∧
                backupAfter fs file bytes readOnly (fs.tree.get? q) =
                  some (.file bytes protection)) ∧
          ∀ place, fs.tree.resolve file ≠ .ok place →
            fs.tree.resolve (backupPath file) ≠ .ok place →
              after.get? place = fs.tree.get? place) ∧
      ((∀ call, fs.fault? call = none) →
        (Kept after file bytes ↔
          contents bytes = .blank ∨ (readOnly = true ∨ ∃ c, contents bytes = .config c) ∨
            ∃ q, IsBackup fs.tree file q ∧
              (contents bytes = .broken ∧ (∀ old, fs.tree.get? q ≠ some (.file old true)) ∨
                ∃ protection, fs.tree.get? q = some (.file bytes protection)))) := by
  intro after
  obtain ⟨p, hresolve, hget⟩ := FileTree.stat_eq_ok_iff.1 hfile
  have hpath := FileTree.wantsDirectory_eq_false hresolve hget
  have hloaded (hfind : fs.fault? (.find file) = none) :
      IsLoaded fs after file bytes readOnly p := isLoaded_load hfind hresolve hget
  have hkept (hfind : fs.fault? (.find file) = none) :=
    (hloaded hfind).kept_iff hresolve hget hdirectory
  have hbackup {q : Place} (hq : IsBackup fs.tree file q) :
      q ≠ p ∧ fs.tree.get? q ≠ some .directory :=
    ⟨fun heq => hq.2 (heq ▸ hresolve), FileTree.ne_directory_of_isDirectory hdirectory hq.1⟩
  refine ⟨exists_load_iff hfile, fun fault hfault => ?_, fun hfind => ?_, fun hsound => ?_⟩
  · show (load fs (some file)).1.tree = fs.tree
    rw [load_of_fault hfault]
  · refine ⟨?_, fun q hq => ?_, hkept hfind, fun place hfile hother => ?_⟩
    · rw [FileTree.read_eq_ok_iff]
      exact ⟨readOnly, FileTree.stat_eq_ok_iff.2
        ⟨p, (hloaded hfind).ways.resolve hpath hresolve, (hloaded hfind).held⟩⟩
    · exact (hloaded hfind).backup q hq.1 (hbackup hq).1 (hbackup hq).2
    · exact (hloaded hfind).elsewhere place (fun heq => hfile (heq ▸ hresolve)) hother
  · rw [hkept (hsound _), fileAfter_eq_iff hsound]
    simp only [exists_and_left, backupAfter_eq_iff hsound]

/-- A text that is no configuration, beside the backup of an older one: the older one gives way. -/
theorem load_keeps_file_iff_of_broken :
    let fs := FileSystem.sound
      ⟨[(["conf"], .directory), (["conf", "config.json"], .file "[72".toUTF8 false),
        (["conf", "config.bak"], .file "\x7b".toUTF8 false)], []⟩
    (fs.tree.stat "conf/config.json" = .ok (.file "[72".toUTF8 false) ∧
        fs.tree.isDirectory (backupPath "conf/config.json") = false) ∧
      Kept (load fs (some "conf/config.json")).1.tree "conf/config.json" "[72".toUTF8 := by
  intro fs
  have hfile : fs.tree.stat "conf/config.json" = .ok (.file "[72".toUTF8 false) := rfl
  have hdirectory : fs.tree.isDirectory (backupPath "conf/config.json") = false := rfl
  obtain ⟨-, -, -, hkept⟩ := load_keeps_file_iff hfile hdirectory
  have hbroken : contents "[72".toUTF8 = .broken := rfl
  have hresolve : fs.tree.resolve "conf/config.json" = .ok ["conf", "config.json"] := rfl
  have hother : (["conf", "config.json"] : Place) ≠ ["conf", "config.bak"] := by decide
  have hbackup : IsBackup fs.tree "conf/config.json" ["conf", "config.bak"] :=
    ⟨rfl, fun heq => hother (Except.ok.inj (hresolve.symm.trans heq))⟩
  refine ⟨⟨hfile, hdirectory⟩, (hkept fun _ => rfl).2 ?_⟩
  refine .inr (.inr ⟨["conf", "config.bak"], hbackup, .inl ⟨hbroken, ?_⟩⟩)
  intro old hold
  cases hold

/-- The file holds two bytes that are no text. Loading loses them, and there is no backup. -/
theorem bytes_of_no_text_are_lost :
    let bytes : ByteArray := ⟨#[0, 0xff]⟩
    let fs := FileSystem.sound ⟨[(["config.json"], .file bytes false)], []⟩
    let after := (load fs (some "config.json")).1.tree
    fs.tree.stat "config.json" = .ok (.file bytes false) ∧
      fs.tree.isDirectory (backupPath "config.json") = false ∧
      (load fs (some "config.json")).2 = .ok standard ∧ contents bytes = .unreadable ∧
      ¬Kept after "config.json" bytes ∧ after.read "config.json" = .ok standardBytes ∧
      after.stat (backupPath "config.json") = .error .notFound := by
  intro bytes fs after
  have hfile : fs.tree.stat "config.json" = .ok (.file bytes false) := rfl
  have htext : String.fromUTF8? bytes = none := by decide +kernel
  have hcontents : contents bytes = .unreadable := by rw [contents, htext]
  have hload : load fs (some "config.json") = restore fs (some "config.json") := by
    rw [load_of_file rfl hfile, show taken fs "config.json" bytes = contents bytes from rfl,
      hcontents]
  have hrestore : after = fs.tree.put ["config.json"] (.file standardBytes false) := by
    show (load fs (some "config.json")).1.tree = _
    have hresolve : fs.tree.resolve "config.json" = .ok ["config.json"] := rfl
    have hget : fs.tree.get? ["config.json"] = some (.file bytes false) := rfl
    rw [hload, restore_of_file hresolve hget]
    rfl
  have hread : after.read "config.json" = .ok standardBytes := by
    rw [hrestore]
    rfl
  have hbackup : after.stat (backupPath "config.json") = .error .notFound := by
    rw [hrestore]
    rfl
  have hdiffers : standardBytes ≠ bytes := fun heq => by
    rw [← heq, contents_standardBytes] at hcontents
    cases hcontents
  refine ⟨hfile, rfl, congrArg Prod.snd hload, hcontents, ?_, hread, hbackup⟩
  rintro (hheld | hblank | hkept)
  · exact hdiffers (Except.ok.inj (hread.symm.trans hheld))
  · rw [hcontents] at hblank
    cases hblank
  · obtain ⟨protection, hstat⟩ := FileTree.read_eq_ok_iff.1 hkept
    rw [hbackup] at hstat
    cases hstat

end Config

end MarkedVerse
