import MarkedVerse.FileSystem
import MarkedVerse.Proofs.TreeWrites

/-!
# Calls that fail

What a call leaves in the tree when it fails, and when it does not. A call that changes files does
so to some extent: not at all, in part, or as a whole. Writing and copying put a file at one place
to the extent to which they are carried out, if there can be a file (`write_of_takes`,
`copy_of_takes`), and otherwise they fail and leave everything alone. However often a file is
written again, only the last attempt that reached it counts (`writeAgain_of_takes`).
-/

namespace MarkedVerse

namespace FileTree

variable {t : FileTree} {p q : Place} {path : String} {bytes : ByteArray} {readOnly : Bool}

/-- A file can be written at the place of a path. -/
structure Takes (t : FileTree) (path : String) (p : Place) : Prop where
  resolve : t.resolve path = .ok p
  writable : t.Writable p
  wantsDirectory : Path.wantsDirectory path = false

theorem Takes.eq_of_resolve (h : t.Takes path q) (hresolve : t.resolve path = .ok p) : p = q :=
  Except.ok.inj (hresolve.symm.trans h.resolve)

theorem Takes.write (h : t.Takes path p) (bytes : ByteArray) :
    t.write path bytes = .ok (t.put p (.file bytes false)) :=
  write_eq_ok_iff.2 ⟨p, h.resolve, h.writable, h.wantsDirectory, rfl⟩

/-- Where there can be no file, none is written. -/
theorem exists_write_error (h : ∀ p, ¬t.Takes path p) (bytes : ByteArray) :
    ∃ cause, t.write path bytes = .error cause := by
  cases hwrite : t.write path bytes with
  | error cause => exact ⟨cause, rfl⟩
  | ok t' =>
      obtain ⟨p, hresolve, hp, hpath, -⟩ := write_eq_ok_iff.1 hwrite
      exact absurd ⟨hresolve, hp, hpath⟩ (h p)

/-- A file that is there and not protected can be written. -/
theorem takes_of_stat (h : t.stat path = .ok (.file bytes false)) : ∃ p, t.Takes path p := by
  obtain ⟨p, hresolve, hget⟩ := stat_eq_ok_iff.1 h
  exact ⟨p, hresolve, .inr ⟨bytes, hget⟩, wantsDirectory_eq_false hresolve hget⟩

/-- What was put where a file can be written is what the path leads to. -/
theorem Takes.stat_put (h : t.Takes path p) (e : Entry) : (t.put p e).stat path = .ok e :=
  stat_put_same h.writable h.resolve h.wantsDirectory e

theorem Takes.read_put (h : t.Takes path p) (bytes : ByteArray) (readOnly : Bool) :
    (t.put p (.file bytes readOnly)).read path = .ok bytes :=
  read_eq_ok_iff.2 ⟨readOnly, h.stat_put _⟩

/-- Where a file was put that is not protected, one can be written again. -/
theorem Takes.put (h : t.Takes path p) (bytes : ByteArray) :
    (t.put p (.file bytes false)).Takes path p where
  resolve := resolve_put h.writable.ne_directory _ h.resolve fun _ => h.wantsDirectory
  writable := .inr ⟨bytes, get?_put_same t _ h.writable.ne_top⟩
  wantsDirectory := h.wantsDirectory

end FileTree

namespace FileSystem

variable {fs : FileSystem} {call : Call} {path source target : String} {bytes : ByteArray}
  {readOnly : Bool} {p q : Place} {cause : OsError}

/-! ## Looking -/

theorem look_eq_ok_iff {call : String → Call} {e : Entry} :
    fs.look call path = .ok e ↔ fs.fault? (call path) = none ∧ fs.tree.stat path = .ok e := by
  unfold look
  cases fs.fault? (call path) <;> simp

theorem read_eq_ok_iff :
    fs.read path = .ok bytes ↔ fs.fault? (.read path) = none ∧ fs.tree.read path = .ok bytes := by
  unfold read
  cases fs.fault? (.read path) <;> simp

/-! ## What stays

Calls change the tree and the clock. -/

@[simp]
theorem faults_perform (fs : FileSystem) (call : Call)
    (change : Option Nat → Except OsError FileTree) :
    (fs.perform call change).1.faults = fs.faults := by
  unfold perform
  split
  · rfl
  · split <;> rfl
  · split <;> rfl

@[simp]
theorem faults_makeDirectories (fs : FileSystem) (path : String) :
    (fs.makeDirectories path).1.faults = fs.faults := by
  unfold makeDirectories
  split
  · rfl
  · split <;> rfl

@[simp]
theorem faults_copy (fs : FileSystem) (source target : String) :
    (fs.copy source target).1.faults = fs.faults :=
  faults_perform _ _ _

@[simp]
theorem faults_write (fs : FileSystem) (path : String) (bytes : ByteArray) :
    (fs.write path bytes).1.faults = fs.faults :=
  faults_perform _ _ _

/-! ## How far a call gets -/

/-- The extent to which a call is carried out, if it is at all. -/
def extent (fs : FileSystem) (call : Call) : Option (Option Nat) :=
  match fs.fault? call with
  | none => some none
  | some fault => fault.progress.map some

/-- What comes of a change that is carried out to the extent of a call. -/
def outcome {α : Type} (fs : FileSystem) (call : Call) (old : α) (new : Option Nat → α) : α :=
  match fs.extent call with
  | none => old
  | some count => new count

/-- The answer of a call that nothing in the tree stands in the way of. -/
def answer (fs : FileSystem) (call : Call) : Except OsError Unit :=
  match fs.fault? call with
  | none => .ok ()
  | some fault => .error fault.cause

theorem answer_eq_ok_iff : fs.answer call = .ok () ↔ fs.fault? call = none := by
  unfold answer
  cases fs.fault? call <;> simp

section

variable {α : Type}

/-- A call that does not fail is carried out as a whole. -/
theorem outcome_of_none (h : fs.fault? call = none) (old : α) (new : Option Nat → α) :
    fs.outcome call old new = new none := by
  rw [outcome, extent, h]

theorem outcome_of_brokenOff {count : Nat} (h : fs.fault? call = some ⟨cause, some count⟩)
    (old : α) (new : Option Nat → α) : fs.outcome call old new = new (some count) := by
  rw [outcome, extent, h]
  rfl

theorem outcome_of_refused (h : fs.fault? call = some ⟨cause, none⟩) (old : α)
    (new : Option Nat → α) : fs.outcome call old new = old := by
  rw [outcome, extent, h]
  rfl

/-- What holds of the old and of whatever part of the new holds of the outcome. -/
theorem outcome_of_both {P : α → Prop} {old : α} {new : Option Nat → α} (fs : FileSystem)
    (call : Call) (hold : P old) (hnew : ∀ count, P (new count)) : P (fs.outcome call old new) := by
  unfold outcome
  cases fs.extent call with
  | none => exact hold
  | some count => exact hnew count

@[simp]
theorem outcome_const (fs : FileSystem) (call : Call) (old : α) :
    (fs.outcome call old fun _ => old) = old :=
  outcome_of_both (P := (· = old)) fs call rfl fun _ => rfl

/-- What is made of the outcome of a call is the outcome of what is made of it. -/
theorem apply_outcome {β : Type} (f : α → β) (fs : FileSystem) (call : Call) (old : α)
    (new : Option Nat → α) :
    f (fs.outcome call old new) = fs.outcome call (f old) fun count => f (new count) := by
  unfold outcome
  cases fs.extent call <;> rfl

end

/-- At some time a call breaks off after so much of it. -/
def BreaksOff (fs : FileSystem) (call : Call) (count : Nat) : Prop :=
  ∃ time cause, fs.faults time call = some ⟨cause, some count⟩

theorem BreaksOff.of_faults {fs' : FileSystem} {count : Nat} (h : fs'.faults = fs.faults)
    (hbreaks : fs'.BreaksOff call count) : fs.BreaksOff call count := by
  rwa [BreaksOff, ← h]

/-- A call leaves the tree, or a part of the change if it breaks off, or the whole change. -/
theorem answer_cases (fs : FileSystem) (call : Call) (change : Option Nat → FileTree) :
    (fs.answer call = .ok () ∧ fs.outcome call fs.tree change = change none) ∨
      (∃ cause, fs.answer call = .error cause) ∧
        (fs.outcome call fs.tree change = fs.tree ∨
          ∃ count, fs.BreaksOff call count ∧
            fs.outcome call fs.tree change = change (some count)) := by
  unfold answer outcome extent
  cases hfault : fs.fault? call with
  | none => exact .inl ⟨rfl, rfl⟩
  | some fault =>
      obtain ⟨cause, progress⟩ := fault
      refine .inr ⟨⟨cause, rfl⟩, ?_⟩
      cases progress with
      | none => exact .inl rfl
      | some count => exact .inr ⟨count, ⟨fs.clock, cause, hfault⟩, rfl⟩

theorem perform_of_ok {change : Option Nat → Except OsError FileTree}
    {result : Option Nat → FileTree} (h : ∀ count, change count = .ok (result count)) :
    fs.perform call change = (fs.setTree (fs.outcome call fs.tree result), fs.answer call) := by
  unfold perform outcome extent answer
  split
  · next hfault => rw [hfault]; rfl
  · next hfault => rw [hfault, h]; rfl
  · next hfault => rw [hfault, h]

theorem perform_of_error (fs : FileSystem) (call : Call)
    {change : Option Nat → Except OsError FileTree}
    (h : ∀ count, ∃ cause, change count = .error cause) :
    ∃ cause, fs.perform call change = (fs, .error cause) := by
  unfold perform
  split
  · exact ⟨_, rfl⟩
  · next progress _ =>
    obtain ⟨cause, hchange⟩ := h (some progress)
    exact ⟨cause, by rw [hchange]⟩
  · obtain ⟨cause, hchange⟩ := h none
    exact ⟨cause, by rw [hchange]⟩

/-! ## Writing and copying -/

/-- What writing a file leaves where there can be one. -/
theorem write_of_takes (h : fs.tree.Takes path p) (bytes : ByteArray) :
    fs.write path bytes =
      ((fs.setTree (fs.outcome (.write path) fs.tree fun count =>
          fs.tree.put p (.file (FileTree.cut bytes count) false))).tick,
        fs.answer (.write path)) := by
  rw [write, perform_of_ok fun count => h.write (FileTree.cut bytes count)]

theorem write_of_not_takes (h : ∀ p, ¬fs.tree.Takes path p) (bytes : ByteArray) :
    ∃ cause, fs.write path bytes = (fs.tick, .error cause) := by
  obtain ⟨cause, hperform⟩ := perform_of_error fs (.write path) fun count =>
    FileTree.exists_write_error h (FileTree.cut bytes count)
  exact ⟨cause, by rw [write, hperform]⟩

/-- What has been written is there. -/
theorem stat_of_write {fs' : FileSystem} (h : fs.write path bytes = (fs', .ok ())) :
    fs'.tree.stat path = .ok (.file bytes false) := by
  by_cases htakes : ∃ p, fs.tree.Takes path p
  · obtain ⟨p, hp⟩ := htakes
    rw [write_of_takes hp] at h
    obtain ⟨rfl, hanswer⟩ := Prod.mk.inj h
    show (fs.outcome (.write path) fs.tree _).stat path = _
    rw [outcome_of_none (answer_eq_ok_iff.1 hanswer)]
    exact hp.stat_put _
  · obtain ⟨cause, hwrite⟩ := write_of_not_takes (not_exists.1 htakes) bytes
    rw [hwrite] at h
    cases congrArg Prod.snd h

/-- What copying a file leaves where there can be one. -/
theorem copy_of_takes (hsource : fs.tree.resolve source = .ok p)
    (hget : fs.tree.get? p = some (.file bytes readOnly)) (h : fs.tree.Takes target q) :
    fs.copy source target =
      (fs.setTree (fs.outcome (.copy source target) fs.tree fun count =>
          fs.tree.put q (.file (FileTree.copied p q bytes count) readOnly)),
        fs.answer (.copy source target)) :=
  perform_of_ok fun _ => FileTree.copy_eq_ok_iff.2
    ⟨bytes, readOnly, p, q, hsource, hget, h.resolve, h.writable, h.wantsDirectory, rfl⟩

theorem copy_of_not_takes (h : ∀ q, ¬fs.tree.Takes target q) (source : String) :
    ∃ cause, fs.copy source target = (fs, .error cause) := by
  refine perform_of_error fs _ fun count => ?_
  cases hcopy : fs.tree.copy source target count with
  | error cause => exact ⟨cause, rfl⟩
  | ok t' =>
      obtain ⟨-, -, -, q, -, -, htarget, hq, hpath, -⟩ := FileTree.copy_eq_ok_iff.1 hcopy
      exact absurd ⟨htarget, hq, hpath⟩ (h q)

/-! ## A file that is put as far as a call goes -/

/-- What stands at the places when a call has put something at one of them. -/
theorem get?_outcome_put (fs : FileSystem) (call : Call) (hp : p ≠ []) (entry : Option Nat → Entry)
    (place : Place) :
    (fs.outcome call fs.tree fun count => fs.tree.put p (entry count)).get? place =
      if place = p then fs.outcome call (fs.tree.get? p) fun count => some (entry count)
      else fs.tree.get? place := by
  rw [apply_outcome fun t : FileTree => t.get? place]
  split
  · next heq => simp only [heq, FileTree.get?_put_same _ _ hp]
  · next hne => simp only [FileTree.get?_put_other _ _ hne, outcome_const]

/-- A call that puts a file leaves the directories and the links as they are. -/
theorem keepsWays_outcome_put (fs : FileSystem) (call : Call)
    (hp : fs.tree.get? p ≠ some .directory) (content : Option Nat → ByteArray) (readOnly : Bool) :
    let t := fs.outcome call fs.tree fun count => fs.tree.put p (.file (content count) readOnly)
    fs.tree.KeepsWays t ∧ t.KeepsWays fs.tree :=
  outcome_of_both (P := fun t => fs.tree.KeepsWays t ∧ t.KeepsWays fs.tree) fs call
    ⟨.refl _, .refl _⟩ fun _ =>
      ⟨FileTree.keepsWays_put hp _, FileTree.keepsWays_of_put_file _ _ _ _⟩

/-! ## Writing again -/

/-- A file is written, perhaps after some attempts that failed. Or all attempts fail, and the file
is as it was, or the last one of them that broke off has left the first bytes. -/
theorem writeAgain_of_takes (h : fs.tree.Takes path p) (bytes : ByteArray) (more : Nat) :
    let written := fs.writeAgain path bytes more
    (written.2 = .ok () ∧ written.1.tree = fs.tree.put p (.file bytes false)) ∨
      (∃ cause, written.2 = .error cause) ∧
        (written.1.tree = fs.tree ∨ ∃ count, fs.BreaksOff (.write path) count ∧
          written.1.tree = fs.tree.put p (.file (FileTree.cut bytes (some count)) false)) := by
  induction more generalizing fs with
  | zero =>
      rw [writeAgain, write_of_takes h]
      exact answer_cases fs _ _
  | succ more ih =>
      obtain ⟨hok, hleft⟩ | ⟨⟨cause, herror⟩, hleft⟩ := answer_cases fs (.write path) fun count =>
        fs.tree.put p (.file (FileTree.cut bytes count) false)
      · rw [writeAgain, write_of_takes h, hok]
        exact .inl ⟨rfl, hleft⟩
      · rw [writeAgain, write_of_takes h, herror]
        -- What the first attempt may have left at the place counts no more than what was there.
        generalize fs.outcome (.write path) fs.tree _ = tree at hleft
        have hput (e : Entry) : tree.put p e = fs.tree.put p e := by
          obtain rfl | ⟨count, -, rfl⟩ := hleft
          · rfl
          · exact FileTree.put_put _ _ _ _
        have htakes : tree.Takes path p := by
          obtain rfl | ⟨count, -, rfl⟩ := hleft
          · exact h
          · exact h.put _
        obtain ⟨hok, hnew⟩ | ⟨hfails, hsame | ⟨count, hbreaks, hnew⟩⟩ :=
          @ih ((fs.setTree tree).tick) htakes
        · exact .inl ⟨hok, hnew.trans (hput _)⟩
        · refine .inr ⟨hfails, ?_⟩
          rw [hsame]
          exact hleft
        · exact .inr ⟨hfails, .inr ⟨count, hbreaks, hnew.trans (hput _)⟩⟩

/-- Where there can be no file, writing fails however often it is tried. -/
theorem writeAgain_of_not_takes (h : ∀ p, ¬fs.tree.Takes path p) (bytes : ByteArray) (more : Nat) :
    let written := fs.writeAgain path bytes more
    (∃ cause, written.2 = .error cause) ∧ written.1.tree = fs.tree := by
  obtain ⟨cause, hwrite⟩ := write_of_not_takes h bytes
  induction more generalizing fs cause with
  | zero =>
      rw [writeAgain, hwrite]
      exact ⟨⟨cause, rfl⟩, rfl⟩
  | succ more ih =>
      obtain ⟨cause', hagain⟩ := @write_of_not_takes fs.tick path h bytes
      rw [writeAgain, hwrite]
      exact @ih fs.tick h cause' hagain

end FileSystem

end MarkedVerse
