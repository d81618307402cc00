import MarkedVerse.Proofs.TreeWalks

/-!
# Writing into a tree

What putting a file at a place changes and what it leaves alone. A file is only ever put where no
directory stands, so every path still leads to the same place (`resolve_put`). Writing
(`write_eq_ok_iff`) and copying (`copy_eq_ok_iff`) are both one such step.
-/

namespace MarkedVerse

namespace FileTree

variable {t t' : FileTree} {p q : Place} {e : Entry} {path : String} {bytes : ByteArray}
  {readOnly : Bool} {count : Option Nat}

/-! ## Entries -/

@[simp]
theorem get?_top (t : FileTree) : t.get? [] = some .directory :=
  rfl

/-- What was put at a place stands there. -/
theorem get?_put_same (t : FileTree) (e : Entry) (h : p ≠ []) : (t.put p e).get? p = some e := by
  rw [get?, if_neg (by rwa [List.isEmpty_iff]), put, List.lookup_cons_self]

/-- What stands at a place is found again when the entries of another place are dropped. -/
theorem lookup_filter_other {entries : List (Place × Entry)} (h : q ≠ p) :
    (entries.filter fun entry => entry.1 != p).lookup q = entries.lookup q := by
  induction entries with
  | nil => rfl
  | cons entry entries ih =>
      obtain ⟨place, e⟩ := entry
      by_cases hplace : place = p
      · rw [List.filter_cons_of_neg (by simp [hplace]), ih, List.lookup_cons,
          beq_false_of_ne (hplace ▸ h)]
      · rw [List.filter_cons_of_pos (by simp [hplace]), List.lookup_cons, List.lookup_cons, ih]

/-- Putting something at a place leaves the other places alone. -/
theorem get?_put_other (t : FileTree) (e : Entry) (h : q ≠ p) :
    (t.put p e).get? q = t.get? q := by
  rw [get?, get?, put, List.lookup_cons, beq_false_of_ne h, lookup_filter_other h]

/-- Only the last of two entries put at one place counts. -/
@[simp]
theorem put_put (t : FileTree) (p : Place) (e e' : Entry) : (t.put p e).put p e' = t.put p e' := by
  simp [put, List.filter_filter]

/-! ## Paths -/

/-- Putting something where no directory stands leaves the directories and the links. -/
theorem keepsWays_put (hp : t.get? p ≠ some .directory) (e : Entry) : KeepsWays t (t.put p e) where
  links := rfl
  directories q hq := by
    have hne : q ≠ p := fun heq => hp (heq ▸ hq)
    rwa [get?_put_other t e hne]

/-- Putting a file makes no directory. -/
theorem keepsWays_of_put_file (t : FileTree) (p : Place) (bytes : ByteArray) (readOnly : Bool) :
    KeepsWays (t.put p (.file bytes readOnly)) t where
  links := rfl
  directories q hq := by
    by_cases hqp : q = p
    · by_cases htop : p = []
      · rw [hqp, htop]
        rfl
      · rw [hqp, get?_put_same t _ htop] at hq
        cases hq
    · rwa [get?_put_other t _ hqp] at hq

/-- A path means the place it walks to, unless it can only mean a directory and a file is there. -/
theorem resolve_eq_ok_iff :
    t.resolve path = .ok p ↔
      path.isEmpty = false ∧ (∃ links, t.walk maxLinks [] (Path.names path) = .ok (links, p)) ∧
        ((∃ bytes readOnly, t.get? p = some (.file bytes readOnly)) →
          Path.wantsDirectory path = false) := by
  unfold resolve
  cases hempty : path.isEmpty with
  | true => simp
  | false =>
      cases hwalk : t.walk maxLinks [] (Path.names path) with
      | error cause => simp [bind, Except.bind]
      | ok reached =>
          obtain ⟨links, place⟩ := reached
          simp only [bind, Except.bind, Bool.false_eq_true, if_false, Except.ok.injEq,
            Prod.mk.injEq, exists_eq_left', true_and]
          split
          case h_1 bytes readOnly hget =>
            cases hwants : Path.wantsDirectory path with
            | false => simp
            | true =>
                refine ⟨fun h => by simp at h, fun ⟨heq, hfile⟩ => ?_⟩
                exact absurd (hfile ⟨bytes, readOnly, heq ▸ hget⟩) (by simp)
          case h_2 hnone =>
            constructor
            · intro h
              obtain rfl : place = p := Except.ok.inj h
              exact ⟨rfl, fun ⟨bytes, readOnly, hget⟩ => absurd hget (hnone bytes readOnly)⟩
            · rintro ⟨rfl, -⟩
              rfl

/-- A path at whose place a file stands can mean a file. -/
theorem wantsDirectory_eq_false (h : t.resolve path = .ok p)
    (hget : t.get? p = some (.file bytes readOnly)) : Path.wantsDirectory path = false :=
  (resolve_eq_ok_iff.1 h).2.2 ⟨bytes, readOnly, hget⟩

/-- A path that can mean a file means its place in every tree with the same ways. -/
theorem KeepsWays.resolve (h : KeepsWays t t') (hpath : Path.wantsDirectory path = false)
    (hresolve : t.resolve path = .ok p) : t'.resolve path = .ok p := by
  obtain ⟨hempty, ⟨links, hwalk⟩, -⟩ := resolve_eq_ok_iff.1 hresolve
  exact resolve_eq_ok_iff.2 ⟨hempty, ⟨links, h.walk hwalk⟩, fun _ => hpath⟩

/-- A path still means its place after a file was put somewhere, unless the path can only mean a
directory and the file was put right there. -/
theorem resolve_put (hp : t.get? p ≠ some .directory) (e : Entry) (h : t.resolve path = .ok q)
    (hpath : q = p → Path.wantsDirectory path = false) :
    (t.put p e).resolve path = .ok q := by
  obtain ⟨hempty, ⟨links, hwalk⟩, hfile⟩ := resolve_eq_ok_iff.1 h
  refine resolve_eq_ok_iff.2 ⟨hempty, ⟨links, (keepsWays_put hp e).walk hwalk⟩, fun hget => ?_⟩
  by_cases hq : q = p
  · exact hpath hq
  · exact hfile (by rwa [get?_put_other t e hq] at hget)

theorem stat_eq_ok_iff : t.stat path = .ok e ↔ ∃ p, t.resolve path = .ok p ∧ t.get? p = some e := by
  unfold stat
  cases hresolve : t.resolve path with
  | error cause => simp [bind, Except.bind]
  | ok p => cases hget : t.get? p <;> simp [bind, Except.bind, hget]

/-- A path that does not lead to a directory means a place where none stands. -/
theorem ne_directory_of_isDirectory (h : t.isDirectory path = false)
    (hresolve : t.resolve path = .ok p) : t.get? p ≠ some .directory := fun hget => by
  have hstat := stat_eq_ok_iff.2 ⟨p, hresolve, hget⟩
  simp [isDirectory, hstat] at h

theorem read_eq_ok_iff :
    t.read path = .ok bytes ↔ ∃ readOnly, t.stat path = .ok (.file bytes readOnly) := by
  unfold read
  cases hstat : t.stat path with
  | error cause => simp [bind, Except.bind]
  | ok e => cases e <;> simp [bind, Except.bind]

/-! ## Writing -/

/-- A place that can be written to: nothing stands there, or a file that is not protected. -/
def Writable (t : FileTree) (p : Place) : Prop :=
  t.get? p = none ∨ ∃ bytes, t.get? p = some (.file bytes false)

theorem Writable.ne_directory (h : t.Writable p) : t.get? p ≠ some .directory := by
  obtain h | ⟨bytes, h⟩ := h <;> simp [h]

theorem Writable.ne_top (h : t.Writable p) : p ≠ [] := by
  rintro rfl
  exact h.ne_directory (get?_top t)

theorem Writable.readOnly_eq_false (h : t.Writable p)
    (hget : t.get? p = some (.file bytes readOnly)) : readOnly = false := by
  obtain h | ⟨old, h⟩ := h
  · cases hget.symm.trans h
  · cases hget.symm.trans h
    rfl

/-- What was put at the place of a path is what the path leads to. -/
theorem stat_put_same (hp : t.Writable p) (h : t.resolve path = .ok p)
    (hpath : Path.wantsDirectory path = false) (e : Entry) :
    (t.put p e).stat path = .ok e :=
  stat_eq_ok_iff.2 ⟨p, resolve_put hp.ne_directory e h fun _ => hpath,
    get?_put_same t e hp.ne_top⟩

/-- What stands at another place is still what its path leads to. -/
theorem stat_put_other (hp : t.Writable p) (h : t.resolve path = .ok q) (hne : q ≠ p)
    (e : Entry) : (t.put p e).stat path = t.stat path := by
  rw [stat, stat, h, resolve_put hp.ne_directory e h fun heq => absurd heq hne]
  simp only [bind, Except.bind, get?_put_other t e hne]

/-- A file is written exactly where there can be one, and then it is put there. -/
theorem write_eq_ok_iff :
    t.write path bytes = .ok t' ↔
      ∃ p, t.resolve path = .ok p ∧ t.Writable p ∧ Path.wantsDirectory path = false ∧
        t' = t.put p (.file bytes false) := by
  unfold write
  cases hresolve : t.resolve path with
  | error cause => simp [bind, Except.bind]
  | ok p =>
      cases hget : t.get? p with
      | none => cases hpath : Path.wantsDirectory path <;>
          simp [bind, Except.bind, hget, Writable, eq_comm]
      | some e =>
          cases e with
          | directory => simp [bind, Except.bind, hget, Writable]
          | file old readOnly =>
              have hpath := wantsDirectory_eq_false hresolve hget
              cases readOnly <;> simp [bind, Except.bind, hget, Writable, hpath, eq_comm]

/-- Where no directory stands, a place can be written to unless a protected file stands there. -/
theorem writable_iff (h : t.get? q ≠ some .directory) :
    t.Writable q ↔ ∀ bytes, t.get? q ≠ some (.file bytes true) := by
  unfold Writable
  match hget : t.get? q with
  | none => simp
  | some .directory => exact absurd hget h
  | some (.file old true) => simp
  | some (.file old false) => simp

/-! ## Copying -/

/-- The bytes that a copy of a file puts at another place, or at its own. -/
def copied (p q : Place) (bytes : ByteArray) (count : Option Nat) : ByteArray :=
  cut (if p = q then ByteArray.empty else bytes) count

theorem copied_self (p : Place) (bytes : ByteArray) (count : Option Nat) :
    copied p p bytes count = ByteArray.empty := by
  rw [copied, if_pos rfl]
  cases count with
  | none => rfl
  | some count => simp [cut]

theorem copied_other (h : p ≠ q) (bytes : ByteArray) (count : Option Nat) :
    copied p q bytes count = cut bytes count := by
  rw [copied, if_neg h]

/-- A copy puts bytes of its source at the place of its target if there can be a file. A copy of a
file onto itself leaves no bytes. -/
theorem copy_eq_ok_iff {source target : String} :
    t.copy source target count = .ok t' ↔
      ∃ bytes readOnly p q,
        t.resolve source = .ok p ∧ t.get? p = some (.file bytes readOnly) ∧
          t.resolve target = .ok q ∧ t.Writable q ∧ Path.wantsDirectory target = false ∧
          t' = t.put q (.file (copied p q bytes count) readOnly) := by
  constructor
  · intro h
    unfold copy at h
    cases hstat : t.stat source with
    | error cause => simp [hstat, bind, Except.bind] at h
    | ok e =>
        cases e with
        | directory => simp [hstat, bind, Except.bind] at h
        | file bytes readOnly =>
            obtain ⟨p, hsource, hget⟩ := stat_eq_ok_iff.1 hstat
            simp only [hstat, bind, Except.bind] at h
            split at h
            case h_1 => cases h
            case h_2 written hwrite =>
              obtain ⟨q, htarget, hq, hpath, rfl⟩ := write_eq_ok_iff.1 hwrite
              have hresolve (e : Entry) : (t.put q e).resolve target = .ok q :=
                resolve_put hq.ne_directory e htarget fun _ => hpath
              rw [hresolve] at h
              simp only [Except.ok.injEq, put_put, hsource, htarget] at h
              refine ⟨bytes, readOnly, p, q, hsource, hget, htarget, hq, hpath, ?_⟩
              rw [← h]
              simp [Except.toOption, copied]
  · rintro ⟨bytes, readOnly, p, q, hsource, hget, htarget, hq, hpath, rfl⟩
    have hwrite (written : ByteArray) :
        t.write target written = .ok (t.put q (.file written false)) :=
      write_eq_ok_iff.2 ⟨q, htarget, hq, hpath, rfl⟩
    have hresolve (e : Entry) : (t.put q e).resolve target = .ok q :=
      resolve_put hq.ne_directory e htarget fun _ => hpath
    simp [copy, stat_eq_ok_iff.2 ⟨p, hsource, hget⟩, hwrite, hresolve, hsource, htarget, bind,
      Except.bind, Except.toOption, copied]

end FileTree

end MarkedVerse
