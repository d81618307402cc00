import MarkedVerse.FileTree

/-!
# Walking a tree

How names are followed from a directory, one at a time (`walk_cons_of_name`, `walk_cons_of_link`).
Names lead on from where the names in front of them lead (`walk_append`), and where they lead does
not depend on anything but the directories and the links that they pass (`KeepsWays.walk`).
-/

namespace MarkedVerse

namespace FileTree

variable {t t' : FileTree} {p q : Place} {e : Entry} {n : String} {names : List String}
  {links : Nat} {r : Nat × Place}

/-! ## One name and the next -/

@[simp]
theorem walk_nil (t : FileTree) (links : Nat) (p : Place) : t.walk links p [] = .ok (links, p) := by
  rw [walk, advance]

/-- Names are followed from directories only. -/
theorem get?_of_walk_cons (h : t.walk links p (n :: names) = .ok r) :
    t.get? p = some .directory := by
  rw [walk, advance] at h
  cases hp : t.get? p with
  | none => simp [hp] at h
  | some e =>
      cases e with
      | file bytes readOnly => simp [hp] at h
      | directory => rfl

/-- A name that is no link leads to its place. -/
theorem walk_cons_of_name (hp : t.get? p = some .directory) (hlink : t.link? p n = none)
    (links : Nat) (names : List String) :
    t.walk links p (n :: names) = t.walk links (next p n) names := by
  rw [walk, advance, hp]
  simp only [hlink]
  rw [walk]

/-- A link is followed instead of its name, as long as links may be followed at all. -/
theorem walk_cons_of_link (hp : t.get? p = some .directory) {target : String}
    (hlink : t.link? p n = some target) (links : Nat) (names : List String) :
    t.walk links p (n :: names) =
      match links with
      | 0 => .error .tooManyLinks
      | links + 1 => t.walk links (enter p target names).1 (enter p target names).2 := by
  rw [walk, advance, hp]
  cases links <;> simp only [hlink]

theorem walk_cons_of_missing (hp : t.get? p = none) (links : Nat) (n : String)
    (names : List String) : t.walk links p (n :: names) = .error .notFound := by
  rw [walk, advance, hp]

theorem walk_cons_of_file {bytes : ByteArray} {readOnly : Bool}
    (hp : t.get? p = some (.file bytes readOnly)) (links : Nat) (n : String)
    (names : List String) : t.walk links p (n :: names) = .error .notDirectory := by
  rw [walk, advance, hp]

/-- A walk is over, or it goes on from the next name, or with one link less from somewhere else. -/
theorem walk_induction {motive : Nat → Place → List String → Prop}
    (nil : ∀ links p, motive links p [])
    (cons : ∀ links p n names, motive links (next p n) names →
      (∀ fewer q rest, links = fewer + 1 → motive fewer q rest) → motive links p (n :: names))
    (links : Nat) (p : Place) (names : List String) : motive links p names := by
  induction links using Nat.strongRecOn generalizing p names with
  | ind links ihlinks =>
      induction names generalizing p with
      | nil => exact nil links p
      | cons n names ih =>
          refine cons links p n names (ih _) fun fewer q rest hfewer => ?_
          exact ihlinks fewer (by omega) q rest

/-! ## Names behind names -/

theorem enter_append (directory : Place) (target : String) (front names : List String) :
    enter directory target (front ++ names) =
      ((enter directory target front).1, (enter directory target front).2 ++ names) := by
  unfold enter
  cases Path.wantsDirectory target <;> simp

/-- Names lead on from the place that the names in front of them lead to. -/
theorem walk_append (t : FileTree) (links : Nat) (p : Place) (front names : List String) :
    t.walk links p (front ++ names) =
      (t.walk links p front).bind fun reached => t.walk reached.1 reached.2 names := by
  induction links, p, front using walk_induction with
  | nil links p => rw [walk_nil]; rfl
  | cons links p n front ih ihlinks =>
      rw [List.cons_append]
      cases hp : t.get? p with
      | none => rw [walk_cons_of_missing hp, walk_cons_of_missing hp]; rfl
      | some e =>
          cases e with
          | file bytes readOnly => rw [walk_cons_of_file hp, walk_cons_of_file hp]; rfl
          | directory =>
              cases hlink : t.link? p n with
              | none => rw [walk_cons_of_name hp hlink, walk_cons_of_name hp hlink, ih]
              | some target =>
                  rw [walk_cons_of_link hp hlink, walk_cons_of_link hp hlink]
                  cases links with
                  | zero => rfl
                  | succ links => rw [enter_append]; exact ihlinks links _ _ rfl

/-- A walk along names and further ones passes where the first ones lead. -/
theorem walk_append_eq_ok_iff {front : List String} :
    t.walk links p (front ++ names) = .ok r ↔
      ∃ more q, t.walk links p front = .ok (more, q) ∧ t.walk more q names = .ok r := by
  rw [walk_append]
  cases t.walk links p front with
  | error cause => simp [Except.bind]
  | ok reached =>
      refine ⟨fun h => ⟨reached.1, reached.2, rfl, h⟩, fun ⟨more, q, heq, h⟩ => ?_⟩
      cases heq
      exact h

/-- A single dot leads nowhere else. -/
theorem walk_cons_dot (hp : t.get? p = some .directory) (links : Nat) (names : List String) :
    t.walk links p ("." :: names) = t.walk links p names :=
  walk_cons_of_name hp rfl links names

/-! ## Other trees -/

/-- One tree has the links of another one, and its directories at least. -/
structure KeepsWays (t t' : FileTree) : Prop where
  links : t'.links = t.links
  directories : ∀ q, t.get? q = some .directory → t'.get? q = some .directory

theorem KeepsWays.refl (t : FileTree) : KeepsWays t t :=
  ⟨rfl, fun _ h => h⟩

theorem KeepsWays.trans {t'' : FileTree} (h : KeepsWays t t') (h' : KeepsWays t' t'') :
    KeepsWays t t'' :=
  ⟨h'.links.trans h.links, fun q hq => h'.directories q (h.directories q hq)⟩

theorem KeepsWays.link?_eq (h : KeepsWays t t') (p : Place) (n : String) :
    t'.link? p n = t.link? p n := by
  rw [link?, link?, h.links]

/-- Names that lead somewhere still lead there. -/
theorem KeepsWays.walk (h : KeepsWays t t') (hwalk : t.walk links p names = .ok r) :
    t'.walk links p names = .ok r := by
  induction links, p, names using walk_induction with
  | nil links p => rwa [walk_nil] at hwalk ⊢
  | cons links p n names ih ihlinks =>
      have hp := get?_of_walk_cons hwalk
      cases hlink : t.link? p n with
      | none =>
          rw [walk_cons_of_name hp hlink] at hwalk
          rw [walk_cons_of_name (h.directories p hp) (h.link?_eq p n ▸ hlink)]
          exact ih hwalk
      | some target =>
          rw [walk_cons_of_link hp hlink] at hwalk
          rw [walk_cons_of_link (h.directories p hp) (h.link?_eq p n ▸ hlink)]
          cases links with
          | zero => exact hwalk
          | succ links => exact ihlinks links _ _ rfl hwalk

end FileTree

end MarkedVerse
