import MarkedVerse.Proofs.SiblingPaths

/-!
# The directory of a path

Before a file is written, the directories on the way to it are made. Where the path leads to
something, they are there already and nothing is made (`makeDirectories_eq_self`). Where it leads to
nothing, it still does when they have been made, all or the first ones
(`WellFormed.stat_of_makeDirectories`). The second needs a tree in which everything stands in a
directory, and a path that does not step back out of a directory that is missing: once that
directory is made, such a path may lead to any file.
-/

namespace MarkedVerse

/-! ## The names of the directory -/

namespace Path

/-- What is dropped from the end of a path has no name but the single dot. -/
theorem names_dropTail (t : Text) :
    ∃ k, names (String.ofList t.reverse) =
      names (String.ofList (dropTail t).reverse) ++ List.replicate k "." := by
  have hdot : names (String.ofList ['.']) = ["."] :=
    names_of_slash_notMem (by decide) (by decide)
  fun_induction dropTail t with
  | case1 t hempty => exact ⟨0, by simp_all⟩
  | case2 t hne ih =>
      obtain ⟨k, hk⟩ := ih
      refine ⟨k, ?_⟩
      rw [List.reverse_cons, names_append_slash, names_ofList_nil, List.append_nil, hk]
  | case3 t hempty => exact ⟨0, by simp_all⟩
  | case4 t hne ih =>
      obtain ⟨k, hk⟩ := ih
      refine ⟨k + 1, ?_⟩
      rw [List.reverse_cons, List.reverse_cons, List.append_assoc, List.singleton_append,
        names_append_slash, hdot, hk, List.append_assoc, ← List.replicate_succ']
  | case5 t hslash hdot => exact ⟨0, by simp⟩

/-- A name stands at the end of what is left, unless that is a slash alone, or a dot behind one. -/
theorem dropTail_cases (t : Text) :
    dropTail t = ['/'] ∨ dropTail t = ['.', '/'] ∨
      (∀ rest, dropTail t ≠ '/' :: rest) ∧ ∀ rest, dropTail t ≠ '.' :: '/' :: rest := by
  fun_induction dropTail t with
  | case1 | case3 => simp
  | case2 t hne ih | case4 t hne ih => exact ih
  | case5 t hslash hdot => exact .inr (.inr ⟨hslash, hdot⟩)

/-- The names on the way to the directory of a path. -/
def parentNames (path : String) : List String :=
  names ((parent? path).getD "")

/-- What is left of a text from its first slash on stands behind a name. -/
theorem exists_name_of_dropWhile {t : Text} (h : t.dropWhile (· != '/') ≠ []) :
    ∃ name rest, t.dropWhile (· != '/') = '/' :: rest ∧ t = name ++ '/' :: rest ∧ '/' ∉ name := by
  obtain ⟨c, rest, hrest⟩ := List.exists_cons_of_ne_nil h
  have hc : c = '/' := by
    have hhead := List.head_dropWhile_not (· != '/') (l := t) (by simp [hrest])
    simpa [hrest] using hhead
  subst hc
  refine ⟨t.takeWhile (· != '/'), rest, hrest, ?_, fun hmem => ?_⟩
  · rw [← hrest, List.takeWhile_append_dropWhile]
  · simpa using List.mem_takeWhile_imp hmem

/-- A path has the names of its directory and one more, single dots apart. -/
theorem names_eq_parentNames (path : String) :
    parentNames path = [] ∨ ∃ j n k, n ≠ "." ∧
      names path = parentNames path ++ List.replicate j "." ++ n :: List.replicate k "." := by
  obtain ⟨k, hk⟩ := names_dropTail path.toList.reverse
  rw [List.reverse_reverse, String.ofList_toList] at hk
  have hcases := dropTail_cases path.toList.reverse
  unfold parentNames parent?
  generalize dropTail path.toList.reverse = t at hk hcases ⊢
  split
  · exact .inl rfl
  · exact .inl rfl
  · next hnil hslash =>
    split
    · exact .inl rfl
    · next above hfront =>
      obtain ⟨name, rest, hrest, rfl, hname⟩ := exists_name_of_dropWhile hfront
      rw [hrest]
      rcases hcases with hroot | hdot | ⟨hnot, hdots⟩
      · exact absurd hroot hslash
      · -- The path is a dot at the top, whose directory is the top.
        rw [hdot] at hrest
        obtain rfl : rest = [] := by simpa using hrest.symm
        exact .inl rfl
      · right
        obtain ⟨j, hj⟩ := names_dropTail ('/' :: rest)
        rw [List.reverse_cons, names_append_slash, names_ofList_nil, List.append_nil] at hj
        have hne : name ≠ [] := by
          rintro rfl
          exact hnot rest rfl
        have hnotDot : String.ofList name.reverse ≠ "." := by
          intro hdot
          have hlist : name.reverse = ['.'] := by
            rw [← String.toList_ofList (l := name.reverse), hdot]
            rfl
          rw [List.reverse_eq_iff.1 hlist] at hdots
          exact hdots rest rfl
        have hlast : names (String.ofList name.reverse) = [String.ofList name.reverse] :=
          names_of_slash_notMem (by simpa using hne) (by simpa using hname)
        refine ⟨j, String.ofList name.reverse, k, hnotDot, ?_⟩
        rw [hk, List.reverse_append, List.reverse_cons, List.append_assoc, List.singleton_append,
          names_append_slash, hlast, hj]
        simp

end Path

namespace FileTree

variable {t : FileTree} {p q : Place} {e : Entry} {n : String} {front names : List String}
  {path : String} {links more : Nat} {r : Nat × Place}

/-! ## Directories that are there -/

/-- Names that others follow lead to a directory. -/
theorem directory_of_walk_append (h : t.walk links p (front ++ n :: names) = .ok r) :
    ∃ more q, t.walk links p front = .ok (more, q) ∧ t.get? q = some .directory := by
  obtain ⟨more, q, hfront, hnames⟩ := walk_append_eq_ok_iff.1 h
  exact ⟨more, q, hfront, get?_of_walk_cons hnames⟩

/-- A directory that the next name leads to does not have to be made. -/
theorem makeBelow_cons_of_directory (h : t.walk links p [n] = .ok (more, q))
    (hq : t.get? q = some .directory) (made : Bool) (names : List String) :
    t.makeBelow made links p (n :: names) = t.makeBelow made more q names := by
  rw [makeBelow, h]
  simp only [hq]

/-- A directory is made where the next name is no link and leads to nothing. -/
theorem makeBelow_cons_of_missing (hp : t.get? p = some .directory) (hlink : t.link? p n = none)
    (hnone : t.get? (next p n) = none) (made : Bool) (links : Nat) (names : List String) :
    t.makeBelow made links p (n :: names) =
      (t.put (next p n) .directory).makeBelow true links (next p n) names := by
  rw [makeBelow, walk_cons_of_name hp hlink, walk_nil]
  simp only [hnone, hlink, Option.isSome_none, Bool.false_eq_true, if_false]

/-- At the next name, making directories comes to an end and changes nothing, goes on in a directory
that is there, or goes on in one that is made. -/
theorem makeBelow_cons_cases (t : FileTree) (made : Bool) (links : Nat) (p : Place) (n : String)
    (names : List String) :
    (t.makeBelow made links p (n :: names)).1 = t ∨
      (∃ more q, t.walk links p [n] = .ok (more, q) ∧ t.get? q = some .directory ∧
        t.makeBelow made links p (n :: names) = t.makeBelow made more q names) ∨
      t.get? p = some .directory ∧ t.link? p n = none ∧ t.get? (next p n) = none ∧
        t.makeBelow made links p (n :: names) =
          (t.put (next p n) .directory).makeBelow true links (next p n) names := by
  cases hwalk : t.walk links p [n] with
  | error cause =>
      rw [makeBelow, hwalk]
      exact .inl rfl
  | ok reached =>
      obtain ⟨more, q⟩ := reached
      have hp := get?_of_walk_cons hwalk
      match hq : t.get? q with
      | some .directory =>
          exact .inr (.inl ⟨more, q, rfl, hq, makeBelow_cons_of_directory hwalk hq made names⟩)
      | some (.file bytes readOnly) =>
          left
          rw [makeBelow, hwalk]
          simp only [hq]
      | none =>
          cases hlink : t.link? p n with
          | some target =>
              left
              rw [makeBelow, hwalk]
              simp only [hq, hlink, Option.isSome_some, if_true]
          | none =>
              obtain ⟨rfl, rfl⟩ : links = more ∧ next p n = q := by
                simpa [walk_cons_of_name hp hlink] using hwalk
              have hnext := makeBelow_cons_of_missing hp hlink hq made links names
              exact .inr (.inr ⟨hp, rfl, hq, hnext⟩)

/-- Names lead to a directory that is there, so the first ones to be made are those behind it. -/
theorem makeBelow_append (h : t.walk links p front = .ok (more, q))
    (hq : t.get? q = some .directory) (made : Bool) (names : List String) :
    t.makeBelow made links p (front ++ names) = t.makeBelow made more q names := by
  induction front generalizing links p with
  | nil =>
      obtain ⟨rfl, rfl⟩ : links = more ∧ p = q := by simpa using h
      rfl
  | cons n front ih =>
      obtain ⟨left, place, hfirst, hrest⟩ :=
        walk_append_eq_ok_iff.1 (show t.walk links p ([n] ++ front) = .ok (more, q) from h)
      have hplace : t.get? place = some .directory := by
        cases front with
        | nil =>
            obtain ⟨rfl, rfl⟩ : left = more ∧ place = q := by simpa using hrest
            exact hq
        | cons m front => exact get?_of_walk_cons hrest
      rw [List.cons_append, makeBelow_cons_of_directory hfirst hplace, ih hrest]

/-- Names lead to a directory that is there, so none on the way to it has to be made. -/
theorem makeBelow_eq_self (h : t.walk links p names = .ok (more, q))
    (hq : t.get? q = some .directory) (made : Bool) :
    t.makeBelow made links p names = (t, .ok ()) := by
  rw [← List.append_nil names, makeBelow_append h hq, makeBelow]

/-- The directories above what a path leads to are there. -/
theorem makeDirectories_eq_self (h : t.stat path = .ok e) (count : Nat) :
    t.makeDirectories ((Path.parentNames path).take count) = (t, .ok ()) := by
  obtain ⟨p, hresolve, -⟩ := stat_eq_ok_iff.1 h
  obtain ⟨-, ⟨links, hwalk⟩, -⟩ := resolve_eq_ok_iff.1 hresolve
  obtain hnone | ⟨j, n, k, -, hnames⟩ := Path.names_eq_parentNames path
  · rw [hnone, List.take_nil]
    rfl
  · -- At least one more name is followed from the last of the directories.
    obtain ⟨m, rest, hmore⟩ : ∃ m rest, (Path.parentNames path).drop count ++
        (List.replicate j "." ++ n :: List.replicate k ".") = m :: rest :=
      List.exists_cons_of_ne_nil (by simp)
    rw [hnames, List.append_assoc, ← List.take_append_drop count (Path.parentNames path),
      List.append_assoc, hmore] at hwalk
    obtain ⟨more, q, hfront, hq⟩ := directory_of_walk_append hwalk
    exact makeBelow_eq_self hfront hq false

/-! ## Directories that are made -/

/-- A directory is put where nothing stands. -/
theorem keepsWays_put_directory (hnone : t.get? p = none) :
    KeepsWays t (t.put p .directory) :=
  keepsWays_put (by simp [hnone]) _

/-- Making directories leaves those that are there. -/
theorem keepsWays_makeBelow (t : FileTree) (made : Bool) (links : Nat) (p : Place)
    (names : List String) : KeepsWays t (t.makeBelow made links p names).1 := by
  induction names generalizing t made links p with
  | nil => exact .refl t
  | cons n names ih =>
      obtain hsame | ⟨more, q, -, -, hgoes⟩ | ⟨-, -, hnone, hmade⟩ :=
        makeBelow_cons_cases t made links p n names
      · rw [hsame]
        exact .refl t
      · rw [hgoes]
        exact ih t made more q
      · rw [hmade]
        exact (keepsWays_put_directory hnone).trans (ih _ true links _)

/-- There is nothing below a place. -/
def Free (t : FileTree) (p : Place) : Prop :=
  ∀ l, l ≠ [] → t.get? (p ++ l) = none ∧ t.links.lookup (p ++ l) = none

theorem Free.link?_eq_none (h : t.Free p) (n : String) : t.link? p n = none := by
  rw [link?, (h [n] (List.cons_ne_nil n [])).2, ite_self]

/-- A directory that is put where nothing stands is free when nothing stands below it either. -/
theorem Free.put (h : t.Free (p ++ [n])) : (t.put (p ++ [n]) .directory).Free (p ++ [n]) := by
  intro l hl
  rw [get?_put_other _ _ (by simpa using hl)]
  exact h l hl

/-- All directories have been made along names, and there is nothing below the last one. -/
def IsMade (result : FileTree × Except OsError Unit) (links : Nat) (p : Place)
    (names : List String) : Prop :=
  result.2 = .ok () ∧ ∃ more q, result.1.walk links p names = .ok (more, q) ∧
    result.1.get? q = some .directory ∧ result.1.Free q

/-- What is made behind a name is made along that name. -/
theorem IsMade.cons {result : FileTree × Except OsError Unit}
    (h : IsMade result more q names) (hwalk : result.1.walk links p [n] = .ok (more, q)) :
    IsMade result links p (n :: names) := by
  obtain ⟨hok, left, place, hrest, hplace⟩ := h
  exact ⟨hok, left, place, walk_append_eq_ok_iff.2 ⟨more, q, hwalk, hrest⟩, hplace⟩

/-- In a free directory all further directories can be made. -/
theorem isMade_of_free (hback : ".." ∉ names) (hp : t.get? p = some .directory)
    (hfree : t.Free p) (made : Bool) (links : Nat) :
    IsMade (t.makeBelow made links p names) links p names := by
  induction names generalizing t p made with
  | nil => exact ⟨rfl, links, p, walk_nil _ _ _, hp, hfree⟩
  | cons n names ih =>
      obtain ⟨hn, hnames⟩ := List.ne_and_not_mem_of_not_mem_cons hback
      have hlink := hfree.link?_eq_none n
      have hnext : t.walk links p [n] = .ok (links, next p n) := by
        rw [walk_cons_of_name hp hlink, walk_nil]
      by_cases hdot : n = "."
      · have hsame : next p n = p := by simp [next, hdot]
        rw [hsame] at hnext
        rw [makeBelow_cons_of_directory hnext hp]
        exact (ih hnames hp hfree made).cons ((keepsWays_makeBelow _ _ _ _ _).walk hnext)
      · have hplace : next p n = p ++ [n] := by simp [next, hdot, Ne.symm hn]
        have hnone : t.get? (next p n) = none := by
          rw [hplace]
          exact (hfree [n] (List.cons_ne_nil n [])).1
        have hbelow : t.Free (p ++ [n]) := fun l hl => by
          rw [List.append_assoc]
          exact hfree _ (by simp)
        rw [makeBelow_cons_of_missing hp hlink hnone]
        rw [hplace] at hnone hnext ⊢
        refine (ih hnames (get?_put_same t _ (by simp)) hbelow.put true).cons ?_
        exact (keepsWays_makeBelow _ _ _ _ _).walk ((keepsWays_put_directory hnone).walk hnext)

/-! ## Trees in which everything stands in a directory -/

/-- Everything stands in a directory, links included. -/
structure WellFormed (t : FileTree) : Prop where
  entries : ∀ p n, t.get? (p ++ [n]) ≠ none → t.get? p = some .directory
  links : ∀ p n, t.links.lookup (p ++ [n]) ≠ none → t.get? p = some .directory

theorem exists_mem_of_lookup {α : Type} {pairs : List (Place × α)}
    (h : pairs.lookup p ≠ none) : ∃ x, (p, x) ∈ pairs := by
  obtain ⟨x, hx⟩ := Option.ne_none_iff_exists'.1 h
  obtain ⟨front, back, hpairs, -⟩ := List.lookup_eq_some_iff.1 hx
  exact ⟨x, by simp [hpairs]⟩

/-- It is enough to look at what the tree was put together from. -/
theorem wellFormed_of_mem
    (hentries : ∀ entry ∈ t.entries, t.get? entry.1.dropLast = some .directory)
    (hlinks : ∀ link ∈ t.links, t.get? link.1.dropLast = some .directory) : WellFormed t where
  entries p n hget := by
    have hlookup : t.entries.lookup (p ++ [n]) ≠ none := by simpa [get?] using hget
    obtain ⟨e, hmem⟩ := exists_mem_of_lookup hlookup
    simpa using hentries _ hmem
  links p n hlookup := by
    obtain ⟨target, hmem⟩ := exists_mem_of_lookup hlookup
    simpa using hlinks _ hmem

/-- Above whatever there is stand directories. -/
theorem WellFormed.get?_of_append (h : WellFormed t) (hne : q ≠ [])
    (hq : t.get? (p ++ q) ≠ none) : t.get? p = some .directory := by
  induction q using List.reverseRecOn with
  | nil => exact absurd rfl hne
  | append_singleton q n ih =>
      have hlast : t.get? (p ++ q) = some .directory :=
        h.entries (p ++ q) n (by rwa [List.append_assoc])
      by_cases hnil : q = []
      · rwa [hnil, List.append_nil] at hlast
      · exact ih hnil (by rw [hlast]; exact Option.some_ne_none _)

/-- Below a place where nothing stands there is nothing. -/
theorem WellFormed.free_of_missing (h : WellFormed t) (hp : t.get? p = none) : t.Free p := by
  intro l hl
  constructor
  · by_contra hget
    rw [h.get?_of_append hl hget] at hp
    cases hp
  · by_contra hlookup
    obtain rfl | ⟨front, n, rfl⟩ := List.eq_nil_or_concat' l
    · exact hl rfl
    rw [← List.append_assoc] at hlookup
    have hfront := h.links (p ++ front) n hlookup
    by_cases hnil : front = []
    · rw [hnil, List.append_nil, hp] at hfront
      cases hfront
    · rw [h.get?_of_append hnil (by rw [hfront]; exact Option.some_ne_none _)] at hp
      cases hp

/-- Making directories along names that do not step back changes nothing, or all of them are
made. -/
theorem WellFormed.makeBelow_cases (h : WellFormed t) (hback : ".." ∉ names) (links : Nat)
    (p : Place) :
    (t.makeBelow false links p names).1 = t ∨
      IsMade (t.makeBelow false links p names) links p names := by
  induction names generalizing p links with
  | nil => exact .inl rfl
  | cons n names ih =>
      obtain ⟨hn, hnames⟩ := List.ne_and_not_mem_of_not_mem_cons hback
      obtain hsame | ⟨more, q, hwalk, -, hgoes⟩ | ⟨hp, hlink, hnone, hmade⟩ :=
        makeBelow_cons_cases t false links p n names
      · exact .inl hsame
      · rw [hgoes]
        exact (ih hnames more q).imp_right fun hmade =>
          hmade.cons ((keepsWays_makeBelow _ _ _ _ _).walk hwalk)
      · -- Below a place where nothing stands, nothing stands in the way.
        have hdot : n ≠ "." := by
          rintro rfl
          cases hp.symm.trans hnone
        have hnext : next p n = p ++ [n] := by simp [next, hdot, Ne.symm hn]
        have hwalk : t.walk links p [n] = .ok (links, next p n) := by
          rw [walk_cons_of_name hp hlink, walk_nil]
        rw [hmade]
        rw [hnext] at hnone hwalk ⊢
        refine .inr ((isMade_of_free hnames (get?_put_same t _ (by simp))
          (h.free_of_missing hnone).put true links).cons ?_)
        exact (keepsWays_makeBelow _ _ _ _ _).walk ((keepsWays_put_directory hnone).walk hwalk)

/-! ## What is still missing -/

/-- Below a free directory names lead to nothing, single dots apart. -/
theorem walk_of_free (hp : t.get? p = some .directory) (hfree : t.Free p) (hback : ".." ∉ names)
    (hname : ∃ n ∈ names, n ≠ ".") (links : Nat) :
    t.walk links p names = .error .notFound ∨
      ∃ q, t.walk links p names = .ok (links, q) ∧ t.get? q = none := by
  induction names with
  | nil => simp at hname
  | cons n names ih =>
      obtain ⟨hn, hnames⟩ := List.ne_and_not_mem_of_not_mem_cons hback
      by_cases hdot : n = "."
      · rw [hdot, walk_cons_dot hp]
        exact ih hnames (by simpa [hdot] using hname)
      · have hnext : next p n = p ++ [n] := by simp [next, hdot, Ne.symm hn]
        have hnone := (hfree [n] (List.cons_ne_nil n [])).1
        rw [walk_cons_of_name hp (hfree.link?_eq_none n), hnext]
        cases names with
        | nil => exact .inr ⟨_, walk_nil _ _ _, hnone⟩
        | cons m names => exact .inl (walk_cons_of_missing hnone _ _ _)

/-- A path leads to nothing when its names do not lead on, or to a place where nothing stands. -/
theorem stat_eq_notFound (hempty : path.isEmpty = false)
    (h : t.walk maxLinks [] (Path.names path) = .error .notFound ∨
      ∃ links p, t.walk maxLinks [] (Path.names path) = .ok (links, p) ∧ t.get? p = none) :
    t.stat path = .error .notFound := by
  unfold stat resolve
  obtain hwalk | ⟨links, p, hwalk, hnone⟩ := h
  · simp [hempty, hwalk, bind, Except.bind]
  · simp [hempty, hwalk, hnone, bind, Except.bind]

/-- The names of a path lead to a directory that is there, and from there they do not step back. -/
def GoesDown (t : FileTree) (path : String) : Prop :=
  ∃ front back links p, Path.names path = front ++ back ∧
    t.walk maxLinks [] front = .ok (links, p) ∧ t.get? p = some .directory ∧ ".." ∉ back

/-- A path that goes down leads to nothing. After the directories on the way to it have been made,
all or the first ones, it still leads to nothing, and making them once more comes out the same and
changes nothing. -/
theorem WellFormed.stat_of_makeDirectories (h : WellFormed t) (hdown : t.GoesDown path)
    (hstat : t.stat path = .error .notFound) (count : Nat) :
    let made := t.makeDirectories ((Path.parentNames path).take count)
    made.1.stat path = .error .notFound ∧
      made.1.makeDirectories ((Path.parentNames path).take count) = made := by
  generalize hfirst : (Path.parentNames path).take count = first
  intro made
  have hself (hmade : made = (t, .ok ())) :
      made.1.stat path = .error .notFound ∧ made.1.makeDirectories first = made := by
    have htree : made.1 = t := by rw [hmade]
    rw [htree]
    exact ⟨hstat, rfl⟩
  obtain hnone | ⟨j, n, k, hdot, hnames⟩ := Path.names_eq_parentNames path
  · rw [hnone, List.take_nil] at hfirst
    subst hfirst
    exact hself rfl
  have hempty : path.isEmpty = false := by
    by_contra hempty
    obtain rfl : path = "" := by simpa using hempty
    have hnil : Path.names "" = [] := rfl
    simp [hnil] at hnames
  -- The names are those of the directories that are made, and others with a proper one among them.
  obtain ⟨rest, hrest, hmem⟩ : ∃ rest, Path.names path = first ++ rest ∧ n ∈ rest := by
    refine ⟨(Path.parentNames path).drop count ++
      (List.replicate j "." ++ n :: List.replicate k "."), ?_, by simp⟩
    rw [hnames, List.append_assoc, ← hfirst, ← List.append_assoc (List.take _ _),
      List.take_append_drop]
  obtain ⟨front, back, links, p, hsplit, hfront, hp, hback⟩ := hdown
  rw [hrest] at hsplit
  obtain ⟨mid, rfl, -⟩ | ⟨mid, rfl, rfl⟩ := List.append_eq_append_iff.1 hsplit
  · -- All of the directories are there.
    cases mid with
    | nil =>
        rw [List.append_nil] at hfront
        exact hself (makeBelow_eq_self hfront hp false)
    | cons m mid =>
        obtain ⟨more, q, hwalk, hq⟩ := directory_of_walk_append hfront
        exact hself (makeBelow_eq_self hwalk hq false)
  · have hmade : made = t.makeBelow false links p mid := makeBelow_append hfront hp false mid
    have hways : KeepsWays t made.1 := keepsWays_makeBelow _ _ _ _ _
    simp only [List.mem_append, not_or] at hback
    obtain hsame | hall := h.makeBelow_cases hback.1 links p
    · rw [← hmade] at hsame
      refine ⟨by rwa [hsame], ?_⟩
      rw [hsame]
    · rw [← hmade] at hall
      obtain ⟨hok, more, q, hwalk, hq, hfree⟩ := hall
      have hreach : made.1.walk maxLinks [] (front ++ mid) = .ok (more, q) :=
        walk_append_eq_ok_iff.2 ⟨links, p, hways.walk hfront, hwalk⟩
      constructor
      · refine stat_eq_notFound hempty ?_
        rw [hrest, walk_append, hreach]
        show made.1.walk more q rest = _ ∨ ∃ links p, made.1.walk more q rest = _ ∧ _
        exact (walk_of_free hq hfree hback.2 ⟨n, hmem, hdot⟩ more).imp_right
          fun ⟨place, hplace⟩ => ⟨more, place, hplace⟩
      · exact (makeBelow_eq_self hreach hq false).trans (by rw [← hok])

end FileTree

end MarkedVerse
