import MarkedVerse.Proofs.TreeWrites
import MarkedVerse.Proofs.VerseLines

/-!
# Paths beside a path

The path of a file ends in a name (`exists_endsIn`). With another extension only that name changes
(`exists_endsIn_withExtension`), so the new path can mean a file as well
(`wantsDirectory_withExtension`). Where there are no links, it means a place in the directory of the
file, whether something stands there or not (`resolve_withExtension`).
-/

namespace MarkedVerse

namespace Path

/-- The path has a last name, and `front` stands in front of it. -/
structure EndsIn (path : String) (front name : Text) : Prop where
  eq : path.toList = front ++ name
  front_ends : front = [] ∨ ∃ above, front = above ++ ['/']
  nonempty : name ≠ []
  oneName : '/' ∉ name

/-- A name that means neither the directory itself nor the one above it. -/
structure IsProper (name : Text) : Prop where
  not_dot : name ≠ ['.']
  not_dots : name ≠ ['.', '.']

variable {path : String} {front name : Text}

/-- The names in a text that stands for a path. -/
theorem names_ofList (t : Text) :
    names (String.ofList t) =
      ((List.splitOn '/' t).filter fun n => !n.isEmpty).map String.ofList := by
  rw [names, String.toList_ofList, Text.splitOn_eq]

theorem names_ofList_nil : names (String.ofList []) = [] :=
  (names_ofList []).trans rfl

/-- The names behind a slash come after those in front of it. -/
theorem names_append_slash (above name : Text) :
    names (String.ofList (above ++ '/' :: name)) =
      names (String.ofList above) ++ names (String.ofList name) := by
  simp only [names_ofList, List.splitOn_append_cons_self, List.filter_append, List.map_append]

/-- A name without a slash is the only name of its path. -/
theorem names_of_slash_notMem (hne : name ≠ []) (h : '/' ∉ name) :
    names (String.ofList name) = [String.ofList name] := by
  simp [names_ofList, List.splitOn_eq_singleton h, hne]

/-- The names of a path are those in front of the last one, and the last one. -/
theorem EndsIn.names_eq (h : EndsIn path front name) :
    names path = names (String.ofList front) ++ [String.ofList name] := by
  have hname := names_of_slash_notMem h.nonempty h.oneName
  have hpath : path = String.ofList (front ++ name) := by rw [← h.eq, String.ofList_toList]
  rcases h.front_ends with hfront | ⟨above, hfront⟩
  · rw [hpath, hfront, List.nil_append, hname, names_ofList_nil, List.nil_append]
  · rw [hpath, hfront, List.append_assoc, List.singleton_append, names_append_slash,
      names_append_slash, hname, names_ofList_nil, List.append_nil]

/-- A proper name is none of the dots. -/
theorem IsProper.ofList_ne (h : IsProper name) :
    String.ofList name ≠ "." ∧ String.ofList name ≠ ".." := by
  constructor
  · exact fun heq => h.not_dot (by rw [← String.toList_ofList (l := name), heq]; rfl)
  · exact fun heq => h.not_dots (by rw [← String.toList_ofList (l := name), heq]; rfl)

/-- A path that ends in a proper name can mean a file. -/
theorem EndsIn.wantsDirectory_eq_false (h : EndsIn path front name) (hname : IsProper name) :
    wantsDirectory path = false := by
  have hlast : path.toList.getLast? ≠ some '/' := by
    rw [h.eq, List.getLast?_append_of_ne_nil _ h.nonempty]
    exact fun hslash => h.oneName (List.mem_of_getLast? hslash)
  obtain ⟨hdot, hdots⟩ := hname.ofList_ne
  simp [wantsDirectory, h.names_eq, hlast, hdot, hdots]

/-- A path that can mean a file ends in a proper name. -/
theorem exists_endsIn (hne : path.isEmpty = false) (h : wantsDirectory path = false) :
    ∃ front name, EndsIn path front name ∧ IsProper name := by
  rw [wantsDirectory, Bool.or_eq_false_iff] at h
  obtain ⟨hslash, hdots⟩ := h
  have hpath : path.toList ≠ [] := by simpa using hne
  have hends : EndsIn path (path.toList.rdropWhile (· != '/'))
      (path.toList.rtakeWhile (· != '/')) := by
    refine ⟨List.rdropWhile_append_rtakeWhile.symm, ?_, fun hnil => ?_, fun hmem => ?_⟩
    · by_cases hnil : path.toList.rdropWhile (· != '/') = []
      · exact .inl hnil
      · have hlast := List.rdropWhile_last_not (· != '/') path.toList hnil
        refine .inr ⟨(path.toList.rdropWhile (· != '/')).dropLast, ?_⟩
        conv_lhs => rw [← List.dropLast_append_getLast hnil]
        simpa using hlast
    · have hlast := List.rtakeWhile_eq_nil_iff.1 hnil hpath
      rw [List.getLast?_eq_some_getLast hpath] at hslash
      simp_all
    · simpa using List.mem_rtakeWhile_imp hmem
  refine ⟨_, _, hends, fun hdot => ?_, fun htwo => ?_⟩
  · rw [hends.names_eq, hdot] at hdots
    simp at hdots
  · rw [hends.names_eq, htwo] at hdots
    simp at hdots

/-! ## Another extension -/

/-- There is nothing to drop behind a proper name. -/
theorem dropTail_reverse (h : EndsIn path front name) (hname : IsProper name) :
    dropTail path.toList.reverse = name.reverse ++ front.reverse := by
  rw [h.eq, List.reverse_append]
  have hslash : '/' ∉ name.reverse := fun hmem => h.oneName (List.mem_reverse.1 hmem)
  have hdot : name.reverse ≠ ['.'] := fun heq =>
    hname.not_dot (by rw [← List.reverse_reverse name, heq]; rfl)
  obtain ⟨c, cs, hcs⟩ := List.exists_cons_of_ne_nil (mt List.reverse_eq_nil_iff.1 h.nonempty)
  rw [hcs] at hslash hdot ⊢
  rw [dropTail.eq_def]
  split
  · simp_all
  · rename_i rest heq
    cases cs <;> simp_all
  · rfl

/-- With another extension, a path still ends in a proper name, and in front of it nothing has
changed. -/
theorem exists_endsIn_withExtension (h : EndsIn path front name) (hname : IsProper name)
    {extension : String} (hextension : '/' ∉ extension.toList)
    (hlong : 1 < extension.toList.length) :
    ∃ other, EndsIn (withExtension path extension) front other ∧ IsProper other := by
  have hkeep : ∀ c ∈ name.reverse, (c != '/') = true := by
    intro c hc
    have hne : c ≠ '/' := fun heq => h.oneName (List.mem_reverse.1 (heq ▸ hc))
    simpa using hne
  have hfront : front.reverse.takeWhile (· != '/') = [] ∧
      front.reverse.dropWhile (· != '/') = front.reverse := by
    rcases h.front_ends with rfl | ⟨above, rfl⟩ <;> simp
  have hproper : ¬(name.reverse.isEmpty || name.reverse == ['.'] ||
      name.reverse == ['.', '.']) = true := by
    simp [h.nonempty, List.reverse_eq_iff, hname.not_dot, hname.not_dots]
  -- Whatever is left of the name in front of the new extension, it is part of the name.
  have hends (stem : Text) (hstem : stem ⊆ name.reverse) :
      ∃ other, EndsIn (String.ofList (front ++ stem.reverse) ++ "." ++ extension) front other ∧
        IsProper other := by
    refine ⟨stem.reverse ++ '.' :: extension.toList,
      ⟨by simp, h.front_ends, by simp, fun hmem => ?_⟩, fun heq => ?_, fun heq => ?_⟩
    · have hcases : '/' ∈ stem ∨ '/' ∈ extension.toList := by simpa using hmem
      exact hcases.elim (fun hslash => by simpa using hkeep _ (hstem hslash)) hextension
    all_goals
      have hlength := congrArg List.length heq
      simp only [List.length_append, List.length_cons, List.length_nil] at hlength
      omega
  have hdrop : name.reverse.dropWhile (· != '.') ⊆ name.reverse := List.dropWhile_subset _
  rw [withExtension, dropTail_reverse h hname]
  simp only [List.takeWhile_append_of_pos hkeep, List.dropWhile_append_of_pos hkeep, hfront.1,
    hfront.2, List.append_nil, List.reverse_reverse]
  rw [if_neg hproper]
  split
  · exact hends _ (List.Subset.refl _)
  · next stem heq => exact hends _ fun c hc => hdrop (heq ▸ List.mem_cons_of_mem _ hc)
  · exact hends _ (List.Subset.refl _)

/-- With another extension, a path can still mean a file. -/
theorem wantsDirectory_withExtension (hne : path.isEmpty = false)
    (hfile : wantsDirectory path = false) {extension : String}
    (hextension : '/' ∉ extension.toList) (hlong : 1 < extension.toList.length) :
    wantsDirectory (withExtension path extension) = false := by
  obtain ⟨front, name, hends, hname⟩ := exists_endsIn hne hfile
  obtain ⟨other, hother, hproper⟩ := exists_endsIn_withExtension hends hname hextension hlong
  exact hother.wantsDirectory_eq_false hproper

end Path

/-! ## Places -/

namespace FileTree

variable {t : FileTree} {p : Place} {path : String}

/-- A name that is neither made of dots nor a link leads to its place in a directory. -/
theorem walk_singleton {n : String} (hdot : n ≠ ".") (hdots : n ≠ "..")
    (hlink : t.link? p n = none) {links more : Nat} {q : Place} :
    t.walk links p [n] = .ok (more, q) ↔
      t.get? p = some .directory ∧ links = more ∧ p ++ [n] = q := by
  cases hp : t.get? p with
  | none => simp [walk_cons_of_missing hp]
  | some e =>
      cases e with
      | file bytes readOnly => simp [walk_cons_of_file hp]
      | directory => simp [walk_cons_of_name hp hlink, next, hdot, hdots]

/-- Without links, a path that ends in a proper name means a place in the directory that the names
in front of it lead to. -/
theorem resolve_eq_ok_iff_of_endsIn (hlinks : ∀ q n, t.link? q n = none) {front name : Text}
    (h : Path.EndsIn path front name) (hname : Path.IsProper name) :
    t.resolve path = .ok p ↔ ∃ links directory,
      t.walk maxLinks [] (Path.names (String.ofList front)) = .ok (links, directory) ∧
        t.get? directory = some .directory ∧ directory ++ [String.ofList name] = p := by
  obtain ⟨hdot, hdots⟩ := hname.ofList_ne
  have hempty : path.isEmpty = false := by
    have hne : path.toList ≠ [] := by simp [h.eq, h.nonempty]
    simpa using hne
  rw [resolve_eq_ok_iff, h.names_eq]
  simp [walk_append_eq_ok_iff, walk_singleton hdot hdots (hlinks _ _), hempty,
    h.wantsDirectory_eq_false hname]

/-- Without links, the path of a file with another extension means a place in the same directory. It
is the same place only when the path has not changed. -/
theorem resolve_withExtension (hlinks : ∀ q n, t.link? q n = none) (h : t.resolve path = .ok p)
    (hfile : Path.wantsDirectory path = false) {extension : String}
    (hextension : '/' ∉ extension.toList) (hlong : 1 < extension.toList.length) :
    ∃ q, t.resolve (Path.withExtension path extension) = .ok q ∧
      (q = p ↔ Path.withExtension path extension = path) := by
  obtain ⟨hempty, -, -⟩ := resolve_eq_ok_iff.1 h
  obtain ⟨front, name, hends, hname⟩ := Path.exists_endsIn hempty hfile
  obtain ⟨other, hother, hproper⟩ :=
    Path.exists_endsIn_withExtension hends hname hextension hlong
  obtain ⟨links, directory, hwalk, hget, rfl⟩ :=
    (resolve_eq_ok_iff_of_endsIn hlinks hends hname).1 h
  refine ⟨_, (resolve_eq_ok_iff_of_endsIn hlinks hother hproper).2
    ⟨links, directory, hwalk, hget, rfl⟩, fun heq => ?_, fun heq => ?_⟩
  · obtain rfl : other = name := by simpa [String.ofList_inj] using heq
    rw [← String.toList_inj, hother.eq, hends.eq]
  · have hlists := hother.eq
    rw [heq, hends.eq] at hlists
    rw [List.append_cancel_left hlists]

end FileTree

end MarkedVerse
