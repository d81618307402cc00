import MarkedVerse.Proofs.ValidConfig

/-!
# Looking a template up

What is found under a name is the last usable pattern of this name that was added, and without one
the built-in pattern (`Catalog.find?_extend`). The names of a catalog are all different, so going on
from each pattern to the next one by its name leads through the whole catalog and then round
(`Catalog.Ordered.reached_eq`). Both hold however often a catalog is extended
(`Catalog.extended_catalog_is_consistent`).
-/

namespace MarkedVerse.Catalog

variable {c : Catalog} {patterns : List Pattern}

/-! ## The pattern of a name -/

/-- Under its name an inserted pattern is found, and under every other name what was found
before. -/
theorem find?_insertPattern (p : Pattern) (patterns : List Pattern) (name : String) :
    ((insertPattern p patterns).find? fun q => Text.sameName q.name name) =
      if Text.sameName p.name name then some p
      else patterns.find? fun q => Text.sameName q.name name := by
  have hkey : ∀ q : Pattern, Text.sameName q.name name = (q.key == Text.lower name.toList) :=
    fun _ => rfl
  induction patterns with
  | nil => rw [insertPattern, List.find?_singleton, List.find?_nil]
  | cons q patterns ih =>
      rw [insertPattern]
      split
      · next hsame =>
          -- The pattern takes the place of one that was found under the same names.
          rw [List.find?_cons, List.find?_cons, hkey, hkey, Pattern.sameName_iff.1 hsame]
          cases p.key == Text.lower name.toList <;> rfl
      · next hother =>
          rw [List.find?_cons, List.find?_cons, ih]
          cases hq : Text.sameName q.name name with
          | false => rfl
          | true =>
              have hp : Text.sameName p.name name = false := by
                rw [hkey, beq_eq_false_iff_ne]
                rw [hkey, beq_iff_eq] at hq
                exact fun hp => hother (Pattern.sameName_iff.2 (hq.trans hp.symm))
              rw [hp]
              rfl

theorem find?_add (c : Catalog) (p : Pattern) (name : String) :
    ((c.add p).patterns.find? fun q => Text.sameName q.name name) =
      if p.isUsable && Text.sameName p.name name then some p
      else c.patterns.find? fun q => Text.sameName q.name name := by
  unfold add
  cases p.isUsable with
  | true => exact find?_insertPattern p c.patterns name
  | false => rfl

/-- What is found under a name is the last usable pattern of this name that was added, or what was
found before. -/
theorem find?_extend (c : Catalog) (patterns : List Pattern) (name : String) :
    ((c.extend patterns).patterns.find? fun q => Text.sameName q.name name) =
      (patterns.filter fun p => p.isUsable && Text.sameName p.name name).getLast?.or
        (c.patterns.find? fun q => Text.sameName q.name name) := by
  induction patterns generalizing c with
  | nil => rfl
  | cons p patterns ih =>
      have hrest : c.extend (p :: patterns) = (c.add p).extend patterns := rfl
      rw [hrest, ih, find?_add, List.filter_cons]
      split
      · rw [List.getLast?_cons, Option.some_or, Option.or_some]
      · rfl

/-- Lists of patterns that are added one after the other are added together. -/
theorem foldl_extend (c : Catalog) (additions : List (List Pattern)) :
    additions.foldl extend c = c.extend additions.flatten := by
  rw [extend, List.foldl_flatten]
  rfl

/-! ## Going on by name -/

/-- The pattern that is reached by going on `n` times: the first step is from no name, and every
later one from the name of the pattern that was reached. -/
def reached (c : Catalog) : Nat → Option Pattern
  | 0 => c.nextAfter none
  | n + 1 => c.nextAfter ((c.reached n).map Pattern.name)

/-- Going on leads through the catalog in order, and round. -/
theorem Ordered.reached_eq (h : Ordered c) (n : Nat) : c.reached n = c.patterns[n % c.size]? := by
  induction n with
  | zero => exact h.nextAfter_nameAt 0
  | succ n ih =>
      have hname : (c.reached n).map Pattern.name = c.nameAt (n + 1) := by rw [ih, nameAt]
      rw [reached, hname, h.nextAfter_nameAt]

/-- The patterns that are reached first are those of the catalog, in order. -/
theorem Ordered.map_reached_range (h : Ordered c) :
    (List.range c.size).map c.reached = c.patterns.map some := by
  refine List.ext_getElem (by simp [size]) fun i hi _ => ?_
  have hlt : i < c.size := by simpa using hi
  rw [List.getElem_map, List.getElem_range, List.getElem_map, h.reached_eq, Nat.mod_eq_of_lt hlt]
  exact List.getElem?_eq_getElem hlt

/-! ## Every catalog -/

/-- However often the catalog of the built-in patterns is extended, and with whatever patterns: no
two patterns of it have the same name, each has styles, and there is one for every built-in name.
Under a name it has the last usable pattern of this name that was added, or else the built-in one,
or else none. Going on from no name, and then from the name of each pattern that is reached, leads
to every pattern once, in the order of the catalog, before the first one is reached again, and so
on. -/
theorem extended_catalog_is_consistent (additions : List (List Pattern)) :
    let c := additions.foldl extend builtin
    (c.patterns.Pairwise fun p q => Text.sameName p.name q.name = false) ∧
      (∀ p ∈ c.patterns, p.styles ≠ []) ∧
      c.patterns ≠ [] ∧
      (∀ p ∈ Pattern.builtins, ∃ q, c.get p.name = .ok q) ∧
      (∀ name, c.get name =
        match (additions.flatten.filter fun p =>
            p.isUsable && Text.sameName p.name name).getLast?.or
          (Pattern.builtins.find? fun p => Text.sameName p.name name) with
        | some p => .ok p
        | none => .error (.unknownTemplate name)) ∧
      (List.range c.size).map c.reached = c.patterns.map some ∧
      ∀ n, c.reached (n + c.size) = c.reached n := by
  intro c
  have hc : c = builtin.extend additions.flatten := foldl_extend builtin additions
  have hordered : Ordered c := hc ▸ ordered_builtin.extend additions.flatten
  refine ⟨?_, hordered.styles, List.length_pos_iff.1 hordered.nonempty, fun p hp => ?_,
    fun name => ?_, hordered.map_reached_range, fun n => ?_⟩
  · have hkeys := List.pairwise_map.1 hordered.names
    exact hkeys.imp fun hne => Bool.eq_false_iff.2 fun hsame => hne (Pattern.sameName_iff.1 hsame)
  · have hbuiltin : ∃ q, builtin.get p.name = .ok q :=
      exists_get_iff.2 (List.mem_map.2 ⟨p, hp, rfl⟩)
    exact hc ▸ exists_get_extend hbuiltin additions.flatten
  · rw [get, hc, find?_extend]
    rfl
  · rw [hordered.reached_eq, hordered.reached_eq, Nat.add_mod_right]

/-- A name in other letters is the same name, and a pattern without styles is not added. -/
example :
    (builtin.extend [⟨"Ghazal", [.left], ""⟩, ⟨"GHAZAL", [], ""⟩]).get "ghazal" =
      .ok ⟨"Ghazal", [.left], ""⟩ := by
  rfl

end MarkedVerse.Catalog
