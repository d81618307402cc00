import Mathlib.Data.List.Nodup
import MarkedVerse.Config

/-!
# The order of a catalog

No two patterns of a catalog have the same name. So going from a name to the pattern behind it goes
through the catalog in order, and round (`Catalog.Ordered.nextAfter_nameAt`). A pattern that is
added takes the place of its name or a new one behind all others (`Catalog.keys_insertPattern`), and
the patterns of the beginning are different, so it is like this in every configuration
(`Config.ordered_catalog`).
-/

namespace MarkedVerse

/-- The name of a pattern, in the case in which names are compared. -/
def Pattern.key (p : Pattern) : Text :=
  Text.lower p.name.toList

theorem Pattern.sameName_iff {p q : Pattern} :
    Text.sameName p.name q.name = true ↔ p.key = q.key := by
  rw [Text.sameName, beq_iff_eq, key, key]

namespace Catalog

variable {c : Catalog} {p q : Pattern} {patterns : List Pattern}

/-! ## Adding a pattern -/

/-- A pattern takes the place of its name, or a new one behind all others. -/
theorem keys_insertPattern (p : Pattern) (patterns : List Pattern) :
    (insertPattern p patterns).map Pattern.key =
      if p.key ∈ patterns.map Pattern.key then patterns.map Pattern.key
      else patterns.map Pattern.key ++ [p.key] := by
  induction patterns with
  | nil => rfl
  | cons q patterns ih =>
      rw [insertPattern]
      split
      · next hsame => simp [Pattern.sameName_iff.1 hsame]
      · next hother =>
          have hkey : p.key ≠ q.key := fun h => hother (Pattern.sameName_iff.2 h.symm)
          rw [List.map_cons, ih]
          by_cases hmem : p.key ∈ patterns.map Pattern.key
          · rw [if_pos hmem, List.map_cons, if_pos (List.mem_cons_of_mem _ hmem)]
          · rw [if_neg hmem, List.map_cons, if_neg (List.not_mem_cons_of_ne_of_not_mem hkey hmem),
              List.cons_append]

/-- Nothing but the pattern is added. -/
theorem mem_insertPattern (h : q ∈ insertPattern p patterns) : q = p ∨ q ∈ patterns := by
  induction patterns with
  | nil => exact .inl (List.mem_singleton.1 h)
  | cons r patterns ih =>
      rw [insertPattern] at h
      split at h
      · exact (List.mem_cons.1 h).imp_right (List.mem_cons_of_mem r)
      · rcases List.mem_cons.1 h with rfl | hmem
        · exact .inr List.mem_cons_self
        · exact (ih hmem).imp_right (List.mem_cons_of_mem r)

/-- The names of a catalog are all different, each of its patterns has styles, and there is at least
one. -/
structure Ordered (c : Catalog) : Prop where
  names : (c.patterns.map Pattern.key).Nodup
  styles : ∀ p ∈ c.patterns, p.styles ≠ []
  nonempty : 0 < c.size

theorem ordered_builtin : Ordered builtin :=
  ⟨by decide +kernel, by decide, by decide⟩

/-- Adding a pattern makes no name occur twice. -/
theorem nodup_keys_insertPattern (p : Pattern) (h : (patterns.map Pattern.key).Nodup) :
    ((insertPattern p patterns).map Pattern.key).Nodup := by
  rw [keys_insertPattern]
  split
  · exact h
  · next hnew => exact List.nodup_append_comm.1 (List.nodup_cons.2 ⟨hnew, h⟩)

theorem insertPattern_ne_nil (p : Pattern) (patterns : List Pattern) :
    insertPattern p patterns ≠ [] := by
  cases patterns with
  | nil => exact List.cons_ne_nil _ _
  | cons q patterns =>
      rw [insertPattern]
      split <;> exact List.cons_ne_nil _ _

theorem Ordered.add (h : Ordered c) (p : Pattern) : Ordered (c.add p) := by
  unfold Catalog.add
  split
  · next husable =>
      have hp : p.styles ≠ [] := by simpa [Pattern.isUsable] using husable
      refine ⟨nodup_keys_insertPattern p h.names, fun q hq => ?_,
        List.length_pos_iff.2 (insertPattern_ne_nil p _)⟩
      rcases mem_insertPattern hq with rfl | hmem
      · exact hp
      · exact h.styles q hmem
  · exact h

theorem Ordered.extend (h : Ordered c) (patterns : List Pattern) : Ordered (c.extend patterns) := by
  induction patterns generalizing c with
  | nil => exact h
  | cons p patterns ih => exact ih (h.add p)

/-! ## Going round -/

/-- A pattern is found by its name. -/
theorem Ordered.findIdx?_eq (h : Ordered c) {i : Nat} (hp : c.patterns[i]? = some p) :
    (c.patterns.findIdx? fun q => Text.sameName q.name p.name) = some i := by
  obtain ⟨hi, rfl⟩ := List.getElem?_eq_some_iff.1 hp
  rw [List.findIdx?_eq_some_iff_getElem]
  refine ⟨hi, Pattern.sameName_iff.2 rfl, fun j hj hsame => ?_⟩
  -- A pattern in front would have a name that occurs twice.
  have hj' : j < (c.patterns.map Pattern.key).length := by
    rw [List.length_map]
    omega
  have hi' : i < (c.patterns.map Pattern.key).length := by rwa [List.length_map]
  have hkeys : (c.patterns.map Pattern.key)[j] = (c.patterns.map Pattern.key)[i] := by
    rw [List.getElem_map, List.getElem_map]
    exact Pattern.sameName_iff.1 hsame
  have hji := h.names.getElem_inj_iff.1 hkeys
  omega

/-- The name of the pattern that `n` steps through a catalog lead to, the first of which is to its
beginning. -/
def nameAt (c : Catalog) : Nat → Option String
  | 0 => none
  | n + 1 => (c.patterns[n % c.size]?).map Pattern.name

/-- There is a pattern at every step. -/
theorem Ordered.exists_pattern (h : Ordered c) (n : Nat) :
    ∃ p, c.patterns[n % c.size]? = some p ∧ p.styles ≠ [] := by
  have hlt : n % c.size < c.patterns.length := Nat.mod_lt n h.nonempty
  exact ⟨_, List.getElem?_eq_getElem hlt, h.styles _ (List.getElem_mem hlt)⟩

/-- One step leads from each pattern to the next one. -/
theorem Ordered.nextAfter_nameAt (h : Ordered c) (n : Nat) :
    c.nextAfter (c.nameAt n) = c.patterns[n % c.size]? := by
  cases n with
  | zero =>
      rw [nameAt, nextAfter, Option.bind_none, Nat.zero_mod, List.head?_eq_getElem?]
  | succ n =>
      obtain ⟨p, hp, -⟩ := h.exists_pattern n
      -- Looking the last name up leads back to where it was read.
      rw [nameAt, hp, Option.map_some, nextAfter, Option.bind_some, h.findIdx?_eq hp]
      change c.patterns[(n % c.size + 1) % c.size]? = _
      rw [Nat.mod_add_mod]

end Catalog

/-- The catalog of every configuration is in order. -/
theorem Config.ordered_catalog (config : Config) : config.catalog.Ordered :=
  Catalog.ordered_builtin.extend config.templates

end MarkedVerse
