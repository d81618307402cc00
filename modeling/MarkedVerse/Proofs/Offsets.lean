import MarkedVerse.Proofs.Places

/-!
# Byte offsets

A place in a text may be counted in bytes. A text can only be cut between two characters or at one
of its ends, so cutting at an offset may fail; `cutAt?_eq_some_iff` says when it does not, and what
the two parts are. Where a text can be cut, the offset in bytes has a position in characters
(`position_append`).
-/

namespace MarkedVerse

namespace Text

/-- The offset lies between two characters of the text, or at one of its ends. -/
def IsBoundary (t : Text) (offset : Nat) : Prop :=
  ∃ front behind, t = front ++ behind ∧ byteLength front = offset

/-- The two parts of a text on either side of an offset. No character is cut. -/
def cutAt? : (offset : Nat) → Text → Option (Text × Text)
  | 0, t => some ([], t)
  | _ + 1, [] => none
  | offset + 1, c :: t =>
    if c.utf8Size ≤ offset + 1 then
      (cutAt? (offset + 1 - c.utf8Size) t).map fun (front, behind) => (c :: front, behind)
    else none

/-- The part of a text from one offset up to another one. -/
def slice? (start stop : Nat) (t : Text) : Option Text := do
  let (front, _) ← cutAt? stop t
  let (_, middle) ← cutAt? start front
  some middle

/-- The number of characters in front of an offset. -/
def position (t : Text) (offset : Nat) : Nat :=
  ((cutAt? offset t).map fun parts => parts.1.length).getD 0

variable {t front behind : Text} {offset : Nat}

theorem byteLength_append (t u : Text) : byteLength (t ++ u) = byteLength t + byteLength u :=
  isSize_byteLength.append t u

/-- A text is cut behind any of its fronts. -/
theorem cutAt?_append (front behind : Text) :
    cutAt? (byteLength front) (front ++ behind) = some (front, behind) := by
  induction front with
  | nil =>
      show cutAt? 0 behind = some ([], behind)
      rw [cutAt?]
  | cons c front ih =>
      have hpos := Char.utf8Size_pos c
      have hlength : byteLength (c :: front) = c.utf8Size + byteLength front := rfl
      obtain ⟨n, hn⟩ := Nat.exists_eq_add_one_of_ne_zero (n := byteLength (c :: front)) (by omega)
      have hrest : n + 1 - c.utf8Size = byteLength front := by omega
      rw [hn, List.cons_append, cutAt?, if_pos (by omega), hrest, ih]
      rfl

/-- A text is cut at an offset exactly when the first part has this size. -/
theorem cutAt?_eq_some_iff :
    cutAt? offset t = some (front, behind) ↔ t = front ++ behind ∧ byteLength front = offset := by
  constructor
  · intro h
    fun_induction cutAt? offset t generalizing front behind with
    | case1 t =>
        cases h
        exact ⟨rfl, rfl⟩
    | case2 offset => cases h
    | case3 offset c t hle ih =>
        obtain ⟨⟨front, behind⟩, hrest, heq⟩ := Option.map_eq_some_iff.1 h
        cases heq
        obtain ⟨rfl, hlength⟩ := ih hrest
        refine ⟨rfl, ?_⟩
        show c.utf8Size + byteLength front = offset + 1
        omega
    | case4 offset c t hlt => cases h
  · rintro ⟨rfl, rfl⟩
    exact cutAt?_append front behind

/-- A text can be cut at the offsets between its characters. -/
theorem isSome_cutAt?_iff : (cutAt? offset t).isSome = true ↔ IsBoundary t offset := by
  constructor
  · intro h
    obtain ⟨⟨front, behind⟩, hcut⟩ := Option.isSome_iff_exists.1 h
    exact ⟨front, behind, cutAt?_eq_some_iff.1 hcut⟩
  · rintro ⟨front, behind, rfl, rfl⟩
    rw [cutAt?_append]
    rfl

instance (t : Text) (offset : Nat) : Decidable (IsBoundary t offset) :=
  decidable_of_iff _ isSome_cutAt?_iff

/-- What stands between two texts is the slice between their offsets. -/
theorem slice?_append (front middle behind : Text) :
    slice? (byteLength front) (byteLength front + byteLength middle) (front ++ middle ++ behind) =
      some middle := by
  rw [slice?, ← byteLength_append, cutAt?_append]
  show (cutAt? (byteLength front) (front ++ middle) >>= _) = _
  rw [cutAt?_append]
  rfl

/-- The position behind a front is its number of characters. -/
theorem position_append (front behind : Text) :
    position (front ++ behind) (byteLength front) = front.length := by
  rw [position, cutAt?_append]
  rfl

/-- Of two places in a text, the one further behind has more characters in front of it. -/
theorem position_lt {first second : Nat} (hfirst : IsBoundary t first)
    (hsecond : IsBoundary t second) (hlt : first < second) :
    position t first < position t second := by
  obtain ⟨front, behind, rfl, rfl⟩ := hfirst
  obtain ⟨longer, rest, ht, rfl⟩ := hsecond
  obtain ⟨middle, rfl, -⟩ := isSize_byteLength.exists_front ht (Nat.le_of_lt hlt)
  have hmiddle : middle ≠ [] := by
    rintro rfl
    rw [List.append_nil] at hlt
    exact Nat.lt_irrefl _ hlt
  rw [position_append, ht, position_append, List.length_append]
  exact Nat.lt_add_of_pos_right (List.length_pos_iff.2 hmiddle)

end Text

end MarkedVerse
