import Mathlib.Data.List.Forall2
import MarkedVerse.Json.Reader
import MarkedVerse.Json.Value
import MarkedVerse.Proofs.GuardedText

/-!
# JSON that was written is read back

`ReadsBack read v x` says that a reader gets `x` from the written form of `v`, whatever blanks stand
in front of it and whatever may follow a value. It holds of scalars (`readsBack_string`,
`readsBack_natural`, `readsBack_bool`), and arrays and records inherit it from their parts
(`ReadsBack.array`, `readsBack_record`), so that each type with a JSON form needs one lemma.
-/

namespace MarkedVerse

namespace Json

/-! ## Blanks and ends -/

/-- A text of blanks between tokens. -/
def IsPadding (t : Text) : Prop :=
  ∀ c ∈ t, isSpace c = true

variable {padding t u rest : Text} {c : Char} {depth : Nat}

theorem isPadding_nil : IsPadding [] :=
  List.forall_mem_nil _

/-- A new line with its blanks is padding. -/
theorem isPadding_newLine (depth : Nat) : IsPadding (JsonValue.newLine depth) := by
  intro c hc
  obtain rfl | hc := List.mem_cons.1 hc
  · rfl
  · rw [List.eq_of_mem_replicate hc]
    rfl

/-- Behind padding, the next token is the first one of the text that follows. -/
theorem skipSpace_append (h : IsPadding padding) (hc : isSpace c = false) (t : Text) :
    skipSpace (padding ++ c :: t) = c :: t := by
  rw [skipSpace, List.dropWhile_append_of_pos h, List.dropWhile_cons_of_neg (by simp [hc])]

/-- What may stand behind a value: nothing, the end of its line, or a comma. -/
def EndsValue (rest : Text) : Prop :=
  rest = [] ∨ (∃ t, rest = '\n' :: t) ∨ ∃ t, rest = ',' :: t

theorem endsValue_nil : EndsValue [] :=
  .inl rfl

theorem endsValue_newLine (depth : Nat) (t : Text) : EndsValue (JsonValue.newLine depth ++ t) :=
  .inr (.inl ⟨_, rfl⟩)

/-- What is written for further elements ends the value in front of them. -/
theorem endsValue_printElements (depth below : Nat) (vs : List JsonValue) (t : Text) :
    EndsValue (JsonValue.printElements depth vs ++ (JsonValue.newLine below ++ t)) := by
  cases vs with
  | nil => exact endsValue_newLine below t
  | cons v vs =>
      rw [JsonValue.printElements]
      exact .inr (.inr ⟨_, rfl⟩)

/-- What is written for further members ends the value in front of them. -/
theorem endsValue_printMembers (depth below : Nat) (ms : List (String × JsonValue)) (t : Text) :
    EndsValue (JsonValue.printMembers depth ms ++ (JsonValue.newLine below ++ t)) := by
  cases ms with
  | nil => exact endsValue_newLine below t
  | cons m ms =>
      rw [JsonValue.printMembers]
      exact .inr (.inr ⟨_, rfl⟩)

/-- A reader gets `x` from the written form of `v`, behind any padding. -/
def ReadsBack {α : Type} (read : Text → Except Fault (α × Text)) (v : JsonValue) (x : α) : Prop :=
  ∀ depth padding rest, IsPadding padding → EndsValue rest →
    read (padding ++ (v.print depth ++ rest)) = .ok (x, rest)

variable {α : Type} {read : Text → Except Fault (α × Text)} {v : JsonValue} {x : α}

/-- A value that is read back is a whole document. -/
theorem ReadsBack.document_pretty (h : ReadsBack read v x) : document read v.pretty = .ok x := by
  have hread := h 0 [] [] isPadding_nil endsValue_nil
  rw [List.nil_append, List.append_nil] at hread
  rw [document, JsonValue.pretty, hread]
  rfl

/-! ## Strings -/

/-- A control character by its number is read as the character. -/
theorem unicodeEscape_of_lt (h : c.toNat < 0x20) (t : Text) :
    unicodeEscape
        ('0' :: '0' :: Nat.digitChar (c.toNat / 16) :: Nat.digitChar (c.toNat % 16) :: t) =
      .ok (c, t) := by
  have hhigh := Text.hexDigit?_digitChar (n := c.toNat / 16) (by omega)
  have hlow := Text.hexDigit?_digitChar (n := c.toNat % 16) (by omega)
  have hzero : Text.hexDigit? '0' = some 0 := rfl
  have hvalue : ((0 * 16 + 0) * 16 + c.toNat / 16) * 16 + c.toNat % 16 = c.toNat := by omega
  have hdigits : fourDigits
      ('0' :: '0' :: Nat.digitChar (c.toNat / 16) :: Nat.digitChar (c.toNat % 16) :: t) =
        .ok (c.toNat, t) := by
    simp only [fourDigits, hhigh, hlow, hzero, hvalue]
  rw [unicodeEscape, hdigits]
  show (if 0xDC00 ≤ c.toNat ∧ c.toNat ≤ 0xDFFF then Except.error Fault.malformed
    else if c.toNat < 0xD800 ∨ 0xDFFF < c.toNat then .ok (Char.ofNat c.toNat, t) else _) = _
  rw [if_neg (by omega), if_pos (by omega), Char.ofNat_toNat]

/-- One character of a string is read, with the backslash that it may have been written with. -/
theorem stringBody_escape (fuel : Nat) (c : Char) (t : Text) :
    stringBody (fuel + 1) (JsonValue.escape c ++ t) =
      (stringBody fuel t).map fun (s, rest) => (c :: s, rest) := by
  -- An escape is a backslash and what stands for the character.
  have hescaped : ∀ u, escape (u ++ t) = .ok (c, t) →
      stringBody (fuel + 1) ('\\' :: u ++ t) =
        (stringBody fuel t).map fun (s, rest) => (c :: s, rest) := by
    intro u hu
    rw [List.cons_append, stringBody, hu]
    show (stringBody fuel t >>= _) = _
    cases stringBody fuel t <;> rfl
  unfold JsonValue.escape
  split
  case isTrue h => exact hescaped ['"'] (by rw [h]; rfl)
  case isFalse hquote =>
  split
  case isTrue h => exact hescaped ['\\'] (by rw [h]; rfl)
  case isFalse hbackslash =>
  split
  case isTrue h => exact hescaped ['n'] (by rw [h]; rfl)
  case isFalse =>
  split
  case isTrue h => exact hescaped ['r'] (by rw [h]; rfl)
  case isFalse =>
  split
  case isTrue h => exact hescaped ['t'] (by rw [h]; rfl)
  case isFalse =>
  split
  case isTrue h => exact hescaped ['b'] (by rw [← Char.ofNat_toNat c, h]; rfl)
  case isFalse =>
  split
  case isTrue h => exact hescaped ['f'] (by rw [← Char.ofNat_toNat c, h]; rfl)
  case isFalse =>
  split
  case isTrue h => exact hescaped ('u' :: _) (unicodeEscape_of_lt h t)
  case isFalse hprinted =>
    rw [List.singleton_append, stringBody]
    · rw [if_neg hprinted]
      cases stringBody fuel t <;> rfl
    · exact hquote
    · exact hbackslash

/-- The characters of a string are read up to the quote behind them. -/
theorem stringBody_flatMap_escape {fuel : Nat} (s rest : Text) (h : s.length < fuel) :
    stringBody fuel (s.flatMap JsonValue.escape ++ '"' :: rest) = .ok (s, rest) := by
  induction s generalizing fuel with
  | nil =>
      obtain ⟨fuel, rfl⟩ := Nat.exists_eq_add_one_of_ne_zero (Nat.ne_of_gt h)
      rfl
  | cons c s ih =>
      rw [List.length_cons] at h
      obtain ⟨fuel, rfl⟩ := Nat.exists_eq_add_one_of_ne_zero (n := fuel) (by omega)
      rw [List.flatMap_cons, List.append_assoc, stringBody_escape, ih (by omega)]
      rfl

/-- Every character of a string takes at least one when it is written. -/
theorem length_le_flatMap_escape (s : Text) : s.length ≤ (s.flatMap JsonValue.escape).length := by
  have hone (c : Char) : 1 ≤ (JsonValue.escape c).length := by
    unfold JsonValue.escape
    (repeat' split) <;> simp
  induction s with
  | nil => exact Nat.le_refl 0
  | cons c s ih =>
      have hc := hone c
      simp only [List.length_cons, List.flatMap_cons, List.length_append]
      omega

/-- A quoted string is read behind its opening quote. -/
theorem stringRest_quote (s rest : Text) :
    stringRest (s.flatMap JsonValue.escape ++ '"' :: rest) = .ok (s, rest) := by
  have hlength := length_le_flatMap_escape s
  refine stringBody_flatMap_escape s rest ?_
  rw [List.length_append]
  omega

theorem quote_append (s rest : Text) :
    JsonValue.quote s ++ rest = '"' :: (s.flatMap JsonValue.escape ++ '"' :: rest) := by
  simp [JsonValue.quote]

theorem readsBack_string (s : String) : ReadsBack string (.string s.toList) s := by
  intro depth padding rest hpadding _
  rw [JsonValue.print, quote_append, string, skipSpace_append hpadding rfl]
  show (stringRest _ >>= _) = _
  rw [stringRest_quote]
  exact congrArg (fun s => Except.ok (s, rest)) String.ofList_toList

/-! ## Numbers, truth values and null -/

/-- The first digit of a number above zero is not zero. -/
theorem head?_decimal_ne_zero {n : Nat} (h : 0 < n) : (Text.decimal n).head? ≠ some '0' := by
  induction n using Nat.strongRecOn with
  | _ n ih =>
      rw [Text.decimal, Nat.toDigits_eq_if (by decide)]
      split
      · next hlt =>
          have hall : ∀ n < 10, 0 < n → [Nat.digitChar n].head? ≠ some '0' := by decide
          exact hall n hlt h
      · have hfirst := ih (n / 10) (by omega) (by omega)
        obtain ⟨d, ds, hdigits⟩ :=
          List.exists_cons_of_ne_nil (Nat.toDigits_ne_nil (n := n / 10) (b := 10))
        rw [Text.decimal, hdigits] at hfirst
        rw [hdigits]
        exact hfirst

/-- The digits of a number are read up to what ends the value. -/
theorem digits_decimal (n : Nat) (h : EndsValue rest) :
    digits (Text.decimal n ++ rest) = (Text.decimal n, rest) := by
  have hdigits : ∀ c ∈ Text.decimal n, c.isDigit = true :=
    fun _ => Text.isDigit_of_mem_decimal
  have hend : ∀ c ∈ rest.head?, c.isDigit = false := by
    obtain rfl | ⟨t, rfl⟩ | ⟨t, rfl⟩ := h <;> simp
  obtain ⟨hfront, hbehind⟩ := Text.run_append hdigits hend
  rw [digits, hfront, hbehind]

/-- The digits of a number are its whole part. -/
theorem wholeDigits_decimal (n : Nat) (h : EndsValue rest) :
    wholeDigits (Text.decimal n ++ rest) = .ok (Text.decimal n, rest) := by
  rw [wholeDigits, digits_decimal n h]
  split
  · next hnil => exact absurd (congrArg Prod.fst hnil) Nat.toDigits_ne_nil
  · next d ds rest' hzero =>
      -- Only the number zero begins with this digit, and it has no other.
      have hdigits : Text.decimal n = '0' :: d :: ds := congrArg Prod.fst hzero
      obtain rfl | hn := Nat.eq_zero_or_pos n
      · cases hdigits
      · exact absurd (by rw [hdigits]; rfl) (head?_decimal_ne_zero hn)
  · next heq => exact congrArg Except.ok heq.symm

/-- A number that was written is read back, when it has at most 64 bits. -/
theorem number_decimal {n : Nat} (hn : n < UInt64.size) (h : EndsValue rest) :
    number false (Text.decimal n ++ rest) = .ok (some n, rest) := by
  have hfraction : fraction rest = .ok (none, rest) := by
    obtain rfl | ⟨t, rfl⟩ | ⟨t, rfl⟩ := h <;> rfl
  have hexponent : exponent rest = .ok (none, rest) := by
    obtain rfl | ⟨t, rfl⟩ | ⟨t, rfl⟩ := h <;> rfl
  rw [number, wholeDigits_decimal n h]
  simp only [bind, Except.bind, hfraction, hexponent, Text.ofDecimal_decimal]
  simp [hn]

/-- A number begins with a digit, which is no blank. -/
theorem exists_decimal_eq_cons (n : Nat) :
    ∃ d ds, Text.decimal n = d :: ds ∧ d.isDigit = true ∧ isSpace d = false := by
  obtain ⟨d, ds, hdigits⟩ := List.exists_cons_of_ne_nil (Nat.toDigits_ne_nil (n := n) (b := 10))
  have hd : d.isDigit = true :=
    Text.isDigit_of_mem_decimal (hdigits ▸ List.mem_cons_self)
  exact ⟨d, ds, hdigits, hd, by simp [isSpace, Text.ne_of_isDigit hd]⟩

theorem readsBack_natural {limit n : Nat} (hlimit : limit < UInt64.size) (hn : n ≤ limit) :
    ReadsBack (natural limit) (.number n) n := by
  intro depth padding rest hpadding hrest
  obtain ⟨d, ds, hdigits, hd, hspace⟩ := exists_decimal_eq_cons n
  have hnumber := number_decimal (Nat.lt_of_le_of_lt hn hlimit) hrest
  rw [hdigits, List.cons_append] at hnumber
  rw [JsonValue.print, hdigits, List.cons_append, natural,
    skipSpace_append hpadding hspace]
  dsimp only
  rw [if_pos hd, hnumber]
  dsimp only
  rw [if_pos hn]

theorem readsBack_bool (b : Bool) : ReadsBack bool (.bool b) b := by
  intro depth padding rest hpadding _
  cases b with
  | true =>
      show bool (padding ++ 't' :: ('r' :: 'u' :: 'e' :: rest)) = _
      rw [bool, skipSpace_append hpadding rfl]
      rfl
  | false =>
      show bool (padding ++ 'f' :: ('a' :: 'l' :: 's' :: 'e' :: rest)) = _
      rw [bool, skipSpace_append hpadding rfl]
      rfl

theorem readsBack_nullable_null (read : Text → Except Fault (α × Text)) :
    ReadsBack (nullable read) .null none := by
  intro depth padding rest hpadding _
  show nullable read (padding ++ 'n' :: ('u' :: 'l' :: 'l' :: rest)) = _
  rw [nullable, skipSpace_append hpadding rfl]
  rfl

/-- A string where null may stand is read as a string. -/
theorem readsBack_nullable_string (s : String) :
    ReadsBack (nullable string) (.string s.toList) (some s) := by
  intro depth padding rest hpadding hrest
  have hstring := readsBack_string s depth [] rest isPadding_nil hrest
  rw [JsonValue.print, quote_append, List.nil_append] at hstring
  rw [JsonValue.print, quote_append, nullable, skipSpace_append hpadding rfl]
  show (string _ >>= _) = _
  rw [hstring]
  rfl

/-! ## Arrays -/

/-- A value begins with a character that is no blank and that ends no array. -/
theorem exists_print_eq_cons (v : JsonValue) (depth : Nat) :
    ∃ c t, v.print depth = c :: t ∧ isSpace c = false ∧ c ≠ ']' := by
  cases v with
  | null => exact ⟨_, _, rfl, by decide⟩
  | bool b => cases b <;> exact ⟨_, _, rfl, by decide⟩
  | number n =>
      obtain ⟨d, ds, hdigits, hd, hspace⟩ := exists_decimal_eq_cons n
      exact ⟨d, ds, hdigits, hspace, Text.ne_of_isDigit hd rfl⟩
  | string s => exact ⟨_, _, rfl, by decide⟩
  | array vs => cases vs <;> exact ⟨_, _, rfl, by decide⟩
  | object ms => cases ms <;> exact ⟨_, _, rfl, by decide⟩

/-- Behind its padding, a written value is read, and it ends no array. -/
theorem ReadsBack.skipSpace_print (h : ReadsBack read v x) (depth : Nat)
    (hpadding : IsPadding padding) (hrest : EndsValue rest) :
    ∃ c t, skipSpace (padding ++ (v.print depth ++ rest)) = c :: t ∧ c ≠ ']' ∧
      read (c :: t) = .ok (x, rest) := by
  have hread := h depth [] rest isPadding_nil hrest
  obtain ⟨c, t, hprint, hspace, hbracket⟩ := exists_print_eq_cons v depth
  rw [hprint, List.nil_append, List.cons_append] at hread
  rw [hprint, List.cons_append]
  exact ⟨c, t ++ rest, skipSpace_append hpadding hspace _, hbracket, hread⟩

/-- The first element of an array is read. -/
theorem ReadsBack.element_first (h : ReadsBack read v x) (hpadding : IsPadding padding)
    (hrest : EndsValue rest) :
    element read true (padding ++ (v.print depth ++ rest)) = .ok (some x, rest) := by
  obtain ⟨c, t, hskip, hbracket, hread⟩ := h.skipSpace_print depth hpadding hrest
  rw [element, hskip]
  split
  · next heq => cases heq
  · next heq => exact absurd (List.cons.inj heq).1 hbracket
  · next heq =>
      obtain ⟨rfl, rfl⟩ := List.cons.inj heq
      rw [if_pos rfl, hread]
      rfl

/-- Behind a comma there has to be an element. -/
theorem element_comma (read : Text → Except Fault (α × Text)) (t : Text) :
    element read false (',' :: t) =
      match skipSpace t with
      | [] => .error .truncated
      | ']' :: _ => .error .malformed
      | t => read t >>= fun (x, t) => .ok (some x, t) :=
  rfl

/-- A further element of an array is read behind its comma. -/
theorem ReadsBack.element_later (h : ReadsBack read v x) (hpadding : IsPadding padding)
    (hrest : EndsValue rest) :
    element read false (',' :: (padding ++ (v.print depth ++ rest))) = .ok (some x, rest) := by
  obtain ⟨c, t, hskip, hbracket, hread⟩ := h.skipSpace_print depth hpadding hrest
  rw [element_comma, hskip]
  split
  · next heq => cases heq
  · next heq => exact absurd (List.cons.inj heq).1 hbracket
  · rw [hread]
    rfl

/-- No element is read in front of the closing bracket. -/
theorem element_end (read : Text → Except Fault (α × Text)) (first : Bool)
    (hpadding : IsPadding padding) :
    element read first (padding ++ ']' :: rest) = .ok (none, ']' :: rest) := by
  rw [element, skipSpace_append hpadding rfl]
  rfl

/-- The further elements of an array are read up to the closing bracket. -/
theorem elements_printElements {vs : List JsonValue} {xs : List α}
    (h : List.Forall₂ (ReadsBack read) vs xs) {fuel : Nat} (hfuel : vs.length < fuel)
    (depth below : Nat) (rest : Text) :
    elements read fuel false
        (JsonValue.printElements depth vs ++ (JsonValue.newLine below ++ ']' :: rest)) =
      .ok (xs, ']' :: rest) := by
  induction h generalizing fuel with
  | nil =>
      obtain ⟨fuel, rfl⟩ := Nat.exists_eq_add_one_of_ne_zero (Nat.ne_of_gt hfuel)
      rw [JsonValue.printElements, List.nil_append, elements,
        element_end read false (isPadding_newLine below)]
      rfl
  | @cons v x vs xs hv _ ih =>
      rw [List.length_cons] at hfuel
      obtain ⟨fuel, rfl⟩ := Nat.exists_eq_add_one_of_ne_zero (n := fuel) (by omega)
      rw [JsonValue.printElements]
      simp only [List.cons_append, List.append_assoc]
      rw [elements, hv.element_later (isPadding_newLine depth)
        (endsValue_printElements depth below vs _)]
      show (elements read fuel false _ >>= _) = _
      rw [ih (by omega)]
      rfl

/-- Every element takes at least one character when it is written. -/
theorem length_le_printElements (depth : Nat) (vs : List JsonValue) :
    vs.length ≤ (JsonValue.printElements depth vs).length := by
  induction vs with
  | nil => exact Nat.zero_le _
  | cons v vs ih =>
      simp only [JsonValue.printElements, List.length_cons, List.length_append]
      omega

/-- An array is read back when its elements are. -/
theorem ReadsBack.array {vs : List JsonValue} {xs : List α}
    (h : List.Forall₂ (ReadsBack read) vs xs) : ReadsBack (array read) (.array vs) xs := by
  intro depth padding rest hpadding _
  cases h with
  | nil =>
      show Json.array read (padding ++ '[' :: (']' :: rest)) = _
      rw [Json.array, skipSpace_append hpadding rfl]
      rfl
  | @cons v x vs xs hv hvs =>
      have hlength := length_le_printElements (depth + 1) vs
      have helements (fuel : Nat) (hfuel : vs.length < fuel) :
          elements read (fuel + 1) true (JsonValue.newLine (depth + 1) ++ (v.print (depth + 1) ++
            (JsonValue.printElements (depth + 1) vs ++
              (JsonValue.newLine depth ++ ']' :: rest)))) = .ok (x :: xs, ']' :: rest) := by
        rw [elements, hv.element_first (isPadding_newLine (depth + 1))
          (endsValue_printElements (depth + 1) depth vs _)]
        show (elements read fuel false _ >>= _) = _
        rw [elements_printElements hvs hfuel]
        rfl
      rw [JsonValue.print]
      simp only [List.cons_append, List.append_assoc, List.nil_append]
      rw [Json.array, skipSpace_append hpadding rfl]
      show (elements read _ true _ >>= _) = _
      rw [helements]
      · rfl
      · simp only [List.length_append, List.length_cons]
        omega

/-! ## Records -/

variable {σ : Type} {onMember : Text → σ → Text → Except Fault (σ × Text)}

/-- Reading a written member takes what was read before from `s` to `s'`. -/
def ReadsMember (onMember : Text → σ → Text → Except Fault (σ × Text)) (s : σ)
    (m : String × JsonValue) (s' : σ) : Prop :=
  ∀ depth rest, EndsValue rest →
    onMember m.1.toList s (':' :: ' ' :: (m.2.print depth ++ rest)) = .ok (s', rest)

/-- Reading written members one after the other takes what was read before from `s` to `s'`. -/
inductive ReadsMembers (onMember : Text → σ → Text → Except Fault (σ × Text)) :
    σ → List (String × JsonValue) → σ → Prop where
  | nil (s : σ) : ReadsMembers onMember s [] s
  | cons {s s' s'' : σ} {m : String × JsonValue} {ms : List (String × JsonValue)} :
      ReadsMember onMember s m s' → ReadsMembers onMember s' ms s'' →
      ReadsMembers onMember s (m :: ms) s''

/-- A field that was not given yet takes the value of its member. -/
theorem ReadsBack.member {key : String} {s : σ} (h : ReadsBack read v x) (put : α → σ)
    (hfield : ∀ t, onMember key.toList s t = field read none put t) :
    ReadsMember onMember s (key, v) (put x) := by
  intro depth rest hrest
  have hread := h depth [' '] rest (List.forall_mem_singleton.2 rfl) hrest
  rw [List.singleton_append] at hread
  rw [hfield]
  show (read (' ' :: (v.print depth ++ rest)) >>= _) = _
  rw [hread]
  rfl

/-- The name of the first member is read. -/
theorem memberName_first (key : Text) (hpadding : IsPadding padding) :
    memberName true (padding ++ (JsonValue.quote key ++ rest)) = .ok (some key, rest) := by
  rw [quote_append, memberName, skipSpace_append hpadding rfl]
  show (stringRest _ >>= _) = _
  rw [stringRest_quote]
  rfl

/-- Behind a comma there has to be the name of a member. -/
theorem memberName_comma (t : Text) :
    memberName false (',' :: t) =
      match skipSpace t with
      | [] => .error .truncated
      | '"' :: t => stringRest t >>= fun (s, t) => .ok (some s, t)
      | _ => .error .malformed :=
  rfl

/-- The name of a further member is read behind its comma. -/
theorem memberName_later (key : Text) (hpadding : IsPadding padding) :
    memberName false (',' :: (padding ++ (JsonValue.quote key ++ rest))) =
      .ok (some key, rest) := by
  rw [quote_append, memberName_comma, skipSpace_append hpadding rfl]
  show (stringRest _ >>= _) = _
  rw [stringRest_quote]
  rfl

/-- No member is read in front of the closing brace. -/
theorem memberName_end (first : Bool) (hpadding : IsPadding padding) :
    memberName first (padding ++ '\x7d' :: rest) = .ok (none, '\x7d' :: rest) := by
  rw [memberName, skipSpace_append hpadding rfl]
  rfl

/-- The further members of an object are read up to the closing brace. -/
theorem ReadsMembers.members {s s' : σ} {ms : List (String × JsonValue)}
    (h : ReadsMembers onMember s ms s') {fuel : Nat} (hfuel : ms.length < fuel)
    (depth below : Nat) (rest : Text) :
    members onMember fuel false s
        (JsonValue.printMembers depth ms ++ (JsonValue.newLine below ++ '\x7d' :: rest)) =
      .ok (s', '\x7d' :: rest) := by
  induction h generalizing fuel with
  | nil s =>
      obtain ⟨fuel, rfl⟩ := Nat.exists_eq_add_one_of_ne_zero (Nat.ne_of_gt hfuel)
      rw [JsonValue.printMembers, List.nil_append, Json.members,
        memberName_end false (isPadding_newLine below)]
      rfl
  | @cons s s₁ s' m ms hm _ ih =>
      rw [List.length_cons] at hfuel
      obtain ⟨fuel, rfl⟩ := Nat.exists_eq_add_one_of_ne_zero (n := fuel) (by omega)
      have hvalue := hm depth _ (endsValue_printMembers depth below ms ('\x7d' :: rest))
      rw [JsonValue.printMembers]
      simp only [List.cons_append, List.append_assoc, List.nil_append]
      rw [Json.members, memberName_later _ (isPadding_newLine depth)]
      show (onMember _ _ _ >>= _) = _
      rw [hvalue]
      exact ih (by omega)

/-- Every member takes at least one character when it is written. -/
theorem length_le_printMembers (depth : Nat) (ms : List (String × JsonValue)) :
    ms.length ≤ (JsonValue.printMembers depth ms).length := by
  induction ms with
  | nil => exact Nat.zero_le _
  | cons m ms ih =>
      simp only [JsonValue.printMembers, List.length_cons, List.length_append]
      omega

/-- A record is read back when its members give all that it needs. -/
theorem readsBack_record {start s : σ} {ms : List (String × JsonValue)}
    {finish : σ → Except Fault α} {fields : Text → Except Fault (α × Text)}
    (h : ReadsMembers onMember start ms s) (hfinish : finish s = .ok x) :
    ReadsBack (record start onMember finish fields) (.object ms) x := by
  intro depth padding rest hpadding _
  cases h with
  | nil =>
      show record start onMember finish fields (padding ++ '\x7b' :: ('\x7d' :: rest)) = _
      rw [record, skipSpace_append hpadding rfl]
      show (finish start >>= _) = _
      rw [hfinish]
      rfl
  | @cons _ s₁ _ m ms hm hms =>
      have hlength := length_le_printMembers (depth + 1) ms
      have hvalue := hm (depth + 1) _
        (endsValue_printMembers (depth + 1) depth ms ('\x7d' :: rest))
      have hmembers (fuel : Nat) (hfuel : ms.length < fuel) :
          members onMember (fuel + 1) true start (JsonValue.newLine (depth + 1) ++
            (JsonValue.quote m.1.toList ++ ':' :: ' ' :: (m.2.print (depth + 1) ++
              (JsonValue.printMembers (depth + 1) ms ++
                (JsonValue.newLine depth ++ '\x7d' :: rest))))) = .ok (s, '\x7d' :: rest) := by
        rw [members, memberName_first _ (isPadding_newLine (depth + 1))]
        show (onMember _ _ _ >>= _) = _
        rw [hvalue]
        exact hms.members hfuel (depth + 1) depth rest
      rw [JsonValue.print]
      simp only [List.cons_append, List.append_assoc, List.nil_append]
      rw [record, skipSpace_append hpadding rfl]
      show (members onMember _ true start _ >>= _) = _
      rw [hmembers]
      · show (finish s >>= _) = _
        rw [hfinish]
        rfl
      · simp only [List.length_append, List.length_cons]
        omega

end Json

end MarkedVerse
