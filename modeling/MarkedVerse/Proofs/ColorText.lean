import MarkedVerse.Proofs.Offsets
import MarkedVerse.Style

/-!
# Colours by their digits

Behind a hash sign, a colour is given by three pairs of characters, one for each channel. What is read
of them is described pair by pair (`Color.ofText?_eq_some_iff`): a pair may hold two hexadecimal
digits, and it may also hold a plus sign and one digit. So the colours that are read are those with
six digits exactly when no plus sign is among the characters (`Color.reads_colors_exactly`). The pairs
may be taken out of the text by bytes, since nothing but ASCII is left by then (`Color.sliced?_eq`).
-/

namespace MarkedVerse

/-! ## Digits -/

namespace Text

/-- The character is the hexadecimal digit of this value, in either case. -/
def IsHexDigit (c : Char) (n : Nat) : Prop :=
  n < 16 ∧ (c = Nat.digitChar n ∨ c = (Nat.digitChar n).toUpper)

instance (c : Char) (n : Nat) : Decidable (IsHexDigit c n) :=
  inferInstanceAs (Decidable (n < 16 ∧ (c = Nat.digitChar n ∨ c = (Nat.digitChar n).toUpper)))

variable {c : Char} {n : Nat}

/-- There are no hexadecimal digits outside of ASCII. -/
theorem hexDigit?_eq_none (h : 128 ≤ c.toNat) : hexDigit? c = none := by
  have hle : ∀ d : Char, d.toNat < 128 → ¬c ≤ d := by
    intro d hd hcd
    have hnat : c.toNat ≤ d.toNat := hcd
    omega
  rw [hexDigit?, if_neg fun h => hle '9' (by decide) h.2, if_neg fun h => hle 'f' (by decide) h.2,
    if_neg fun h => hle 'F' (by decide) h.2]

/-- The characters that have a value are the hexadecimal digits. -/
theorem hexDigit?_eq_some_iff : hexDigit? c = some n ↔ IsHexDigit c n := by
  constructor
  · intro h
    have hall : ∀ m < 128, ∀ n ∈ hexDigit? (Char.ofNat m), IsHexDigit (Char.ofNat m) n := by decide
    rcases Nat.lt_or_ge c.toNat 128 with hlt | hge
    · have hdigit := hall c.toNat hlt n
      rw [Char.ofNat_toNat] at hdigit
      exact hdigit h
    · rw [hexDigit?_eq_none hge] at h
      cases h
  · rintro ⟨hn, rfl | rfl⟩
    · exact hexDigit?_digitChar hn
    · have hall : ∀ n < 16, hexDigit? (Nat.digitChar n).toUpper = some n := by decide
      exact hall n hn

/-- Hexadecimal digits are ASCII. -/
theorem IsHexDigit.lt (h : IsHexDigit c n) : c.toNat < 128 := by
  by_contra hge
  have hdigit := hexDigit?_eq_some_iff.2 h
  rw [hexDigit?_eq_none (Nat.not_lt.1 hge)] at hdigit
  cases hdigit

/-- The plus sign is no hexadecimal digit. -/
theorem IsHexDigit.ne_plus (h : IsHexDigit c n) : c ≠ '+' := by
  rintro rfl
  have hdigit := hexDigit?_eq_some_iff.2 h
  rw [show hexDigit? '+' = none from rfl] at hdigit
  cases hdigit

/-- A number below 256 with one more hexadecimal digit, unless it becomes too large. -/
def addDigit? (n : Nat) (c : Char) : Option Nat := do
  let d ← hexDigit? c
  if 16 * n + d < 256 then some (16 * n + d) else none

/-- The number below 256 that hexadecimal digits stand for, of which there has to be one. -/
def byteOfDigits? (t : Text) : Option Nat :=
  if t.isEmpty then none else t.foldlM addDigit? 0

/-- The number below 256 that hexadecimal digits stand for, where a plus sign may stand in front of
them. -/
def byteOfHex? : Text → Option Nat
  | '+' :: c :: t => byteOfDigits? (c :: t)
  | t => byteOfDigits? t

theorem byteOfHex?_of_ne_plus (h : c ≠ '+') (t : Text) :
    byteOfHex? (c :: t) = byteOfDigits? (c :: t) := by
  rw [byteOfHex?]
  exact fun _ _ heq => absurd (List.cons.inj heq).1 h

/-- A digit is added to a number that leaves room for it. -/
theorem addDigit?_eq (h : n < 16) (c : Char) :
    addDigit? n c = (hexDigit? c).map fun d => 16 * n + d := by
  rw [addDigit?]
  cases hdigit : hexDigit? c with
  | none => rfl
  | some d =>
      have hd := (hexDigit?_eq_some_iff.1 hdigit).1
      exact if_pos (by omega)

/-- All characters are ASCII. -/
def isAscii (t : Text) : Bool :=
  t.all fun c => decide (c.toNat < 128)

theorem isAscii_eq_true {t : Text} : isAscii t = true ↔ ∀ c ∈ t, c.toNat < 128 := by
  simp only [isAscii, List.all_eq_true, decide_eq_true_eq]

/-- In ASCII, every character takes one byte. -/
theorem byteLength_of_ascii {t : Text} (h : ∀ c ∈ t, c.toNat < 128) : byteLength t = t.length := by
  induction t with
  | nil => rfl
  | cons c t ih =>
      obtain ⟨hc, ht⟩ := List.forall_mem_cons.1 h
      have hone : c.utf8Size = 1 := Char.utf8Size_eq_one_iff.2 (Nat.le_of_lt_succ hc)
      show c.utf8Size + byteLength t = t.length + 1
      rw [hone, ih ht, Nat.add_comm]

end Text

namespace Color

open Text (IsHexDigit)

variable {v t pair : Text} {color : Color} {c d : Char} {n : Nat}

/-! ## Pairs -/

/-- Two hexadecimal digits, and the value of both. -/
inductive TwoDigits : Text → Nat → Prop where
  | mk {c d : Char} {m n : Nat} (high : IsHexDigit c m) (low : IsHexDigit d n) :
      TwoDigits [c, d] (16 * m + n)

/-- A plus sign and a hexadecimal digit, and the value of the digit. -/
inductive PlusDigit : Text → Nat → Prop where
  | mk {d : Char} {n : Nat} (low : IsHexDigit d n) : PlusDigit ['+', d] n

/-- A pair that is read as the value of a channel. -/
def IsChannel (pair : Text) (n : Nat) : Prop :=
  TwoDigits pair n ∨ PlusDigit pair n

/-- The text is three pairs in a row, each with the value of its channel. -/
def IsMadeOf (channel : Text → Nat → Prop) (t : Text) (color : Color) : Prop :=
  ∃ red green blue r g b, t = red ++ green ++ blue ∧
    (channel red r ∧ channel green g ∧ channel blue b) ∧ color = rgb r g b

theorem channel?_plus (d : Char) : channel? '+' d = Text.hexDigit? d := by
  rw [channel?]
  cases Text.hexDigit? d <;> rfl

theorem channel?_of_ne_plus (h : c ≠ '+') (d : Char) :
    channel? c d =
      (Text.hexDigit? d).bind fun n => (Text.hexDigit? c).map fun m => 16 * m + n := by
  rw [channel?]
  simp only [if_neg h]
  cases Text.hexDigit? d <;> cases Text.hexDigit? c <;> rfl

/-- Two characters are read as a channel exactly when they are such a pair. -/
theorem channel?_eq_some_iff : channel? c d = some n ↔ IsChannel [c, d] n := by
  by_cases hplus : c = '+'
  · subst hplus
    rw [channel?_plus, Text.hexDigit?_eq_some_iff]
    constructor
    · exact fun low => .inr (.mk low)
    · rintro (h | h)
      · cases h with
        | mk high _ => exact absurd rfl high.ne_plus
      · cases h with
        | mk low => exact low
  · rw [channel?_of_ne_plus hplus]
    constructor
    · intro h
      obtain ⟨low, hlow, h⟩ := Option.bind_eq_some_iff.1 h
      obtain ⟨high, hhigh, rfl⟩ := Option.map_eq_some_iff.1 h
      exact .inl (.mk (Text.hexDigit?_eq_some_iff.1 hhigh) (Text.hexDigit?_eq_some_iff.1 hlow))
    · rintro (h | h)
      · cases h with
        | mk high low =>
          rw [Text.hexDigit?_eq_some_iff.2 low, Text.hexDigit?_eq_some_iff.2 high]
          rfl
      · cases h with
        | mk _ => exact absurd rfl hplus

/-- A pair has two characters, both ASCII. -/
theorem IsChannel.exists_eq (h : IsChannel pair n) :
    ∃ c d, pair = [c, d] ∧ c.toNat < 128 ∧ d.toNat < 128 := by
  rcases h with h | h
  · cases h with
    | mk high low => exact ⟨_, _, rfl, high.lt, low.lt⟩
  · cases h with
    | mk low => exact ⟨_, _, rfl, by decide, low.lt⟩

/-- A pair with two digits has no plus sign. -/
theorem TwoDigits.plus_not_mem (h : TwoDigits pair n) : '+' ∉ pair := by
  cases h with
  | mk high low =>
      simp only [List.mem_cons, List.not_mem_nil, or_false, not_or]
      exact ⟨high.ne_plus.symm, low.ne_plus.symm⟩

/-- A pair without a plus sign has two digits. -/
theorem IsChannel.twoDigits (h : IsChannel pair n) (hplus : '+' ∉ pair) : TwoDigits pair n := by
  rcases h with h | h
  · exact h
  · cases h with
    | mk _ => exact absurd List.mem_cons_self hplus

/-! ## Colours -/

/-- No name of a colour begins with a hash sign. -/
theorem find?_names_hash (t : Text) :
    (names.find? fun entry => entry.1.toList == Text.lower ('#' :: t)) = none := by
  have hnames : ∀ entry ∈ names, entry.1.toList.head? ≠ some '#' := by decide
  refine List.find?_eq_none.2 fun entry hentry heq => hnames entry hentry ?_
  rw [eq_of_beq heq]
  rfl

/-- A text that begins with a hash sign is read as a colour exactly when three channels follow. -/
theorem ofText?_eq_some_iff (h : Text.trim v = '#' :: t) :
    ofText? v = some color ↔ IsMadeOf IsChannel t color := by
  constructor
  · intro hread
    rw [ofText?, h] at hread
    split at hread
    · next a b c d e f heq =>
        cases heq
        obtain ⟨r, hr, hread⟩ := Option.bind_eq_some_iff.1 hread
        obtain ⟨g, hg, hread⟩ := Option.bind_eq_some_iff.1 hread
        obtain ⟨bl, hb, hread⟩ := Option.bind_eq_some_iff.1 hread
        cases hread
        exact ⟨[a, b], [c, d], [e, f], r, g, bl, rfl, ⟨channel?_eq_some_iff.1 hr,
          channel?_eq_some_iff.1 hg, channel?_eq_some_iff.1 hb⟩, rfl⟩
    · rw [find?_names_hash] at hread
      cases hread
  · rintro ⟨red, green, blue, r, g, bl, rfl, ⟨hr, hg, hb⟩, rfl⟩
    obtain ⟨a, b, rfl, -⟩ := hr.exists_eq
    obtain ⟨c, d, rfl, -⟩ := hg.exists_eq
    obtain ⟨e, f, rfl, -⟩ := hb.exists_eq
    rw [ofText?, h]
    show (channel? a b >>= _) = _
    rw [channel?_eq_some_iff.2 hr]
    show (channel? c d >>= _) = _
    rw [channel?_eq_some_iff.2 hg]
    show (channel? e f >>= _) = _
    rw [channel?_eq_some_iff.2 hb]
    rfl

/-- Colours with six digits are read. -/
theorem IsMadeOf.isChannel (h : IsMadeOf TwoDigits t color) : IsMadeOf IsChannel t color := by
  obtain ⟨red, green, blue, r, g, b, rfl, ⟨hr, hg, hb⟩, rfl⟩ := h
  exact ⟨red, green, blue, r, g, b, rfl, ⟨.inl hr, .inl hg, .inl hb⟩, rfl⟩

/-- Six digits hold no plus sign. -/
theorem IsMadeOf.plus_not_mem (h : IsMadeOf TwoDigits t color) : '+' ∉ t := by
  obtain ⟨red, green, blue, r, g, b, rfl, ⟨hr, hg, hb⟩, rfl⟩ := h
  simp only [List.mem_append, not_or]
  exact ⟨⟨hr.plus_not_mem, hg.plus_not_mem⟩, hb.plus_not_mem⟩

/-- Three channels without a plus sign are six digits. -/
theorem IsMadeOf.twoDigits (h : IsMadeOf IsChannel t color) (hplus : '+' ∉ t) :
    IsMadeOf TwoDigits t color := by
  obtain ⟨red, green, blue, r, g, b, rfl, ⟨hr, hg, hb⟩, rfl⟩ := h
  simp only [List.mem_append, not_or] at hplus
  exact ⟨red, green, blue, r, g, b, rfl, ⟨hr.twoDigits hplus.1.1, hg.twoDigits hplus.1.2,
    hb.twoDigits hplus.2⟩, rfl⟩

/-! ## Pairs by bytes -/

/-- Reads three channels of two bytes each, out of a text of six ASCII bytes. Nothing comes of it when
a pair cannot be taken out of the text. -/
def sliced? (t : Text) : Option (Option Color) :=
  if Text.byteLength t = 6 ∧ Text.isAscii t = true then do
    let red ← Text.slice? 0 2 t
    let green ← Text.slice? 2 4 t
    let blue ← Text.slice? 4 6 t
    some do
      pure (rgb (← Text.byteOfHex? red) (← Text.byteOfHex? green) (← Text.byteOfHex? blue))
  else some none

/-- Two characters are read as a byte as they are read as a channel. -/
theorem byteOfHex?_pair (c d : Char) : Text.byteOfHex? [c, d] = channel? c d := by
  by_cases hplus : c = '+'
  · subst hplus
    show (Text.addDigit? 0 d >>= fun n => some n) = _
    rw [channel?_plus, Text.addDigit?_eq (by decide)]
    cases Text.hexDigit? d with
    | none => rfl
    | some n => exact congrArg some (Nat.zero_add n)
  · rw [Text.byteOfHex?_of_ne_plus hplus, channel?_of_ne_plus hplus]
    show (Text.addDigit? 0 c >>= fun m => Text.addDigit? m d >>= fun n => some n) = _
    rw [Text.addDigit?_eq (by decide)]
    cases hhigh : Text.hexDigit? c with
    | none => cases Text.hexDigit? d <;> rfl
    | some m =>
        have hm := (Text.hexDigit?_eq_some_iff.1 hhigh).1
        show (Text.addDigit? (0 + m) d >>= fun n => some n) = _
        rw [Nat.zero_add, Text.addDigit?_eq hm]
        cases Text.hexDigit? d <;> rfl

/-- Three texts of two bytes each are taken out of what they make up. -/
theorem slice?_pairs {red green blue : Text} (hred : red.byteLength = 2)
    (hgreen : green.byteLength = 2) (hblue : blue.byteLength = 2) :
    Text.slice? 0 2 (red ++ green ++ blue) = some red ∧
      Text.slice? 2 4 (red ++ green ++ blue) = some green ∧
      Text.slice? 4 6 (red ++ green ++ blue) = some blue := by
  have hfirst := Text.slice?_append [] red (green ++ blue)
  have hsecond := Text.slice?_append red green blue
  have hthird := Text.slice?_append (red ++ green) blue []
  rw [Text.byteLength_append] at hthird
  rw [hred, hgreen] at hsecond
  rw [hred, hgreen, hblue, List.append_nil] at hthird
  rw [hred, List.nil_append, ← List.append_assoc] at hfirst
  exact ⟨hfirst, hsecond, hthird⟩

/-- Every pair can be taken out of six ASCII characters. -/
theorem sliced?_of_ascii {a b c d e f : Char} (h : ∀ x ∈ [a, b, c, d, e, f], x.toNat < 128) :
    sliced? [a, b, c, d, e, f] =
      some (do pure (rgb (← channel? a b) (← channel? c d) (← channel? e f))) := by
  have hpair : ∀ x ∈ [a, b, c, d, e, f], ∀ y ∈ [a, b, c, d, e, f],
      Text.byteLength [x, y] = 2 := fun x hx y hy =>
    Text.byteLength_of_ascii (by simpa using ⟨h x hx, h y hy⟩)
  obtain ⟨hred, hgreen, hblue⟩ := slice?_pairs (hpair a (by simp) b (by simp))
    (hpair c (by simp) d (by simp)) (hpair e (by simp) f (by simp))
  simp only [List.cons_append, List.nil_append] at hred hgreen hblue
  rw [sliced?, if_pos ⟨Text.byteLength_of_ascii h, Text.isAscii_eq_true.2 h⟩, hred, hgreen, hblue]
  simp only [bind, Option.bind_some, byteOfHex?_pair]

/-- What is read as a colour has six ASCII characters behind the hash sign. -/
theorem IsMadeOf.ascii (h : IsMadeOf IsChannel t color) :
    t.length = 6 ∧ ∀ x ∈ t, x.toNat < 128 := by
  obtain ⟨red, green, blue, r, g, bl, rfl, ⟨hr, hg, hb⟩, rfl⟩ := h
  obtain ⟨a, b, rfl, ha, hb'⟩ := hr.exists_eq
  obtain ⟨c, d, rfl, hc, hd⟩ := hg.exists_eq
  obtain ⟨e, f, rfl, he, hf⟩ := hb.exists_eq
  refine ⟨rfl, ?_⟩
  simp only [List.cons_append, List.nil_append, List.forall_mem_cons]
  exact ⟨ha, hb', hc, hd, he, hf, List.forall_mem_nil _⟩

/-- The pairs that are taken out by bytes give the colour that is read. -/
theorem sliced?_eq (h : Text.trim v = '#' :: t) : sliced? t = some (ofText? v) := by
  by_cases hguard : Text.byteLength t = 6 ∧ Text.isAscii t = true
  · have hascii := Text.isAscii_eq_true.1 hguard.2
    have hlength : t.length = 6 := (Text.byteLength_of_ascii hascii).symm.trans hguard.1
    match t, hlength with
    | [a, b, c, d, e, f], _ =>
        rw [sliced?_of_ascii hascii, ofText?, h]
        rfl
  · have hnone : ofText? v = none := by
      rw [Option.eq_none_iff_forall_ne_some]
      intro color hread
      obtain ⟨hlength, hascii⟩ := ((ofText?_eq_some_iff h).1 hread).ascii
      exact hguard ⟨(Text.byteLength_of_ascii hascii).trans hlength, Text.isAscii_eq_true.2 hascii⟩
    rw [sliced?, if_neg hguard, hnone]

/-! ## What is read -/

/-- Let a text, trimmed, begin with a hash sign. It is read as a colour exactly when three pairs
follow and nothing else, each of them two hexadecimal digits or a plus sign and one digit, and then
the channels have the values of the pairs. Six digits are what is read, with their values, unless a
plus sign takes the place of one; then the text is read all the same. The pairs can be taken out of
the text by bytes whatever its characters are. -/
theorem reads_colors_exactly (h : Text.trim v = '#' :: t) :
    (∀ color, ofText? v = some color ↔ IsMadeOf IsChannel t color) ∧
    ((∀ color, ofText? v = some color ↔ IsMadeOf TwoDigits t color) ↔
      ofText? v = none ∨ '+' ∉ t) ∧
    sliced? t = some (ofText? v) := by
  have hread : ∀ color, ofText? v = some color ↔ IsMadeOf IsChannel t color := fun color =>
    ofText?_eq_some_iff h
  refine ⟨hread, ⟨fun hdigits => ?_, ?_⟩, sliced?_eq h⟩
  · cases hcolor : ofText? v with
    | none => exact .inl rfl
    | some color => exact .inr ((hdigits color).1 hcolor).plus_not_mem
  · rintro (hnone | hplus) color
    · rw [hread]
      refine ⟨fun hmade => ?_, IsMadeOf.isChannel⟩
      rw [← hread, hnone] at hmade
      cases hmade
    · rw [hread]
      exact ⟨fun hmade => hmade.twoDigits hplus, IsMadeOf.isChannel⟩

/-- A colour with blanks around it and digits in either case. -/
theorem reads_colors_exactly_of_digits :
    let v : Text := " #fFd166\n".toList
    let t : Text := "fFd166".toList
    Text.trim v = '#' :: t ∧ '+' ∉ t ∧ IsMadeOf TwoDigits t (rgb 255 209 102) ∧
      sliced? t = some (some (rgb 255 209 102)) := by
  intro v t
  have htrim : Text.trim v = '#' :: t := by decide
  have hread : ofText? v = some (rgb 255 209 102) := by decide
  have hplus : '+' ∉ t := by decide
  obtain ⟨-, hdigits, hsliced⟩ := reads_colors_exactly htrim
  exact ⟨htrim, hplus, (hdigits.2 (.inr hplus) _).1 hread, hsliced.trans (congrArg some hread)⟩

/-- A plus sign in place of a digit is read as a colour, which six digits do not stand for. -/
theorem plus_sign_is_no_digit :
    ofText? "#+10203".toList = some (rgb 1 2 3) ∧
      ∀ color, ¬IsMadeOf TwoDigits "+10203".toList color := by
  have hplus : '+' ∈ "+10203".toList := by decide
  exact ⟨by decide, fun color h => h.plus_not_mem hplus⟩

end Color

end MarkedVerse
