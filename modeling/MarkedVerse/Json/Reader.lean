import MarkedVerse.Text.Blank
import MarkedVerse.Text.Digits

/-!
# Reading JSON

Values are read from left to right into the type that is expected, so the first problem met is
the one that is reported: the text ends too early, it is malformed, or it is well-formed and does
not fit. A reader takes the text and gives the value and the text behind it. Only texts that are
read into a value are decoded; a value that nobody asked for is skipped by its shape alone.
-/

namespace MarkedVerse.Json

/-- The first problem met. -/
inductive Fault where
  /-- The text ends inside a value. -/
  | truncated
  /-- What stands there cannot stand in JSON. -/
  | malformed
  /-- What stands there is JSON, but not what is expected. -/
  | mismatch
  deriving DecidableEq, Repr

/-- Blanks between tokens. -/
def isSpace (c : Char) : Bool :=
  c == ' ' || c == '\n' || c == '\t' || c == '\r'

/-- The text from the next token on. -/
def skipSpace (t : Text) : Text :=
  t.dropWhile isSpace

/-- Reads the rest of a word. -/
def word : (rest : Text) → Text → Except Fault Text
  | [], t => .ok t
  | _ :: _, [] => .error .truncated
  | c :: rest, d :: t => if c = d then word rest t else .error .malformed

/-! ## Strings -/

/-- The value of four hexadecimal digits at the front. A text too short for four bytes is
truncated. -/
def fourDigits (t : Text) : Except Fault (Nat × Text) :=
  match t with
  | a :: b :: c :: d :: rest =>
    match Text.hexDigit? a, Text.hexDigit? b, Text.hexDigit? c, Text.hexDigit? d with
    | some a, some b, some c, some d => .ok (((a * 16 + b) * 16 + c) * 16 + d, rest)
    | _, _, _, _ => .error .malformed
  | _ => .error (if Text.byteLength t < 4 then .truncated else .malformed)

/-- The character behind the letter u of an escape. Characters outside the basic plane are written
as two surrogates; one alone is malformed. -/
def unicodeEscape (t : Text) : Except Fault (Char × Text) := do
  let (n, t) ← fourDigits t
  if 0xDC00 ≤ n ∧ n ≤ 0xDFFF then .error .malformed
  else if n < 0xD800 ∨ 0xDFFF < n then .ok (Char.ofNat n, t)
  else
    match t with
    | [] => .error .truncated
    | ['\\'] => .error .truncated
    | '\\' :: 'u' :: t => do
      let (low, t) ← fourDigits t
      if 0xDC00 ≤ low ∧ low ≤ 0xDFFF then
        .ok (Char.ofNat ((n - 0xD800) * 0x400 + (low - 0xDC00) + 0x10000), t)
      else .error .malformed
    | _ => .error .malformed

/-- The character that an escape of one letter stands for. -/
def shortEscape? (c : Char) : Option Char :=
  if c = '"' ∨ c = '\\' ∨ c = '/' then some c
  else if c = 'b' then some (Char.ofNat 8)
  else if c = 'f' then some (Char.ofNat 12)
  else if c = 'n' then some '\n'
  else if c = 'r' then some '\r'
  else if c = 't' then some '\t'
  else none

/-- The character that an escape stands for, behind its backslash. -/
def escape : Text → Except Fault (Char × Text)
  | [] => .error .truncated
  | 'u' :: t => unicodeEscape t
  | c :: t =>
    match shortEscape? c with
    | some d => .ok (d, t)
    | none => .error .malformed

/-- The characters up to the closing quote, with at most `fuel` of them. -/
def stringBody : (fuel : Nat) → Text → Except Fault (Text × Text)
  | 0, _ => .error .truncated
  | _ + 1, [] => .error .truncated
  | _ + 1, '"' :: t => .ok ([], t)
  | fuel + 1, '\\' :: t => do
    let (c, t) ← escape t
    let (s, t) ← stringBody fuel t
    .ok (c :: s, t)
  | fuel + 1, c :: t =>
    if c.toNat < 0x20 then .error .malformed
    else do
      let (s, t) ← stringBody fuel t
      .ok (c :: s, t)

/-- The string behind its opening quote. -/
def stringRest (t : Text) : Except Fault (Text × Text) :=
  stringBody (t.length + 1) t

/-! ## Numbers -/

/-- The digits at the front, and the text behind them. -/
def digits (t : Text) : Text × Text :=
  (t.takeWhile Char.isDigit, t.dropWhile Char.isDigit)

/-- No double is as large as this number, or would be rounded to it. -/
def doubleLimit : Nat :=
  Nat.pow 2 1024 - Nat.pow 2 970

/-- The number of these digits times a power of ten is too large for a double. -/
def isTooLarge (significand : Nat) (power : Int) : Bool :=
  significand != 0 &&
    (if 400 < power then true
     else if 0 ≤ power then doubleLimit ≤ significand * Nat.pow 10 power.toNat
     else if power < -100000 then false
     else doubleLimit * Nat.pow 10 (-power).toNat ≤ significand)

/-- What comes at the end of a text in a place where a digit is expected. -/
def missingDigit : Text → Fault
  | [] => .truncated
  | _ => .malformed

/-- The exponent of a number at its letter, when there is one. -/
def exponent (t : Text) : Except Fault (Option Int × Text) :=
  match t with
  | c :: rest =>
    if c = 'e' ∨ c = 'E' then
      let (negative, rest) := match rest with
        | '+' :: rest => (false, rest)
        | '-' :: rest => (true, rest)
        | _ => (false, rest)
      match digits rest with
      | ([], rest) => .error (missingDigit rest)
      | (ds, rest) =>
        let n : Int := Text.ofDecimal ds
        .ok (some (if negative then -n else n), rest)
    else .ok (none, t)
  | [] => .ok (none, [])

/-- The fraction of a number at its point, when there is one. -/
def fraction (t : Text) : Except Fault (Option Text × Text) :=
  match t with
  | '.' :: rest =>
    match digits rest with
    | ([], rest) => .error (missingDigit rest)
    | (ds, rest) => .ok (some ds, rest)
  | _ => .ok (none, t)

/-- The digits before the point. A zero is followed by no other digit. -/
def wholeDigits (t : Text) : Except Fault (Text × Text) :=
  match digits t with
  | ([], rest) => .error (missingDigit rest)
  | ('0' :: _ :: _, _) => .error .malformed
  | (ds, rest) => .ok (ds, rest)

/-- A number behind its sign: its value when it is a whole number below 2^64 without sign,
fraction and exponent. A number too large for a double is malformed. -/
def number (negative : Bool) (t : Text) : Except Fault (Option Nat × Text) := do
  let (whole, t) ← wholeDigits t
  let (part, t) ← fraction t
  let (power, t) ← exponent t
  let n := Text.ofDecimal whole
  if part.isNone && power.isNone && n < UInt64.size then
    .ok (if negative then none else some n, t)
  else
    let part := part.getD []
    if isTooLarge (Text.ofDecimal (whole ++ part)) (power.getD 0 - part.length) then
      .error .malformed
    else .ok (none, t)

/-! ## Values that nobody asked for -/

/-- What encloses a value. -/
inductive Frame where
  | array
  | object
  deriving DecidableEq, Repr

/-- Skips an escape behind its backslash; only its shape counts. -/
def skipEscape : Text → Except Fault Text
  | [] => .error .truncated
  | 'u' :: t => (fourDigits t).map Prod.snd
  | c :: t => if (shortEscape? c).isSome then .ok t else .error .malformed

/-- Skips a string up to and with its closing quote. -/
def skipString : (fuel : Nat) → Text → Except Fault Text
  | 0, _ => .error .truncated
  | _ + 1, [] => .error .truncated
  | _ + 1, '"' :: t => .ok t
  | fuel + 1, '\\' :: t => do skipString fuel (← skipEscape t)
  | fuel + 1, c :: t => if c.toNat < 0x20 then .error .malformed else skipString fuel t

/-- Skips digits, of which there has to be one. -/
def skipDigits (t : Text) : Except Fault Text :=
  match digits t with
  | ([], _) => .error .malformed
  | (_, rest) => .ok rest

/-- Skips a number behind its sign. Its value does not count. -/
def skipNumber (t : Text) : Except Fault Text := do
  let t ← match digits t with
    | ([], _) => .error .malformed
    | ('0' :: _ :: _, _) => .error .malformed
    | (_, rest) => .ok rest
  let t ← match t with
    | '.' :: rest => skipDigits rest
    | _ => .ok t
  match t with
  | c :: rest =>
    if c = 'e' ∨ c = 'E' then
      match rest with
      | '+' :: rest => skipDigits rest
      | '-' :: rest => skipDigits rest
      | _ => skipDigits rest
    else .ok t
  | [] => .ok []

/-- Skips a value that is neither an array nor an object. -/
def skipScalar : Text → Except Fault Text
  | [] => .error .truncated
  | 'n' :: t => word ['u', 'l', 'l'] t
  | 't' :: t => word ['r', 'u', 'e'] t
  | 'f' :: t => word ['a', 'l', 's', 'e'] t
  | '"' :: t => skipString (t.length + 1) t
  | '-' :: t => skipNumber t
  | c :: t => if c.isDigit then skipNumber (c :: t) else .error .malformed

/-- Skips the name of a member and the colon behind it. -/
def skipName (t : Text) : Except Fault Text :=
  match skipSpace t with
  | [] => .error .truncated
  | '"' :: t => do
    match skipSpace (← skipString (t.length + 1) t) with
    | [] => .error .truncated
    | ':' :: t => .ok t
    | _ => .error .malformed
  | _ => .error .malformed

mutual

/-- Skips the value at the front and everything behind it that its enclosing frames hold. -/
def skipInside : (fuel : Nat) → List Frame → Text → Except Fault Text
  | 0, _, _ => .error .truncated
  | fuel + 1, frames, t =>
    match skipSpace t with
    | '[' :: t =>
      match skipSpace t with
      | ']' :: t => skipBehind fuel frames t
      | t => skipInside fuel (.array :: frames) t
    | '\x7b' :: t =>
      match skipSpace t with
      | '\x7d' :: t => skipBehind fuel frames t
      | t => do skipInside fuel (.object :: frames) (← skipName t)
    | t => do skipBehind fuel frames (← skipScalar t)

/-- Skips what the enclosing frames hold behind a value. -/
def skipBehind : (fuel : Nat) → List Frame → Text → Except Fault Text
  | _, [], t => .ok t
  | 0, _, _ => .error .truncated
  | fuel + 1, .array :: frames, t =>
    match skipSpace t with
    | [] => .error .truncated
    | ',' :: t => skipInside fuel (.array :: frames) t
    | ']' :: t => skipBehind fuel frames t
    | _ => .error .malformed
  | fuel + 1, .object :: frames, t =>
    match skipSpace t with
    | [] => .error .truncated
    | ',' :: t => do skipInside fuel (.object :: frames) (← skipName t)
    | '\x7d' :: t => skipBehind fuel frames t
    | _ => .error .malformed

end

/-- Skips one value. Every step takes a character, so the length of the text bounds the steps. -/
def skipValue (t : Text) : Except Fault Text :=
  skipInside (t.length + 1) [] t

/-! ## Values of a type -/

/-- The problem with a value of the wrong kind. A scalar has to be well-formed before it is of
the wrong kind. -/
def wrongKind (t : Text) : Fault :=
  let faultOr {α : Type} (r : Except Fault α) : Fault :=
    match r with
    | .ok _ => .mismatch
    | .error f => f
  match t with
  | [] => .truncated
  | '"' :: t => faultOr (stringRest t)
  | '-' :: t => faultOr (number true t)
  | '[' :: _ => .mismatch
  | '\x7b' :: _ => .mismatch
  | c :: t => if c.isDigit then faultOr (number false (c :: t)) else faultOr (skipScalar (c :: t))

/-- Reads true or false. -/
def bool (t : Text) : Except Fault (Bool × Text) :=
  match skipSpace t with
  | 't' :: t => do .ok (true, ← word ['r', 'u', 'e'] t)
  | 'f' :: t => do .ok (false, ← word ['a', 'l', 's', 'e'] t)
  | t => .error (wrongKind t)

/-- Reads a string. -/
def string (t : Text) : Except Fault (String × Text) :=
  match skipSpace t with
  | '"' :: t => do
    let (s, t) ← stringRest t
    .ok (String.ofList s, t)
  | t => .error (wrongKind t)

/-- Reads null as nothing, and anything else by `read`. -/
def nullable {α : Type} (read : Text → Except Fault (α × Text)) (t : Text) :
    Except Fault (Option α × Text) :=
  match skipSpace t with
  | 'n' :: t => do .ok (none, ← word ['u', 'l', 'l'] t)
  | t => do
    let (x, t) ← read t
    .ok (some x, t)

/-- Reads a whole number of at most `limit`. -/
def natural (limit : Nat) (t : Text) : Except Fault (Nat × Text) :=
  match skipSpace t with
  | c :: t =>
    if c.isDigit then
      match number false (c :: t) with
      | .ok (some n, t) => if n ≤ limit then .ok (n, t) else .error .mismatch
      | .ok (none, _) => .error .mismatch
      | .error f => .error f
    else .error (wrongKind (c :: t))
  | [] => .error .truncated

/-- Reads the next element of an array, if there is one. Nothing is taken from the text when the
array ends. -/
def element {α : Type} (read : Text → Except Fault (α × Text)) (first : Bool) (t : Text) :
    Except Fault (Option α × Text) :=
  match skipSpace t with
  | [] => .error .truncated
  | ']' :: t => .ok (none, ']' :: t)
  | c :: t =>
    if first then do
      let (x, t) ← read (c :: t)
      .ok (some x, t)
    else if c = ',' then
      match skipSpace t with
      | [] => .error .truncated
      | ']' :: _ => .error .malformed
      | t => do
        let (x, t) ← read t
        .ok (some x, t)
    else .error .malformed

/-- Reads the end of an array. -/
def arrayEnd (t : Text) : Except Fault Text :=
  match skipSpace t with
  | [] => .error .truncated
  | ']' :: t => .ok t
  | _ => .error .malformed

/-- Reads elements up to the end of the array. -/
def elements {α : Type} (read : Text → Except Fault (α × Text)) :
    (fuel : Nat) → (first : Bool) → Text → Except Fault (List α × Text)
  | 0, _, _ => .error .truncated
  | fuel + 1, first, t => do
    match ← element read first t with
    | (some x, t) => do
      let (xs, t) ← elements read fuel false t
      .ok (x :: xs, t)
    | (none, t) => .ok ([], t)

/-- Reads an array whose elements are read by `read`. -/
def array {α : Type} (read : Text → Except Fault (α × Text)) (t : Text) :
    Except Fault (List α × Text) :=
  match skipSpace t with
  | '[' :: t => do
    let (xs, t) ← elements read (t.length + 1) true t
    .ok (xs, ← arrayEnd t)
  | t => .error (wrongKind t)

/-- Reads the colon behind a name and then the value. -/
def memberValue {α : Type} (read : Text → Except Fault (α × Text)) (t : Text) :
    Except Fault (α × Text) :=
  match skipSpace t with
  | [] => .error .truncated
  | ':' :: t => read t
  | _ => .error .malformed

/-- Reads the name of the next member, if there is one. -/
def memberName (first : Bool) (t : Text) : Except Fault (Option Text × Text) :=
  match skipSpace t with
  | [] => .error .truncated
  | '\x7d' :: t => .ok (none, '\x7d' :: t)
  | c :: t =>
    let name (t : Text) : Except Fault (Option Text × Text) :=
      match t with
      | [] => .error .truncated
      | '"' :: t => do
        let (s, t) ← stringRest t
        .ok (some s, t)
      | _ => .error .malformed
    if first then name (c :: t)
    else if c = ',' then name (skipSpace t)
    else .error .malformed

/-- Reads members up to the end of the object. `onMember` reads the value of a member, colon
included, into what was read before. -/
def members {σ : Type} (onMember : Text → σ → Text → Except Fault (σ × Text)) :
    (fuel : Nat) → (first : Bool) → σ → Text → Except Fault (σ × Text)
  | 0, _, _, _ => .error .truncated
  | fuel + 1, first, s, t => do
    match ← memberName first t with
    | (some name, t) => do
      let (s, t) ← onMember name s t
      members onMember fuel false s t
    | (none, t) => .ok (s, t)

/-- Reads a record, either as an object or as the array of its fields. -/
def record {σ α : Type} (start : σ) (onMember : Text → σ → Text → Except Fault (σ × Text))
    (finish : σ → Except Fault α) (fields : Text → Except Fault (α × Text)) (t : Text) :
    Except Fault (α × Text) :=
  match skipSpace t with
  | '\x7b' :: t => do
    let (s, t) ← members onMember (t.length + 1) true start t
    let x ← finish s
    match skipSpace t with
    | '\x7d' :: t => .ok (x, t)
    | _ => .error .malformed
  | '[' :: t => do
    let (x, t) ← fields t
    .ok (x, ← arrayEnd t)
  | t => .error (wrongKind t)

/-- Reads the value of a member into a field, which may be given only once. -/
def field {α σ : Type} (read : Text → Except Fault (α × Text)) (old : Option α) (put : α → σ)
    (t : Text) : Except Fault (σ × Text) :=
  if old.isSome then .error .mismatch
  else do
    let (x, t) ← memberValue read t
    .ok (put x, t)

/-- Skips the value of a member that is no field. -/
def skipMember {σ : Type} (s : σ) (t : Text) : Except Fault (σ × Text) :=
  memberValue (fun t => do .ok (s, ← skipValue t)) t

/-- A field that has to be there. -/
def required {α : Type} : Option α → Except Fault α
  | some x => .ok x
  | none => .error .mismatch

/-- Reads the next field of a record that is written as an array; it has to be there. -/
def requiredElement {α : Type} (read : Text → Except Fault (α × Text)) (first : Bool) (t : Text) :
    Except Fault (α × Text) := do
  let (x, t) ← element read first t
  .ok (← required x, t)

/-- Reads a whole text as one value. -/
def document {α : Type} (read : Text → Except Fault (α × Text)) (t : Text) : Except Fault α := do
  let (x, t) ← read t
  match skipSpace t with
  | [] => .ok x
  | _ => .error .malformed

end MarkedVerse.Json
