import MarkedVerse.Text.Basic
import MarkedVerse.Text.Digits

/-!
# Addresses in attributes

An address is kept when it is relative, or when it is well-formed and has a scheme that leads to
nothing but a page or a message. Well-formed means that it has a host where its scheme asks for
one, and that the host and the port can be read.
-/

namespace MarkedVerse.Html.Url

/-- Schemes that may be followed. -/
def schemes : List String :=
  ["bitcoin", "ftp", "ftps", "geo", "http", "https", "im", "irc", "ircs", "magnet", "mailto",
   "mms", "mx", "news", "nntp", "openpgp4fpr", "sip", "sms", "smsto", "ssh", "tel", "url",
   "webcal", "wtai", "xmpp"]

/-- Schemes whose addresses always have a host. -/
def hostSchemes : List String :=
  ["ftp", "http", "https"]

/-- A control character or a space. -/
def isEdge (c : Char) : Bool :=
  c.toNat ≤ 0x20

/-- The address without blanks at its ends, and without tabs and line ends. -/
def clean (t : Text) : Text :=
  (((t.dropWhile isEdge).reverse.dropWhile isEdge).reverse).filter fun c =>
    c != '\t' && c != '\n' && c != '\r'

/-- A character of a scheme behind the first one. -/
def isSchemeChar (c : Char) : Bool :=
  c.isAlphanum || c == '+' || c == '-' || c == '.'

/-- The scheme, in lower case, and the text behind its colon. A relative address has none. -/
def scheme? (t : Text) : Option (String × Text) :=
  let scheme := t.takeWhile isSchemeChar
  match t.head?.any Char.isAlpha, t.drop scheme.length with
  | true, ':' :: rest => some (String.ofList (Text.lower scheme), rest)
  | _, _ => none

/-! ## Numbers in hosts -/

/-- The number that digits to a base stand for, when all of them are digits. -/
def number? (base : Nat) (digits : Text) : Option Nat :=
  digits.foldl (fun n d => do
    let n ← n
    let v ← Text.hexDigit? d
    if v < base then some (n * base + v) else none) (some 0)

/-- A part of a host as a number, which may be octal or hexadecimal. -/
def hostNumber? : Text → Option Nat
  | [] => none
  | '0' :: 'x' :: digits => number? 16 digits
  | '0' :: 'X' :: digits => number? 16 digits
  | ['0'] => some 0
  | '0' :: digits => number? 8 digits
  | digits => number? 10 digits

/-- The parts of a host, without an empty one at its end. -/
def hostParts (host : Text) : List Text :=
  match (Text.splitOn '.' host).reverse with
  | [] :: first :: rest => (first :: rest).reverse
  | parts => parts.reverse

/-- The host is meant as four numbers. -/
def endsInNumber (host : Text) : Bool :=
  match (hostParts host).getLast? with
  | none => false
  | some last => (!last.isEmpty && last.all Char.isDigit) || (hostNumber? last).isSome

/-- The parts are the numbers of a host: all but the last take one byte, and the last one takes the
bytes that are left. -/
def areHostNumbers (parts : List Text) : Bool :=
  match parts.reverse.mapM hostNumber? with
  | none => false
  | some [] => false
  | some (last :: front) =>
    decide (front.length ≤ 3) && front.all (· ≤ 255) &&
      decide (last < Nat.pow 256 (4 - front.length))

/-! ## Hosts in brackets -/

/-- The pieces of a bracketed host: groups of digits, and in the end maybe four small numbers. The
result tells how many of the eight pieces stand there. -/
def pieceCount? (parts : List Text) : Option Nat :=
  match parts.reverse with
  | [] => some 0
  | last :: front =>
    let isGroup := fun t : Text => !t.isEmpty && t.length ≤ 4 && (number? 16 t).isSome
    let isSmall := fun t : Text =>
      (number? 10 t).any (· ≤ 255) && !t.isEmpty && (t.length == 1 || t.head? != some '0')
    if !front.all isGroup then none
    else if isGroup last then some (front.length + 1)
    else
      let numbers := Text.splitOn '.' last
      if numbers.length = 4 ∧ numbers.all isSmall then some (front.length + 2) else none

/-- The text is a host that may stand in brackets: eight pieces between colons, of which one run of
empty ones may be left out. -/
def isBracketHost (t : Text) : Bool :=
  let parts := fun t : Text => if t.isEmpty then [] else Text.splitOn ':' t
  let cuts := (List.range t.length).filter fun i => (t.drop i).take 2 == [':', ':']
  match cuts with
  | [] => pieceCount? (parts t) == some 8
  | i :: _ =>
    match pieceCount? (parts (t.take i)), pieceCount? (parts (t.drop (i + 2))) with
    | some front, some back => front + back ≤ 7 && !(t.take i).contains '.'
    | _, _ => false

/-! ## Hosts -/

/-- Bytes with their escapes resolved. -/
def unescape : List UInt8 → List UInt8
  | [] => []
  | b :: c :: d :: rest =>
    match b == 0x25, Text.hexDigit? (Char.ofNat c.toNat), Text.hexDigit? (Char.ofNat d.toNat) with
    | true, some m, some n => UInt8.ofNat (16 * m + n) :: unescape rest
    | _, _, _ => b :: unescape (c :: d :: rest)
  | b :: rest => b :: unescape rest

/-- A character that cannot stand in the name of a host. -/
def isForbidden (c : Char) : Bool :=
  c.toNat ≤ 0x20 || c == '\x7f' || c == '\uFFFD' || "%#/:<>?@[\\]^|".toList.contains c

/-- The dots of other scripts divide a host too, and soft hyphens are dropped. -/
def hostText (t : Text) : Text :=
  (t.filter (· != '\u00AD')).map fun c =>
    if c = '\u3002' ∨ c = '\uFF0E' ∨ c = '\uFF61' then '.' else c

/-- The host of an address that has to have one. -/
def isHost (t : Text) : Bool :=
  match t with
  | '[' :: rest => rest.getLast? == some ']' && isBracketHost rest.dropLast
  | _ =>
    match String.fromUTF8? ⟨(unescape (String.ofList t).toUTF8.toList).toArray⟩ with
    | none => false
    | some s =>
      let host := hostText s.toList
      !host.isEmpty && !host.any isForbidden &&
        (!endsInNumber host || areHostNumbers (hostParts host))

/-- A host that means nothing here. -/
def isOpaqueHost (t : Text) : Bool :=
  match t with
  | '[' :: rest => rest.getLast? == some ']' && isBracketHost rest.dropLast
  | _ => !t.any fun c => "\x00\t\n\r #/:<>?@[\\]^|".toList.contains c

/-- The text in front of the last at sign, when there is one, and the text behind it. -/
def splitUser (t : Text) : Option Text × Text :=
  match t.reverse.span (· != '@') with
  | (_, []) => (none, t)
  | (host, _ :: user) => (some user.reverse, host.reverse)

/-- The length of a host: it ends at a colon outside brackets. -/
def hostLength (inBrackets : Bool) : Text → Nat
  | [] => 0
  | c :: t =>
    if c = ':' ∧ !inBrackets then 0
    else hostLength (if c = '[' then true else if c = ']' then false else inBrackets) t + 1

/-- The text behind the host is a port, or nothing. -/
def isPort : Text → Bool
  | [] => true
  | _ :: digits => digits.all Char.isDigit && decide (Text.ofDecimal digits ≤ 65535)

/-- The authority of an address, behind its slashes: a user, a host and a port. -/
def isAuthority (needsHost : Bool) (t : Text) : Bool :=
  let ends := fun c => c == '/' || c == '?' || c == '#' || (needsHost && c == '\\')
  let (user, place) := splitUser (t.takeWhile fun c => !ends c)
  let size := hostLength false place
  let host := place.take size
  if user == some [] && place.isEmpty && (t.dropWhile fun c => !ends c) != [] then false
  else if needsHost then isHost host && isPort (place.drop size)
  else if host.isEmpty then
    (place.drop size).isEmpty && (user.isNone || user == some [] || user == some [':'])
  else isOpaqueHost host && isPort (place.drop size)

/-- The address may be kept. -/
def isAllowed (t : Text) : Bool :=
  match scheme? (clean t) with
  | none => true
  | some (scheme, rest) =>
    schemes.contains scheme &&
      (if hostSchemes.contains scheme then
        isAuthority true (rest.dropWhile fun c => c == '/' || c == '\\')
      else
        match rest with
        | '/' :: '/' :: rest => isAuthority false rest
        | _ => true)

end MarkedVerse.Html.Url
