import MarkedVerse.Alignment

/-!
# Markers

A marker stands inside the text of a document. A break ends a block and says how the next one is
aligned; a header says that the next block is a heading. Every marker lies on one line and is
determined by its written form, so `Marker.source` is the inverse of `Marker.at?`.
-/

namespace MarkedVerse

/-- A marker as it is written. -/
inductive Marker where
  /-- A break without a suffix. -/
  | plainBreak
  /-- A break with a suffix, which has neither a bar nor a line feed. -/
  | styledBreak (suffix : Text)
  /-- A header. -/
  | header
  deriving DecidableEq, Repr

namespace Marker

/-- How every break starts. -/
def breakWord : Text :=
  ['|', '|', 'B', 'R', 'E', 'A', 'K']

/-- The whole of a header. -/
def headerWord : Text :=
  ['|', '|', 'H', 'E', 'A', 'D', 'E', 'R', '|', '|']

/-- The characters that a suffix may hold. -/
def isSuffixChar (c : Char) : Bool :=
  c != '|' && c != '\n'

/-- The written form of a marker. -/
def source : Marker → Text
  | plainBreak => breakWord ++ ['|', '|']
  | styledBreak suffix => breakWord ++ ':' :: suffix ++ ['|', '|']
  | header => headerWord

/-- The alignment that a break sets for the block after it; a header sets none. -/
def style? : Marker → Option Alignment
  | plainBreak => some .right
  | styledBreak suffix => some (.ofSuffix suffix)
  | header => none

/-- A break, with or without a suffix. -/
def isBreak (m : Marker) : Bool :=
  m.style?.isSome

/-- The marker at the front of the text, and what follows it. -/
def at? (t : Text) : Option (Marker × Text) :=
  match Text.dropLiteral? breakWord t with
  | some ('|' :: '|' :: rest) => some (plainBreak, rest)
  | some (':' :: rest) =>
    match rest.dropWhile isSuffixChar with
    | '|' :: '|' :: after => some (styledBreak (rest.takeWhile isSuffixChar), after)
    | _ => none
  | some _ => none
  | none => (Text.dropLiteral? headerWord t).map fun rest => (header, rest)

/-- A marker that was read, followed by the rest, is the text that it was read from. -/
theorem source_append_of_at? {t rest : Text} {m : Marker} (h : at? t = some (m, rest)) :
    m.source ++ rest = t := by
  unfold at? at h
  split at h
  · next r hr =>
    cases h
    rw [Text.dropLiteral?_eq_some hr]
    simp only [source, List.append_assoc, List.cons_append, List.nil_append]
  · next r hr =>
    have htd := List.takeWhile_append_dropWhile (p := isSuffixChar) (l := r)
    split at h
    · next after ha =>
      cases h
      rw [ha] at htd
      rw [Text.dropLiteral?_eq_some hr]
      simp only [source, List.append_assoc, List.cons_append, List.nil_append, htd]
    · cases h
  · cases h
  · next hr =>
    obtain ⟨r, hr, hm⟩ := Option.map_eq_some_iff.1 h
    cases hm
    rw [Text.dropLiteral?_eq_some hr, source]

/-- A marker takes at least one character. -/
theorem length_at? {t rest : Text} {m : Marker} (h : at? t = some (m, rest)) :
    rest.length < t.length := by
  rw [← source_append_of_at? h]
  cases m <;> simp only [source, breakWord, headerWord, List.length_append, List.length_cons] <;>
    omega

end Marker

end MarkedVerse
