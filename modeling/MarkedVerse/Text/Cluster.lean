import MarkedVerse.Text.Basic
import MarkedVerse.Text.Ranges
import MarkedVerse.Text.Cluster.Table

/-!
# Grapheme clusters

An extended grapheme cluster is what a reader takes for one character. A text is cut before every
character that does not join the characters before it; whether it joins depends on the character
and on a small summary of what precedes it, the `Context`. Nothing is lost
(`flatten_clusters`).
-/

namespace MarkedVerse.Text

namespace Cluster

/-- What a character does at a cluster boundary. -/
inductive Role where
  | carriageReturn
  | lineFeed
  | control
  | extend
  | joiner
  | regional
  | prepend
  | spacingMark
  | leading
  | vowel
  | trailing
  | syllable
  | closedSyllable
  | other
  deriving DecidableEq, Repr

/-- The part that a Hangul letter or syllable plays, and that of the letters of other scripts that
are built the same way. -/
def hangulRole? (n : Nat) : Option Role :=
  if (0x1100 ≤ n && n ≤ 0x115F) || (0xA960 ≤ n && n ≤ 0xA97C) then some .leading
  else if (0x1160 ≤ n && n ≤ 0x11A7) || (0xD7B0 ≤ n && n ≤ 0xD7C6) || n == 0x16D63 ||
      (0x16D67 ≤ n && n ≤ 0x16D6A) then some .vowel
  else if (0x11A8 ≤ n && n ≤ 0x11FF) || (0xD7CB ≤ n && n ≤ 0xD7FB) then some .trailing
  else if 0xAC00 ≤ n && n ≤ 0xD7A3 then
    some (if (n - 0xAC00) % 28 == 0 then .syllable else .closedSyllable)
  else none

/-- The character extends the one before it, the joiner apart. -/
def isExtending (n : Nat) : Bool :=
  inRanges n markRanges || inRanges n modifierRanges

/-- The role of a character. -/
def role (c : Char) : Role :=
  let n := c.toNat
  if n == 0x0D then .carriageReturn
  else if n == 0x0A then .lineFeed
  else if inRanges n controlRanges then .control
  else if n == 0x200D then .joiner
  else if isExtending n then .extend
  else if 0x1F1E6 ≤ n && n ≤ 0x1F1FF then .regional
  else if inRanges n prependRanges then .prepend
  else if inRanges n spacingMarkRanges then .spacingMark
  else (hangulRole? n).getD .other

/-- How far the characters before have come towards a pictograph that is joined to another. -/
inductive Emoji where
  | none
  | pictograph
  | joined
  deriving DecidableEq, Repr

/-- How far the characters before have come towards a conjunct of consonants. -/
inductive Conjunct where
  | none
  | consonant
  | linked
  deriving DecidableEq, Repr

/-- What matters of the characters before a position. -/
structure Context where
  /-- The role of the character right before. -/
  last : Role
  /-- The run of regional indicators right before has odd length. -/
  oddRegional : Bool
  emoji : Emoji
  conjunct : Conjunct
  deriving DecidableEq, Repr

namespace Context

/-- The context at the start of a text. -/
def start : Context :=
  ⟨.other, false, .none, .none⟩

/-- The context after one more character. -/
def step (x : Context) (c : Char) : Context :=
  let r := role c
  let n := c.toNat
  { last := r
    oddRegional := r == .regional && !x.oddRegional
    emoji :=
      if inRanges n pictographRanges then .pictograph
      else if x.emoji == .pictograph && r == .extend then .pictograph
      else if x.emoji == .pictograph && r == .joiner then .joined
      else .none
    conjunct :=
      if inRanges n consonantRanges then .consonant
      else if inRanges n linkerRanges then
        if x.conjunct == .none then .none else .linked
      else if (r == .extend || r == .joiner) && n != 0x200C then x.conjunct
      else .none }

/-- Two neighbours are parts of one syllable. -/
def sameSyllable : Role → Role → Bool
  | .leading, r => r == .leading || r == .vowel || r == .syllable || r == .closedSyllable
  | .vowel, r => r == .vowel || r == .trailing
  | .syllable, r => r == .vowel || r == .trailing
  | .trailing, r => r == .trailing
  | .closedSyllable, r => r == .trailing
  | _, _ => false

/-- The character belongs to the cluster of the characters before it. -/
def joins (x : Context) (c : Char) : Bool :=
  let isControl (r : Role) : Bool := r == .control || r == .carriageReturn || r == .lineFeed
  let r := role c
  if x.last == .carriageReturn && r == .lineFeed then true
  else if isControl x.last || isControl r then false
  else sameSyllable x.last r || r == .extend || r == .joiner || r == .spacingMark ||
    x.last == .prepend ||
    (x.conjunct == .linked && inRanges c.toNat consonantRanges) ||
    (x.emoji == .joined && inRanges c.toNat pictographRanges) ||
    (x.oddRegional && r == .regional)

end Context

/-- The clusters of the text behind a context: the first piece, which may be empty, belongs to the
cluster that was open. -/
def after (x : Context) : Text → List Text
  | [] => [[]]
  | c :: t =>
    let pieces := consHead c (after (x.step c) t)
    if x.joins c then pieces else [] :: pieces

end Cluster

/-- The grapheme clusters of a text, in order. -/
def clusters : Text → List Text
  | [] => []
  | c :: t => consHead c (Cluster.after (Cluster.Context.start.step c) t)

/-- A character in front of the first piece is a character in front of all. -/
@[simp]
theorem flatten_consHead (c : Char) (pieces : List Text) :
    (consHead c pieces).flatten = c :: pieces.flatten := by
  cases pieces <;> simp [consHead]

/-- The pieces behind a context make up the text. -/
theorem Cluster.flatten_after (x : Cluster.Context) (t : Text) :
    (Cluster.after x t).flatten = t := by
  induction t generalizing x with
  | nil => rfl
  | cons c t ih => unfold Cluster.after; split <;> simp [ih]

/-- The clusters of a text, one after the other, are the text. -/
theorem flatten_clusters (t : Text) : (clusters t).flatten = t := by
  cases t with
  | nil => rfl
  | cons c t => simp [clusters, Cluster.flatten_after]

end MarkedVerse.Text
