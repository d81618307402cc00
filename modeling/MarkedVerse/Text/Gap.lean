import MarkedVerse.Text.Blank

/-!
# Gaps between paragraphs

A line break is a line feed, with or without a carriage return before it. A gap is a run of more
than `limit` line breaks, each with any number of filling characters before it. Paragraphs lie
between gaps of at least two bare line breaks; collapsing writes every gap of at least three line
breaks, where blanks and tabs may stand before each, as two line feeds.
-/

namespace MarkedVerse.Text

/-- What follows the line break at the front of the text. -/
def lineBreak? : Text → Option Text
  | '\n' :: t => some t
  | '\r' :: '\n' :: t => some t
  | _ => none

/-- A line break takes at least one character. -/
theorem length_lineBreak? {t rest : Text} (h : lineBreak? t = some rest) :
    rest.length < t.length := by
  unfold lineBreak? at h
  split at h
  · cases h
    simp
  · cases h
    simp only [List.length_cons]
    omega
  · cases h

/-- The number of line breaks at the front of the text, each after any number of characters of the
class `fill`, and the text behind the last of them. -/
def breakRun (fill : Char → Bool) (t : Text) : Nat × Text :=
  match h : lineBreak? (t.dropWhile fill) with
  | some rest =>
    let run := breakRun fill rest
    (run.1 + 1, run.2)
  | none => (0, t)
  termination_by t.length
  decreasing_by
    have := length_lineBreak? h
    have := (List.dropWhile_sublist (l := t) fill).length_le
    omega

/-- A run of line breaks never ends before it starts. -/
theorem length_breakRun (fill : Char → Bool) (t : Text) :
    (breakRun fill t).2.length + (breakRun fill t).1 ≤ t.length := by
  fun_induction breakRun fill t with
  | case1 t rest h run ih =>
    have := length_lineBreak? h
    have := (List.dropWhile_sublist (l := t) fill).length_le
    simp only [run] at ih ⊢
    omega
  | case2 => simp

/-- What follows the gap at the front of the text, where a gap has more than `limit` breaks. -/
def gap? (fill : Char → Bool) (limit : Nat) (t : Text) : Option Text :=
  if limit < (breakRun fill t).1 then some (breakRun fill t).2 else none

/-- A gap takes at least one character. -/
theorem length_gap? {fill : Char → Bool} {limit : Nat} {t rest : Text}
    (h : gap? fill limit t = some rest) : rest.length < t.length := by
  have := length_breakRun fill t
  grind [gap?]

/-- The pieces of the text between its gaps, where each gap starts as early as it can and reaches
as far as it can. -/
def splitGaps (fill : Char → Bool) (limit : Nat) : Text → List Text
  | [] => [[]]
  | c :: t =>
    match _h : gap? fill limit (c :: t) with
    | some rest => [] :: splitGaps fill limit rest
    | none => consHead c (splitGaps fill limit t)
  termination_by t => t.length
  decreasing_by
    · exact length_gap? _h
    · simp

/-- The paragraphs of a text: the pieces between gaps of two or more bare line breaks, trimmed,
without those that are blank. -/
def paragraphs (t : Text) : List Text :=
  ((splitGaps (fun _ => false) 1 t).map trim).filter fun piece => !piece.isEmpty

/-- The text with every gap of three or more line breaks, blanks and tabs before each included,
written as two line feeds. -/
def collapseGaps (t : Text) : Text :=
  join ['\n', '\n'] (splitGaps (fun c => c == ' ' || c == '\t') 2 t)

end MarkedVerse.Text
