import MarkedVerse.Html.Tag

/-!
# Tokens of markup

Markup is read token by token. What a text means depends on the place: inside some elements tags
mean nothing, so every token is asked for together with the content that may stand there. A token
takes at least one character (`length_next?`), so reading comes to an end.
-/

namespace MarkedVerse.Html

/-- A piece of markup as it is read. -/
inductive Token where
  | text (t : Text)
  /-- A null character in text. -/
  | null
  | opening (tag : Tag)
  | closing (name : String)
  | comment
  /-- Markup that leaves no trace. -/
  | nothing
  deriving DecidableEq, Repr

/-- What may stand in an element. -/
inductive ContentModel where
  /-- Tags and text. -/
  | markup
  /-- Tags, text, and sections whose text is taken as it is. -/
  | foreign
  /-- Text with references, up to the closing tag. -/
  | reference (name : String)
  /-- Text as it is, up to the closing tag. -/
  | raw (name : String)
  /-- A script, whose closing tag may be hidden in a comment. -/
  | script
  /-- Text as it is, up to the end. -/
  | plain
  deriving DecidableEq, Repr

namespace Token

/-- What follows `literal`, given in lower case, when the text starts with it in any case. -/
def dropWord? : (literal : Text) → Text → Option Text
  | [], t => some t
  | _ :: _, [] => none
  | c :: literal, d :: t => if c = d.toLower then dropWord? literal t else none

/-- The text starts with a name that ends there. -/
def startsName (name : String) (t : Text) : Bool :=
  (dropWord? name.toList t).any fun rest =>
    rest.head?.any fun c => isBlank c || c == '/' || c == '>'

/-- The text starts with the closing tag of this name. -/
def startsClosing (name : String) : Text → Bool
  | '<' :: '/' :: t => startsName name t
  | _ => false

/-- The text up to the closing tag of this name, and the text from there on. -/
def untilClosing (name : String) : Text → Text × Text
  | [] => ([], [])
  | c :: t =>
    if startsClosing name (c :: t) then ([], c :: t)
    else
      let (s, rest) := untilClosing name t
      (keepChar c :: s, rest)

/-- Whether a script is inside a comment, and inside a script there. -/
inductive ScriptPlace where
  | script
  | comment
  | commentScript
  deriving DecidableEq, Repr

/-- The place in a script and the number of dashes behind one more character, when `t` follows
it. -/
def scriptStep (place : ScriptPlace) (dashes : Nat) (c : Char) (t : Text) : ScriptPlace × Nat :=
  if c = '-' then (place, dashes + 1)
  else if c = '>' ∧ 2 ≤ dashes then (.script, 0)
  else if c ≠ '<' then (place, 0)
  else
    match place with
    | .script => (if (Text.dropLiteral? ['!', '-', '-'] t).isSome then .comment else .script, 0)
    | .comment => (if startsName "script" t then .commentScript else .comment, 0)
    | .commentScript =>
      (if startsClosing "script" (c :: t) then .comment else .commentScript, 0)

/-- The script up to its closing tag, and the text from there on, behind `dashes` dashes. -/
def untilScriptEnds (place : ScriptPlace) (dashes : Nat) : Text → Text × Text
  | [] => ([], [])
  | c :: t =>
    if place ≠ .commentScript ∧ startsClosing "script" (c :: t) then ([], c :: t)
    else
      let next := scriptStep place dashes c t
      let (s, rest) := untilScriptEnds next.1 next.2 t
      (keepChar c :: s, rest)

/-- The text behind the next closing bracket. -/
def skipTag (t : Text) : Text :=
  (t.dropWhile (· != '>')).drop 1

/-- The text behind the end of a comment. -/
def skipComment : Text → Text
  | [] => []
  | '-' :: '-' :: '>' :: t => t
  | '-' :: '-' :: '!' :: '>' :: t => t
  | _ :: t => skipComment t

/-- The text behind a comment whose opening has been read. -/
def skipCommentBody : Text → Text
  | '>' :: t => t
  | '-' :: '>' :: t => t
  | t => skipComment t

/-- The text of a section that is taken as it is, and the text behind it. -/
def untilSectionEnds : Text → Text × Text
  | [] => ([], [])
  | ']' :: ']' :: '>' :: t => ([], t)
  | c :: t =>
    let (s, rest) := untilSectionEnds t
    (keepChar c :: s, rest)

/-- Reads what follows a bracket and an exclamation mark. -/
def declaration (foreign : Bool) (t : Text) : Token × Text :=
  match t with
  | '-' :: '-' :: t => (.comment, skipCommentBody t)
  | _ =>
    if (dropWord? "doctype".toList t).isSome then (.nothing, skipTag t)
    else
      match foreign, Text.dropLiteral? "[CDATA[".toList t with
      | true, some t =>
        let (s, rest) := untilSectionEnds t
        (if s.isEmpty then .nothing else .text s, rest)
      | _, _ => (.comment, skipTag t)

/-- Reads what follows a bracket and a slash. -/
def closingTag? (t : Text) : Option (Token × Text) :=
  match t with
  | [] => some (.text ['<', '/'], [])
  | '>' :: t => some (.nothing, t)
  | c :: _ =>
    if c.isAlpha then (readTag t).map fun (tag, rest) => (.closing tag.name, rest)
    else some (.comment, skipTag t)

/-- Reads what follows a bracket. -/
def behindBracket? (foreign : Bool) (t : Text) : Option (Token × Text) :=
  match t with
  | '/' :: t => closingTag? t
  | '!' :: t => some (declaration foreign t)
  | '?' :: t => some (.comment, skipTag t)
  | c :: _ =>
    if c.isAlpha then (readTag t).map fun (tag, rest) => (.opening tag, rest)
    else some (.text ['<'], t)
  | [] => some (.text ['<'], t)

/-- Characters that end a run of text. -/
def endsText (c : Char) : Bool :=
  c == '<' || c == '\x00'

/-- The next token among tags and text; there is none when only an open tag is left. -/
def nextMarkup? (foreign : Bool) (t : Text) : Option (Token × Text) :=
  match t with
  | [] => none
  | '<' :: t => behindBracket? foreign t
  | '\x00' :: t => some (.null, t)
  | c :: t =>
    some (.text (Reference.decode (c :: t.takeWhile fun d => !endsText d)),
      t.dropWhile fun d => !endsText d)

/-- A run of text, or the token behind it when it is empty. -/
def nextRun? (run : Text × Text) : Option (Token × Text) :=
  match run with
  | ([], rest) => nextMarkup? false rest
  | (s, rest) => some (.text s, rest)

/-- The next token where this content may stand. -/
def next? (model : ContentModel) (t : Text) : Option (Token × Text) :=
  match model with
  | .markup => nextMarkup? false t
  | .foreign => nextMarkup? true t
  | .reference name =>
    let (s, rest) := untilClosing name t
    nextRun? (Reference.decode s, rest)
  | .raw name => nextRun? (untilClosing name t)
  | .script => nextRun? (untilScriptEnds .script 0 t)
  | .plain => if t.isEmpty then none else some (.text (t.map keepChar), [])

/-! ## Every token takes something -/

/-- Nothing is lost at a closing tag. -/
theorem length_untilClosing (name : String) (t : Text) :
    (untilClosing name t).1.length + (untilClosing name t).2.length = t.length := by
  fun_induction untilClosing name t with
  | case1 => rfl
  | case2 => simp
  | case3 c t h s rest hr ih =>
    simp only [hr] at ih
    simp only [List.length_cons]
    omega

/-- Nothing is lost at the end of a script. -/
theorem length_untilScriptEnds (place : ScriptPlace) (dashes : Nat) (t : Text) :
    (untilScriptEnds place dashes t).1.length + (untilScriptEnds place dashes t).2.length =
      t.length := by
  fun_induction untilScriptEnds place dashes t with
  | case1 => rfl
  | case2 => simp
  | case3 place dashes c t h next s rest hr ih =>
    simp only [hr] at ih
    simp only [List.length_cons]
    omega

/-- Skipping a tag adds nothing. -/
theorem length_skipTag_le (t : Text) : (skipTag t).length ≤ t.length := by
  have := (List.dropWhile_sublist (· != '>') (l := t)).length_le
  simp only [skipTag, List.length_drop]
  omega

/-- Skipping a comment adds nothing. -/
theorem length_skipComment_le (t : Text) : (skipComment t).length ≤ t.length := by
  fun_induction skipComment t <;> simp_all <;> omega

/-- Skipping a comment behind its opening adds nothing. -/
theorem length_skipCommentBody_le (t : Text) : (skipCommentBody t).length ≤ t.length := by
  unfold skipCommentBody
  split
  · simp
  · simp; omega
  · exact length_skipComment_le _

/-- Reading a section adds nothing. -/
theorem length_untilSectionEnds_le (t : Text) : (untilSectionEnds t).2.length ≤ t.length := by
  fun_induction untilSectionEnds t <;> simp_all <;> omega

/-- Reading a declaration adds nothing. -/
theorem length_declaration_le (foreign : Bool) (t : Text) :
    (declaration foreign t).2.length ≤ t.length := by
  unfold declaration
  split
  · exact Nat.le_trans (length_skipCommentBody_le _) (by simp; omega)
  · split
    · exact length_skipTag_le _
    · split
      · rename_i h
        have := congrArg List.length (Text.dropLiteral?_eq_some h)
        exact Nat.le_trans (length_untilSectionEnds_le _) (by simp at this; omega)
      · exact length_skipTag_le _

/-- Reading what follows a bracket and a slash adds nothing. -/
theorem length_closingTag? {t rest : Text} {token : Token}
    (h : closingTag? t = some (token, rest)) : rest.length ≤ t.length := by
  unfold closingTag? at h
  split at h
  · simp_all
  · simp_all
  · split at h
    · obtain ⟨⟨tag, r⟩, hr, he⟩ := Option.map_eq_some_iff.1 h
      simp only [Prod.mk.injEq] at he
      exact he.2 ▸ Nat.le_of_lt (TagReader.length_read hr)
    · simp only [Option.some.injEq, Prod.mk.injEq] at h
      exact h.2 ▸ length_skipTag_le _

/-- Reading what follows a bracket adds nothing. -/
theorem length_behindBracket? {foreign : Bool} {t rest : Text} {token : Token}
    (h : behindBracket? foreign t = some (token, rest)) : rest.length ≤ t.length := by
  unfold behindBracket? at h
  split at h
  · exact Nat.le_succ_of_le (length_closingTag? h)
  · simp only [Option.some.injEq] at h
    have := length_declaration_le foreign ‹_›
    simp_all
    omega
  · simp only [Option.some.injEq, Prod.mk.injEq] at h
    exact h.2 ▸ Nat.le_succ_of_le (length_skipTag_le _)
  · split at h
    · obtain ⟨⟨tag, r⟩, hr, he⟩ := Option.map_eq_some_iff.1 h
      simp only [Prod.mk.injEq] at he
      exact he.2 ▸ Nat.le_of_lt (TagReader.length_read hr)
    · simp_all
  · simp_all

/-- A token among tags and text takes at least one character. -/
theorem length_nextMarkup? {foreign : Bool} {t rest : Text} {token : Token}
    (h : nextMarkup? foreign t = some (token, rest)) : rest.length < t.length := by
  unfold nextMarkup? at h
  split at h
  · simp at h
  · exact Nat.lt_succ_of_le (length_behindBracket? h)
  · simp_all
  · simp only [Option.some.injEq, Prod.mk.injEq] at h
    exact h.2 ▸ Nat.lt_succ_of_le (List.dropWhile_sublist _).length_le

/-- A run that takes a character when it is not empty is a token that takes one. -/
theorem length_nextRun? {n : Nat} {run : Text × Text} {rest : Text} {token : Token}
    (hle : run.2.length ≤ n) (hlt : run.1 ≠ [] → run.2.length < n)
    (h : nextRun? run = some (token, rest)) : rest.length < n := by
  unfold nextRun? at h
  split at h
  · exact Nat.lt_of_lt_of_le (length_nextMarkup? h) hle
  · simp only [Option.some.injEq, Prod.mk.injEq] at h
    exact h.2 ▸ hlt (by simp_all)

/-- A run that loses nothing is a token that takes at least one character. -/
theorem length_nextRun?_of_add_eq {s rest : Text} {run : Text × Text} {token : Token}
    (hlen : run.1.length + run.2.length = s.length)
    (h : nextRun? run = some (token, rest)) : rest.length < s.length := by
  refine length_nextRun? (by omega) (fun hne => ?_) h
  have := List.length_pos_iff.2 hne
  omega

/-- A token takes at least one character. -/
theorem length_next? {model : ContentModel} {t rest : Text} {token : Token}
    (h : next? model t = some (token, rest)) : rest.length < t.length := by
  unfold next? at h
  split at h
  · exact length_nextMarkup? h
  · exact length_nextMarkup? h
  · rename_i name
    have hlen := length_untilClosing name t
    refine length_nextRun? (by simp; omega) (fun hne => ?_) h
    have hs : (untilClosing name t).1 ≠ [] := by
      intro hs
      simp [hs, Reference.decode, Reference.decodeFrom] at hne
    have := List.length_pos_iff.2 hs
    simp
    omega
  · exact length_nextRun?_of_add_eq (length_untilClosing _ t) h
  · exact length_nextRun?_of_add_eq (length_untilScriptEnds _ _ t) h
  · split at h
    · simp at h
    · cases t <;> simp_all

end Token

end MarkedVerse.Html
