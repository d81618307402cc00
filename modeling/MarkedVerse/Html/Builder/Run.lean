import MarkedVerse.Html.Builder.Foreign

/-!
# The tree of a piece of markup

Markup is read as it would be inside a block: tokens are taken one after the other, each under the
rules that hold at its place, until none is left. Every text has a tree.
-/

namespace MarkedVerse.Html

namespace Builder

/-- Deals with a token, which may be read again up to `fuel` times. -/
def deal (token : Token) : (fuel : Nat) → Builder → Builder
  | 0, b => b
  | fuel + 1, b =>
    match if b.isForeign token then b.inForeign token else b.byMode token with
    | .done b => b
    | .again b => deal token fuel b

/-- Deals with a token. Reading it again closes an element, or opens one of the parts of a table
that have been left out, so there is an end to it. -/
def take (b : Builder) (token : Token) : Builder :=
  deal token (b.stack.length + 8) b

/-- Deals with text. Blanks in front of a text among columns stay there. -/
def takeText (b : Builder) (t : Text) : Builder :=
  let blanks := if b.mode = .columns then t.takeWhile isBlank else []
  let rest := t.drop blanks.length
  let b := if blanks.isEmpty then b else b.take (.text blanks)
  if rest.isEmpty then b else b.take (.text rest)

/-- Feeds a token to the builder. -/
def feed (b : Builder) (token : Token) : Builder :=
  let skip := b.skipLineEnd
  let b := { b with skipLineEnd := false }
  match token with
  | .text ('\n' :: t) => b.takeText (if skip then t else '\n' :: t)
  | .text t => b.takeText t
  | .nothing => b
  | token => b.take token

/-- What may stand at the current place. -/
def contentModel (b : Builder) : ContentModel :=
  if b.plain then .plain
  else
    match b.current? with
    | none => .markup
    | some e =>
      if e.vocabulary != .html then .foreign
      else if b.mode != .text then .markup
      else if ["title", "textarea"].contains e.name then .reference e.name
      else if e.name = "script" then .script
      else .raw e.name

/-- Feeds markup to the builder. -/
def feedAll (b : Builder) (t : Text) : Builder :=
  match _h : Token.next? b.contentModel t with
  | none => b
  | some (token, rest) => (b.feed token).feedAll rest
  termination_by t.length
  decreasing_by exact Token.length_next? _h

/-- Ends the markup. -/
def finish (b : Builder) : Tree :=
  (if b.mode = .tableText then b.flushText else b).tree

end Builder

/-- Line ends as a single character, and no mark at the front that tells the order of bytes. -/
def normalize (t : Text) : Text :=
  joinLineEnds (match t with
    | '\uFEFF' :: t => t
    | t => t)
where
  /-- A carriage return, with the line feed behind it, is one line end. -/
  joinLineEnds : Text → Text
    | [] => []
    | '\r' :: '\n' :: t => '\n' :: joinLineEnds t
    | '\r' :: t => '\n' :: joinLineEnds t
    | c :: t => c :: joinLineEnds t

/-- The tree of a piece of markup that stands in a block. -/
def Tree.ofMarkup (t : Text) : Tree :=
  (Builder.start.feedAll (normalize t)).finish

end MarkedVerse.Html
