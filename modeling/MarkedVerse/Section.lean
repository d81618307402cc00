import MarkedVerse.Segment

/-!
# Sections

The sections of a document are what a reader sees of it: dividers, headings, and blocks of verse
with an alignment. A break closes the open section, leaves a divider, and sets the alignment of
the section after it; a header marker closes the open section and makes the next one a heading.
A text without markers has one section for each paragraph.
-/

namespace MarkedVerse

/-- One section of a document. Documents that were not read from marked text may hold any
combination of the two flags and any content. -/
structure Section where
  content : Text
  style : Alignment
  isBreak : Bool
  isHeader : Bool
  deriving DecidableEq, Repr

namespace Section

/-- The section that a break leaves. -/
def divider : Section :=
  ⟨[], .right, true, false⟩

/-- A block of verse. -/
def verse (content : Text) (style : Alignment) : Section :=
  ⟨content, style, false, false⟩

/-- A heading, which is centred. -/
def header (content : Text) : Section :=
  ⟨content, .center, false, true⟩

/-- The lines of the content that are not blank, trimmed. -/
def lines (s : Section) : List Text :=
  Text.verseLines s.content

/-- Some line is not blank. -/
def hasContent (s : Section) : Bool :=
  !s.lines.isEmpty

/-- A block of verse with text; only these are numbered. -/
def isVerse (s : Section) : Bool :=
  !s.isBreak && !s.isHeader && s.hasContent

/-- What the last marker says about the text after it. -/
inductive Role where
  | aligned (style : Alignment)
  | heading
  deriving DecidableEq, Repr

/-- A section of this role. -/
def ofRole (content : Text) : Role → Section
  | .aligned style => verse content style
  | .heading => header content

/-- The state of reading: the role of the text to come, the section that is still open, and the
sections that are closed, the last one first. -/
structure Reading where
  role : Role
  pending : Option Section
  closed : List Section
  deriving DecidableEq, Repr

namespace Reading

/-- Before the first segment, text is aligned right. -/
def start : Reading :=
  ⟨.aligned .right, none, []⟩

/-- Closes the open section. -/
def flush (r : Reading) : Reading :=
  match r.pending with
  | some s => ⟨r.role, none, s :: r.closed⟩
  | none => r

/-- Adds a line to the open section, or opens one with it. -/
def addLine (r : Reading) (line : Text) : Reading :=
  match r.pending with
  | some s => { r with pending := some { s with content := s.content ++ '\n' :: line } }
  | none => { r with pending := some (ofRole line r.role) }

/-- Reads one segment. -/
def step (r : Reading) : Segment → Reading
  | .text t => (Text.verseLines t).foldl addLine r
  | .marker m =>
    match m.style? with
    | some style => ⟨.aligned style, none, divider :: r.flush.closed⟩
    | none => ⟨.heading, none, r.flush.closed⟩

/-- The sections of a finished reading, in order. -/
def finish (r : Reading) : List Section :=
  r.flush.closed.reverse

end Reading

/-- The sections that segments make up. -/
def ofSegments (segments : List Segment) : List Section :=
  (segments.foldl Reading.step .start).finish

/-- The sections of a marked text. Without a marker, every paragraph is a block aligned right. -/
def parse (t : Text) : List Section :=
  let segments := Segment.lex t
  if segments.any fun s => s.marker?.isSome then ofSegments segments
  else (Text.paragraphs t).map fun p => verse p .right

end Section

end MarkedVerse
