import MarkedVerse.Reader
import MarkedVerse.Screen

/-!
# Drawing the reader

The screen has a title on its first row, two rows for the state of the reader at its lower end,
and the document or the help between them. Drawing moves the window over the document so that the
current verse stays in sight.
-/

namespace MarkedVerse.Reader

open MarkedVerse.Screen

/-- The rows that help shows: a text, and whether it stands out in bold or in italics. -/
def helpRows : List Row :=
  let line (t : String) : Row := [⟨t.toList, .plain⟩]
  [line "",
   [⟨" HELP -- Reader Key Bindings".toList, { Style.plain with bold := true }⟩],
   line "",
   line " Position:",
   line "  j / Down     Next verse",
   line "  k / Up       Previous verse",
   line "  PgDn / PgUp  Scroll",
   line "",
   line " Display:",
   line "  c            Toggle compact spacing",
   line "  n            Toggle verse numbers",
   line "  h            Toggle current-verse highlight",
   line "",
   line " Document:",
   line "  t            Apply the next layout template",
   line "  w            Save",
   line "  q            Quit",
   line "",
   [⟨" Press ? or Esc to exit help".toList, { Style.plain with italic := true }⟩]]

/-- The keys that the status bar shows. -/
def shortcuts : Row :=
  let key (k : String) : Span := ⟨k.toList, ⟨some .white, none, true, false⟩⟩
  let label (t : String) : Span := ⟨t.toList, .plain⟩
  [key "j/k", label " Verse  ", key "t", label " Template  ", key "c", label " Compact  ",
   key "w", label " Save  ", key "?", label " Help  "]

/-- The title: the path of the document, and whether it has unsaved changes. -/
def title (r : Reader) : String :=
  "  Versemark -- " ++ r.file.path.getD "[No File]" ++ if r.modified then " [Modified]" else ""

/-- The colour of a message. -/
def severityColor : Status.Severity → Color
  | .info => .yellow
  | .success => .green
  | .warning => .lightYellow
  | .error => .red

/-- Draws the title. -/
def drawTitle (r : Reader) (s : Screen) (a : Area) : Screen :=
  s.paragraph a ⟨some .white, some .blue, false, false⟩ .left (plainRows r.title.toList)

/-- Draws the help. -/
def drawHelp (s : Screen) (a : Area) : Screen :=
  let s := s.fill a (.colored .white)
  let s := s.drawFrame a (.colored .blue) " Help ".toList
  let inside := insideFrame a
  if inside.width = 0 then s else s.drawRows .left inside helpRows

/-- The column in which the document is drawn: in the middle of the area, and no wider than the
configuration says. -/
def column (r : Reader) (a : Area) : Area :=
  let inside := insideSides a
  let width := min r.config.reader.width inside.width
  { inside with x := inside.x + (inside.width - width) / 2, width }

/-- The greatest number of rows that the window can be moved over. -/
def maxRows : Nat :=
  65535

/-- Draws the document, and moves the window over it. The program ends when the window stands too
far down. -/
def drawDocument? (r : Reader) (s : Screen) (a : Area) : Option (Reader × Screen) :=
  let s := s.drawSides a (.colored .darkGray)
  let column := r.column a
  let (r, page) := r.page column.width column.height
  let s? :=
    if page.rows.isEmpty then
      some (s.paragraph column (.colored .darkGray) .middle (plainRows "(empty document)".toList))
    else s.drawBelow? column (min r.scroll maxRows) page.rows
  s?.map fun s => (r, s)

/-- Draws the keys and the summary, or the question whether to save. -/
def drawState (r : Reader) (s : Screen) (a : Area) : Screen :=
  if r.mode = .savePrompt then
    s.paragraph a (.colored .yellow) .left
      (plainRows "Save changes before quitting? (y)es (n)o (c)ancel".toList)
  else
    let summary := min 48 a.width
    let s := s.paragraph { a with width := a.width - summary }
      ⟨none, some .darkGray, false, false⟩ .left [shortcuts]
    s.paragraph { a with x := a.x + (a.width - summary), width := summary }
      ⟨some .cyan, some .darkGray, false, false⟩ .right (plainRows r.summary.toList)

/-- Draws the message, when there is one. -/
def drawMessage (r : Reader) (s : Screen) (a : Area) : Screen :=
  match r.status with
  | some m => s.paragraph a (.colored (severityColor m.severity)) .left (plainRows m.content.toList)
  | none => s

/-- Draws the reader on a blank screen, unless that ends the program. -/
def draw? (r : Reader) (width height : Nat) : Option (Reader × Screen) := do
  let top := min 1 height
  let bottom := min 2 (height - top)
  let middle : Area := ⟨0, top, width, height - top - bottom⟩
  let s := r.drawTitle (.blank width height) ⟨0, 0, width, top⟩
  let (r, s) ← if r.mode = .help then some (r, drawHelp s middle) else r.drawDocument? s middle
  let s := r.drawState s ⟨0, height - bottom, width, min 1 bottom⟩
  return (r, r.drawMessage s ⟨0, height - bottom + 1, width, bottom - 1⟩)

end MarkedVerse.Reader
