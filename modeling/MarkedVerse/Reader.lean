import MarkedVerse.DocumentFile
import MarkedVerse.Page
import MarkedVerse.Status

/-!
# The reader

The reader shows one document and is driven by keys: moving from verse to verse, scrolling,
switching the display, trying templates, and saving. A document with unsaved changes is not left
without asking. Every action is a function on the state of the reader; those that touch files also
take the file system and give it back.
-/

namespace MarkedVerse

/-- What the keys mean at the moment. -/
inductive Mode where
  | reading
  | help
  | savePrompt
  deriving DecidableEq, Repr

/-- A key. -/
inductive Key where
  | char (c : Char)
  | up
  | down
  | pageUp
  | pageDown
  | escape
  | enter
  deriving DecidableEq, Repr

/-- A key with the control modifier, which alone makes a difference. -/
structure KeyPress where
  key : Key
  control : Bool
  deriving DecidableEq, Repr

/-- The state of the reader. -/
structure Reader where
  config : Config
  file : DocumentFile
  status : Option Status.Message
  document : Document
  render : RenderConfig
  /-- The template that was tried last. -/
  template : Option String
  modified : Bool
  mode : Mode
  quitting : Bool
  /-- The number of rows above the window. -/
  scroll : Nat
  deriving DecidableEq, Repr

namespace Reader

/-- The reader before a document is opened. -/
def new (config : Config) : Reader where
  config
  file := .closed
  status := none
  document := ⟨[]⟩
  render := config.render.toRenderConfig
  template := none
  modified := false
  mode := .reading
  quitting := false
  scroll := 0

/-- Shows a message. -/
def tell (r : Reader) (severity : Status.Severity) (message : String) : Reader :=
  { r with status := some (.new message severity) }

/-- The number of verses of the document. -/
def verseCount (r : Reader) : Nat :=
  Layout.verseCount r.document.sections

/-- The reading summary. -/
def summary (r : Reader) : String :=
  Status.summary r.render r.template r.verseCount r.modified

/-- Shows another document from its start. -/
def setDocument (r : Reader) (d : Document) : Reader :=
  { r with
    document := d
    modified := false
    template := none
    render := { r.render with currentVerse := none }
    scroll := 0 }

/-- Opens the document at a path. -/
def openAt (r : Reader) (fs : FileSystem) (path : String) : Reader × Except FileError Unit :=
  match r.file.openAt fs path with
  | (file, .error e) => ({ r with file }, .error e)
  | (file, .ok d) =>
    let r := ({ r with file }).setDocument d
    (r.tell .info ("Opened " ++ path ++ " (" ++ toString r.verseCount ++ " verses)"), .ok ())

/-- Saves the document. -/
def save (r : Reader) (fs : FileSystem) : Reader × FileSystem × Except FileError Unit :=
  if r.file.path.isNone then (r, fs, .error .noName)
  else match r.file.save fs r.document with
    | (fs, .error e) => (r, fs, .error e)
    | (fs, .ok message) => (({ r with modified := false }).tell .success message, fs, .ok ())

/-! ## Position -/

/-- The number of rows above a window of `height` rows over a page: it keeps the current verse in
sight, with a third of the window above it when the window has to move. -/
def scrollTo (scroll height : Nat) (page : Page) (verse : Option Nat) : Nat :=
  let target := match verse.bind page.rowOf with
    | some row => if row < scroll ∨ scroll + max height 1 ≤ row then row - height / 3 else scroll
    | none => scroll
  min target (page.rows.length - 1)

/-- The page for a window, and the reader with the window moved over it. -/
def page (r : Reader) (width height : Nat) : Reader × Page :=
  let style := (PageStyle.ofConfig r.config.reader).fitTo width
  let page := Page.render r.document.sections r.render style
  ({ r with scroll := scrollTo r.scroll height page r.render.currentVerse }, page)

/-- Moves to the verse that `move` gives for the current one and the last one; without a current
verse, to the first. -/
def moveVerse (r : Reader) (move : Nat → Nat → Nat) : Reader :=
  match r.verseCount with
  | 0 => r.tell .warning "No verses to move through"
  | last + 1 =>
    let verse := match r.render.currentVerse with
      | some v => move v last
      | none => 0
    { r with render := { r.render with currentVerse := some verse } }

/-- Moves to the next verse. -/
def nextVerse (r : Reader) : Reader :=
  r.moveVerse fun v last => min (v + 1) last

/-- Moves to the previous verse. -/
def prevVerse (r : Reader) : Reader :=
  r.moveVerse fun v last => min (v - 1) last

/-- The greatest number of rows above the window. -/
def maxScroll : Nat :=
  UInt64.size - 1

/-- Moves the window by so many rows, as far as numbers go. -/
def scrollBy (r : Reader) (delta : Int) : Reader :=
  { r with scroll := min ((r.scroll : Int) + delta).toNat maxScroll }

/-! ## Display -/

/-- Switches between compact and regular spacing. -/
def toggleCompact (r : Reader) : Reader :=
  let on := !r.render.compact
  ({ r with render := { r.render with compact := on } }).tell .info
    (if on then "Compact spacing" else "Regular spacing")

/-- Switches the verse numbers on or off. -/
def toggleNumbers (r : Reader) : Reader :=
  let on := !r.render.numbers
  ({ r with render := { r.render with numbers := on } }).tell .info
    (if on then "Verse numbers on" else "Verse numbers off")

/-- Switches the highlight on or off. -/
def toggleHighlight (r : Reader) : Reader :=
  let on := !r.render.highlight
  ({ r with render := { r.render with highlight := on } }).tell .info
    (if on then "Highlighting current verse" else "Highlight off")

/-! ## Templates -/

/-- What applying a template did, in words. -/
def describe : Template.Mode → String
  | .restyle n => "restyled " ++ toString n ++ " breaks"
  | .insert n => "inserted " ++ toString n ++ " breaks"

/-- Applies the next template of the catalog. One that cannot be applied leaves the document as it
is and is passed over the next time. -/
def cycleTemplate (r : Reader) : Reader :=
  match r.config.catalog.nextAfter r.template with
  | none => r.tell .warning "No templates configured"
  | some p =>
    match r.document.applyTemplate p with
    | .ok (d, mode) =>
      { r.tell .success ("Template '" ++ p.name ++ "': " ++ describe mode) with
        template := some p.name
        document := d
        modified := true }
    | .error e =>
      { r.tell .error ("Template '" ++ p.name ++ "' not applied: " ++ e.message) with
        template := some p.name }

/-! ## Keys -/

/-- Leaves the reader. -/
def quit (r : Reader) : Reader :=
  { r with quitting := true }

/-- Leaves the reader, or asks first when there are unsaved changes. -/
def requestQuit (r : Reader) : Reader :=
  if r.modified then
    { r.tell .warning "Save changes before quitting? (y/n/c)" with mode := .savePrompt }
  else r.quit

/-- Saves the document, and tells when that fails. -/
def trySave (r : Reader) (fs : FileSystem) : Bool × Reader × FileSystem :=
  match r.save fs with
  | (r, fs, .ok ()) => (true, r, fs)
  | (r, fs, .error e) => (false, r.tell .error ("Error saving: " ++ e.message), fs)

/-- Answers a key while the document is shown. -/
def readingKey (r : Reader) (fs : FileSystem) (k : KeyPress) : Reader × FileSystem :=
  match k.key with
  | .char 'c' => (if k.control then r.requestQuit else r.toggleCompact, fs)
  | .char 'j' => (r.nextVerse, fs)
  | .down => (r.nextVerse, fs)
  | .char 'k' => (r.prevVerse, fs)
  | .up => (r.prevVerse, fs)
  | .pageDown => (r.scrollBy 10, fs)
  | .pageUp => (r.scrollBy (-10), fs)
  | .char 'n' => (r.toggleNumbers, fs)
  | .char 'h' => (r.toggleHighlight, fs)
  | .char 't' => (r.cycleTemplate, fs)
  | .char 'w' => (r.trySave fs).2
  | .char 'q' => (r.requestQuit, fs)
  | .escape => (r.requestQuit, fs)
  | .char '?' => ({ r with mode := .help }, fs)
  | _ => (r, fs)

/-- Answers a key while the help is shown. -/
def helpKey (r : Reader) (k : KeyPress) : Reader :=
  match k.key with
  | .escape => { r with mode := .reading }
  | .char '?' => { r with mode := .reading }
  | .char 'q' => { r with mode := .reading }
  | _ => r

/-- Answers a key while the reader asks whether to save. -/
def promptKey (r : Reader) (fs : FileSystem) (k : KeyPress) : Reader × FileSystem :=
  let saveAndQuit : Reader × FileSystem :=
    match r.trySave fs with
    | (true, r, fs) => (r.quit, fs)
    | (false, r, fs) => ({ r with mode := .reading }, fs)
  let cancel : Reader := { r with mode := .reading, status := none }
  match k.key with
  | .char 'y' => saveAndQuit
  | .char 'Y' => saveAndQuit
  | .char 'n' => (r.quit, fs)
  | .char 'N' => (r.quit, fs)
  | .char 'c' => (cancel, fs)
  | .char 'C' => (cancel, fs)
  | .escape => (cancel, fs)
  | _ => (r, fs)

/-- Answers a key. -/
def press (r : Reader) (fs : FileSystem) (k : KeyPress) : Reader × FileSystem :=
  match r.mode with
  | .reading => r.readingKey fs k
  | .help => (r.helpKey k, fs)
  | .savePrompt => r.promptKey fs k

end Reader

end MarkedVerse
