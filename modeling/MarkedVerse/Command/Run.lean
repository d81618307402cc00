import MarkedVerse.Command.Usage
import MarkedVerse.Config
import MarkedVerse.DocumentFile
import MarkedVerse.Html.Sanitize
import MarkedVerse.Listing
import MarkedVerse.Page

/-!
# Commands

A command opens a document and gives the text to print. Only a template or a break that is asked for
in place changes a file, and then nothing is printed.
-/

namespace MarkedVerse

/-- Why a command fails. -/
inductive CommandError where
  | file (cause : FileError)
  | template (cause : TemplateError)
  /-- The verse to highlight was given as zero. -/
  | verseZero
  /-- The command needs a terminal. -/
  | interactive
  deriving DecidableEq, Repr

/-- The message for a user. -/
def CommandError.message : CommandError → String
  | file cause => cause.message
  | template cause => cause.message
  | verseZero => "Verses are numbered from 1"
  | interactive => "The view command runs the interactive reader"

namespace Command

/-- The path of the document that a command is about. -/
def path? : Command → Option String
  | parse path _ => some path
  | render path _ _ _ _ _ => some path
  | template path _ _ => some path
  | insert path _ _ _ _ => some path
  | strip path => some path
  | templates => none
  | view path => path

/-- The render configuration that flags ask for. The verse to highlight is counted from one, and
nothing is on that no flag asks for. -/
def renderFlags (compact numbers : Bool) (highlight : Option Nat) :
    Except CommandError RenderConfig :=
  match highlight with
  | some 0 => .error .verseZero
  | some (verse + 1) => .ok ⟨compact, true, some verse, numbers⟩
  | none => .ok ⟨compact, false, none, numbers⟩

/-- The document as clean HTML. -/
def renderHtml (d : Document) (flags : RenderConfig) : Text :=
  Html.sanitize (Html.render d.sections flags)

/-- The document as it stands in a column, which may be narrower than the configured one. -/
def renderPlain (c : Config) (d : Document) (flags : RenderConfig) (width : Option Nat) : Text :=
  let style := PageStyle.ofConfig c.reader
  (Page.render d.sections flags ((width.map style.fitTo).getD style)).toPlainText

/-- The line of a template: its name, its styles and its description. -/
def templateLine (p : Pattern) : Text :=
  let styles := Text.join [',', ' '] (p.styles.map fun a => a.name.toList)
  Text.trimEnd
    (Text.padEnd 10 p.name.toList ++ Text.padEnd 24 styles ++ p.description.toList)

/-- The lines of all templates. -/
def templateListing (c : Config) : Text :=
  Text.join ['\n'] (c.catalog.patterns.map templateLine)

/-- The document after the template of this name, or after the default one. -/
def applyTemplate (c : Config) (d : Document) (name : Option String) :
    Except CommandError Document := do
  let pattern ← (c.catalog.get (name.getD c.defaultTemplate)).mapError .template
  let (styled, _) ← (d.applyTemplate pattern).mapError .template
  return styled

/-- An edited document goes back to its file, or is printed. -/
def deliver (f : DocumentFile) (fs : FileSystem) (d : Document) (inPlace : Bool) :
    FileSystem × Except CommandError Text :=
  if inPlace then
    let (fs, saved) := f.save fs d
    (fs, (saved.mapError .file).map fun _ => [])
  else (fs, .ok d.text)

/-- Runs a command on the document at a path. -/
def withDocument (fs : FileSystem) (path : String)
    (run : DocumentFile → Document → FileSystem × Except CommandError Text) :
    FileSystem × Except CommandError Text :=
  match DocumentFile.closed.openAt fs path with
  | (_, .error e) => (fs, .error (.file e))
  | (f, .ok d) => run f d

/-- Runs a command. -/
def run (c : Config) (fs : FileSystem) : Command → FileSystem × Except CommandError Text
  | parse path json =>
    withDocument fs path fun _ d => (fs, .ok (Listing.ofText d.text json))
  | render path html compact numbers highlight width =>
    withDocument fs path fun _ d =>
      (fs, (renderFlags compact numbers highlight).map fun flags =>
        if html then renderHtml d flags else renderPlain c d flags width)
  | template path name inPlace =>
    withDocument fs path fun f d =>
      match applyTemplate c d name with
      | .error e => (fs, .error e)
      | .ok styled => deliver f fs styled inPlace
  | insert path start stop style inPlace =>
    withDocument fs path fun f d =>
      deliver f fs (d.insertBreak start (stop.getD start) style).1 inPlace
  | strip path => withDocument fs path fun _ d => (fs, .ok d.strip)
  | templates => (fs, .ok (templateListing c))
  | view _ => (fs, .error .interactive)

end Command

end MarkedVerse
