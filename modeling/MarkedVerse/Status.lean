import MarkedVerse.Layout
import MarkedVerse.Text.Digits

/-!
# Status

A status message tells the reader for a few seconds what happened. The reading summary tells at
any time how the document is shown and where the reader is.
-/

namespace MarkedVerse

namespace Status

/-- How much a message matters. -/
inductive Severity where
  | info
  | success
  | warning
  | error
  deriving DecidableEq, Repr

/-- The milliseconds for which a message is shown. -/
def Severity.lifetime : Severity → Nat
  | info => 3000
  | success => 2000
  | warning => 5000
  | error => 7000

/-- A message, with the milliseconds for which it is shown unless it stays. -/
structure Message where
  content : String
  severity : Severity
  lifetime : Option Nat
  deriving DecidableEq, Repr

/-- A message that is shown as long as its severity asks for. -/
def Message.new (content : String) (severity : Severity) : Message :=
  ⟨content, severity, some severity.lifetime⟩

/-- The message has been there for too long, when `age` milliseconds have passed. -/
def Message.isExpired (m : Message) (age : Nat) : Bool :=
  m.lifetime.any fun lifetime => lifetime ≤ age

/-- The message that is left after `age` milliseconds. -/
def update (current : Option Message) (age : Nat) : Option Message :=
  current.filter fun m => !m.isExpired age

/-- What the summary says of the reading position. -/
def position (config : RenderConfig) (verses : Nat) : String :=
  match config.highlight, config.currentVerse with
  | true, some verse => "verse " ++ toString (verse + 1) ++ "/" ++ toString verses
  | _, _ => toString verses ++ " verses"

/-- The summary: unsaved changes, the template, what is switched on, and the position. -/
def summary (config : RenderConfig) (template : Option String) (verses : Nat) (modified : Bool) :
    String :=
  "  ".intercalate <|
    (if modified then ["[+]"] else []) ++
    (template.map fun name => "template:" ++ name).toList ++
    (if config.compact then ["compact"] else []) ++
    (if config.numbers then ["numbers"] else []) ++
    [position config verses]

end Status

end MarkedVerse
