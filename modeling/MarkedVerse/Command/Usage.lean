import MarkedVerse.Alignment
import MarkedVerse.Text.Digits

/-!
# Command lines

A command line names one command, followed by its options and at most one path. Options may stand
anywhere, a long one as `--name value` or `--name=value`, a short one also with its value attached,
and after `--` everything is a path. Values are checked when the next argument is understood, so
an argument that nobody knows is reported before a bad value in front of it.
-/

namespace MarkedVerse

/-- What is asked for on the command line. -/
inductive Command where
  | parse (path : String) (json : Bool)
  | render (path : String) (html compact numbers : Bool) (highlight width : Option Nat)
  | template (path : String) (pattern : Option String) (inPlace : Bool)
  | insert (path : String) (start : Nat) (stop : Option Nat) (style : Alignment) (inPlace : Bool)
  | strip (path : String)
  | templates
  | view (path : Option String)
  deriving DecidableEq, Repr

/-- Why a command line names no command. Asking for help or for the version is among the reasons. -/
inductive UsageError where
  | helpWanted
  | versionWanted
  | noCommand
  | unknownCommand
  | unknownArgument
  | missingArgument
  /-- An option without its value, or an empty path. -/
  | missingValue
  | badValue
  | repeatedOption
  | unexpectedValue
  deriving DecidableEq, Repr

namespace Usage

/-- What the value of an option has to be. -/
inductive ValueKind where
  | text
  | path
  /-- A number below 2^64. -/
  | count
  /-- A number of cells, below 2^16. -/
  | cells
  | alignment
  deriving DecidableEq, Repr

/-- An option. Without a kind of value it is a switch. -/
structure OptionSpec where
  name : String
  short : Option Char
  kind : Option ValueKind
  deriving DecidableEq, Repr

/-- The arguments of a command. -/
structure CommandSpec where
  name : String
  /-- The command takes a path. -/
  takesPath : Bool
  options : List OptionSpec
  deriving DecidableEq, Repr

/-- A switch. -/
def switch (name : String) : OptionSpec :=
  ⟨name, none, none⟩

/-- An option with a value. -/
def valued (name : String) (kind : ValueKind) : OptionSpec :=
  ⟨name, none, some kind⟩

/-- Every command. -/
def commands : List CommandSpec :=
  [⟨"parse", true, [switch "json"]⟩,
   ⟨"render", true, [switch "html", switch "compact", switch "numbers", valued "highlight" .count,
     valued "width" .cells]⟩,
   ⟨"template", true, [⟨"pattern", some 'p', some .text⟩, switch "in-place"]⟩,
   ⟨"insert", true, [valued "at" .count, valued "end" .count, valued "style" .alignment,
     switch "in-place"]⟩,
   ⟨"strip", true, []⟩,
   ⟨"templates", false, []⟩,
   ⟨"view", true, []⟩]

/-- The number that decimal digits, with a plus sign or without, stand for. -/
def natural? (t : Text) : Option Nat :=
  let digits := match t with
    | '+' :: digits => digits
    | _ => t
  if digits.isEmpty || !digits.all Char.isDigit then none else some (Text.ofDecimal digits)

/-- The number of cells that a text stands for. Minus zero is zero. -/
def cells? (t : Text) : Option Nat :=
  match t with
  | '-' :: digits =>
    if !digits.isEmpty && digits.all (· == '0') then some 0 else none
  | _ => (natural? t).filter (· < UInt16.size)

/-- A value as an argument gives it, checked. -/
inductive Value where
  | text (s : String)
  | number (n : Nat)
  | alignment (a : Alignment)
  deriving DecidableEq, Repr

/-- The value that an argument gives for an option of this kind. -/
def readValue (kind : ValueKind) (argument : String) : Except UsageError Value :=
  let numbered (n : Option Nat) : Except UsageError Value :=
    match n with
    | some n => .ok (.number n)
    | none => .error .badValue
  match kind with
  | .text => .ok (.text argument)
  | .path => if argument.isEmpty then .error .missingValue else .ok (.text argument)
  | .count => numbered ((natural? argument.toList).filter (· < UInt64.size))
  | .cells => numbered (cells? argument.toList)
  | .alignment =>
    match Alignment.ofName argument with
    | .ok a => .ok (.alignment a)
    | .error _ => .error .badValue

/-- An argument that is still to be checked. -/
inductive Pending where
  | nothing
  | option (o : OptionSpec) (argument : Option String)
  | path (argument : String)
  deriving DecidableEq, Repr

/-- What was read of the arguments of a command. -/
structure Reading where
  switches : List String
  values : List (String × Value)
  pending : Pending
  /-- Everything from here on is a path. -/
  onlyPaths : Bool
  /-- There was a path already. -/
  hasPath : Bool
  deriving DecidableEq, Repr

namespace Reading

/-- Nothing was read. -/
def start : Reading :=
  ⟨[], [], .nothing, false, false⟩

/-- Gives an option its value; an option may be given only once. -/
def setValue (r : Reading) (o : OptionSpec) (kind : ValueKind) (argument : String) :
    Except UsageError Reading := do
  if (r.values.lookup o.name).isSome then .error .repeatedOption
  else .ok { r with values := (o.name, ← readValue kind argument) :: r.values }

/-- Checks the argument that is still to be checked. -/
def settle (r : Reading) : Except UsageError Reading :=
  match r.pending with
  | .nothing => .ok r
  | .option _ none => .error .missingValue
  | .option o (some argument) =>
    ({ r with pending := .nothing }).setValue o (o.kind.getD .text) argument
  | .path argument =>
    ({ r with pending := .nothing }).setValue (valued "path" .path) .path argument

/-- Reads a switch. -/
def setSwitch (r : Reading) (o : OptionSpec) : Except UsageError Reading := do
  let r ← r.settle
  if r.switches.contains o.name then .error .repeatedOption
  else .ok { r with switches := o.name :: r.switches }

/-- Reads an option that has a value, attached to it or in the next argument. -/
def setOption (r : Reading) (o : OptionSpec) (kind : ValueKind) (attached : Option String) :
    Except UsageError Reading := do
  let r ← r.settle
  match attached with
  | some argument => r.setValue o kind argument
  | none => .ok { r with pending := .option o none }

/-- Reads help as it is asked for; what stands before has to be in order. -/
def help (r : Reading) : Except UsageError Reading := do
  let _ ← r.settle
  .error .helpWanted

/-- Reads an argument that starts with two dashes. -/
def long (r : Reading) (spec : CommandSpec) (body : Text) : Except UsageError Reading :=
  let name := String.ofList (body.takeWhile (· != '='))
  let attached := match body.dropWhile (· != '=') with
    | '=' :: argument => some (String.ofList argument)
    | _ => none
  if name == "help" then if attached.isSome then .error .unexpectedValue else r.help
  else
    match spec.options.find? fun o => o.name == name with
    | none => .error .unknownArgument
    | some o =>
      match o.kind with
      | some kind => r.setOption o kind attached
      | none => if attached.isSome then .error .unexpectedValue else r.setSwitch o

/-- Reads an argument that starts with one dash. -/
def short (r : Reading) (spec : CommandSpec) (body : Text) : Except UsageError Reading :=
  match body with
  | [] => .ok r
  | c :: rest =>
    if c = 'h' then r.help
    else
      match spec.options.find? fun o => o.short == some c with
      | none => .error .unknownArgument
      | some o =>
        match o.kind with
        | some kind =>
          let attached := match rest with
            | [] => none
            | '=' :: argument => some (String.ofList argument)
            | _ => some (String.ofList rest)
          r.setOption o kind attached
        | none => do short (← r.setSwitch o) spec rest

/-- Reads a path. -/
def path (r : Reading) (spec : CommandSpec) (argument : String) : Except UsageError Reading := do
  if !spec.takesPath || r.hasPath then .error .unknownArgument
  else
    let r ← r.settle
    .ok { r with pending := .path argument, hasPath := true }

/-- Reads one argument. -/
def step (r : Reading) (spec : CommandSpec) (argument : String) : Except UsageError Reading :=
  if r.onlyPaths then r.path spec argument
  else
    match argument.toList with
    | ['-', '-'] => .ok { r with onlyPaths := true }
    | '-' :: '-' :: body => r.long spec body
    | '-' :: c :: body => r.short spec (c :: body)
    | _ =>
      match r.pending with
      | .option o none => .ok { r with pending := .option o (some argument) }
      | _ => r.path spec argument

/-- The switch is on. -/
def has (r : Reading) (name : String) : Bool :=
  r.switches.contains name

/-- The text that an option was given. -/
def text? (r : Reading) (name : String) : Option String :=
  match r.values.lookup name with
  | some (.text s) => some s
  | _ => none

/-- The number that an option was given. -/
def number? (r : Reading) (name : String) : Option Nat :=
  match r.values.lookup name with
  | some (.number n) => some n
  | _ => none

/-- The alignment that an option was given. -/
def alignment? (r : Reading) (name : String) : Option Alignment :=
  match r.values.lookup name with
  | some (.alignment a) => some a
  | _ => none

/-- An argument that has to be there. -/
def required {α : Type} : Option α → Except UsageError α
  | some x => .ok x
  | none => .error .missingArgument

/-- The command of this name with the arguments that were read. -/
def command (r : Reading) (name : String) : Except UsageError Command :=
  match name with
  | "parse" => do .ok (.parse (← required (r.text? "path")) (r.has "json"))
  | "render" => do
    .ok (.render (← required (r.text? "path")) (r.has "html") (r.has "compact") (r.has "numbers")
      (r.number? "highlight") (r.number? "width"))
  | "template" => do
    .ok (.template (← required (r.text? "path")) (r.text? "pattern") (r.has "in-place"))
  | "insert" => do
    .ok (.insert (← required (r.text? "path")) (← required (r.number? "at")) (r.number? "end")
      ((r.alignment? "style").getD .right) (r.has "in-place"))
  | "strip" => do .ok (.strip (← required (r.text? "path")))
  | "templates" => .ok .templates
  | _ => .ok (.view (r.text? "path"))

end Reading

/-- Reads the arguments of a command. -/
def readCommand (spec : CommandSpec) (arguments : List String) : Except UsageError Command := do
  let r ← arguments.foldlM (fun r argument => Reading.step r spec argument) Reading.start
  (← r.settle).command spec.name

/-- Names of commands that help is wanted for: one at most, and it has to be a command. -/
def readHelp : List String → Except UsageError Command
  | [] => .error .helpWanted
  | [name] =>
    if name == "help" || commands.any fun c => c.name == name then .error .helpWanted
    else .error .unknownCommand
  | _ => .error .unknownCommand

/-- Reads one-letter options in front of the command. -/
def readShort : Text → Except UsageError Unit
  | [] => .ok ()
  | 'h' :: _ => .error .helpWanted
  | 'V' :: _ => .error .versionWanted
  | _ => .error .unknownArgument

/-- Reads an option in front of the command. -/
def readLong (body : Text) : Except UsageError Command :=
  let attached := body.contains '='
  let name := String.ofList (body.takeWhile (· != '='))
  if name == "help" then .error (if attached then .unexpectedValue else .helpWanted)
  else if name == "version" then .error (if attached then .unexpectedValue else .versionWanted)
  else .error .unknownArgument

/-- Reads a command line. -/
def read : List String → Except UsageError Command
  | [] => .error .noCommand
  | first :: rest =>
    match first.toList with
    | ['-', '-'] =>
      match rest with
      | [] => .error .noCommand
      | name :: _ =>
        if name == "help" || commands.any fun c => c.name == name then .error .unknownArgument
        else .error .unknownCommand
    | '-' :: '-' :: body => readLong body
    | '-' :: c :: body =>
      match readShort (c :: body) with
      | .ok () => .error .noCommand
      | .error e => .error e
    | _ =>
      if first == "help" then readHelp rest
      else
        match commands.find? fun c => c.name == first with
        | some spec => readCommand spec rest
        | none => .error .unknownCommand

end Usage

end MarkedVerse
