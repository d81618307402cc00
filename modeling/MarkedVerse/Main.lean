import MarkedVerse.Command.Run
import MarkedVerse.Config.Storage
import MarkedVerse.Screen.Draw

/-!
# The program

The command line is read, the files that the command is about are looked up, the command is run on
what was found, and files that it changed are written back. The reader is driven by lines of keys.
-/

namespace MarkedVerse

namespace Disk

/-- The value that an action gives, unless it fails. -/
def attempt {α : Type} (action : IO α) : IO (Option α) := do
  try return some (← action) catch _ => return none

/-- What stands at a path, a file without its bytes when they cannot be read. -/
def look (path : String) : IO (Option Entry) := do
  match ← attempt (IO.FS.realPath path) with
  | none => return none
  | some real =>
    if ← real.isDir then return some .directory
    let bytes ← attempt (IO.FS.readBinFile path)
    let writable := (← attempt (IO.FS.Handle.mk path .append)).isSome
    return some (.file (bytes.getD .empty) !writable)

/-- The tree with what stands on the way down to a path. -/
def addPath (tree : FileTree) (path : String) : IO FileTree := do
  let mut tree := tree
  let mut place := []
  let mut prefixPath := if path.startsWith "/" then "/" else ""
  for name in Path.names path do
    prefixPath := Path.join prefixPath name
    place := FileTree.next place name
    match ← look prefixPath with
    | some entry => if !place.isEmpty then tree := tree.put place entry
    | none => break
  return tree

/-- The tree of a path and of the copy that is kept beside it, where the file at the path may be one
that cannot be read. -/
def gather (path : String) : IO FileSystem := do
  let tree ← addPath (← addPath .empty path) (Path.withExtension path "bak")
  let readable := (← attempt (IO.FS.readBinFile path)).isSome
  return .failing tree (if readable then [] else [(.read path, ⟨.permissionDenied, none⟩)])

/-- Writes a file back when it has changed. -/
def settle (before after : FileSystem) (path : String) : IO Unit := do
  for path in [Path.withExtension path "bak", path] do
    match before.tree.read path, after.tree.read path with
    | old, .ok bytes =>
      if old.toOption.map ByteArray.data != some bytes.data then
        let parent := (Path.parent? path).getD ""
        if !parent.isEmpty then IO.FS.createDirAll parent
        IO.FS.writeBinFile path bytes
    | _, _ => pure ()

end Disk

namespace Main

/-- How the program is called. -/
def usage : String :=
  "Usage: marked-verse <command> [options]\n\n" ++
  "Commands:\n" ++
  "  parse <path> [--json]                       show the sections of a document\n" ++
  "  render <path> [--html] [--compact] [--numbers] [--highlight <verse>] [--width <cells>]\n" ++
  "  template <path> [--pattern <name>] [--in-place]\n" ++
  "  insert <path> --at <position> [--end <position>] [--style <alignment>] [--in-place]\n" ++
  "  strip <path>                                remove every marker\n" ++
  "  templates                                   list the templates\n" ++
  "  view [<path>]                               open the reader"

/-- The path of the configuration. -/
def configPath : IO (Option String) := do
  let platform ← do
    match ← IO.getEnv "XDG_CONFIG_HOME", ← IO.getEnv "HOME" with
    | some directory, _ => pure (some (Path.join directory "marked-verse"))
    | none, some home => pure (some (Path.join home ".config/marked-verse"))
    | none, none => pure none
  return Config.location (← IO.getEnv "MARKED_VERSE_CONFIG_PATH")
    (← IO.getEnv "MARKED_VERSE_CONFIG_DIR") platform

/-- Loads the configuration. -/
def loadConfig : IO Config := do
  let path ← configPath
  let before ← (path.map Disk.gather).getD (pure (.sound .empty))
  let (after, loaded) := Config.load before path
  if let some path := path then discard (Disk.attempt (Disk.settle before after path))
  match loaded with
  | .ok c => return c
  | .error e => throw (IO.userError e.message)

/-- Prints the screen. -/
def showScreen (r : Reader) : IO Reader := do
  match r.draw? 80 24 with
  | none => throw (IO.userError "The window stands too far down")
  | some (r, screen) =>
    for row in screen.rows do
      IO.println (String.ofList (Text.trimEnd (row.flatMap Cell.symbol)))
    return r

/-- Answers lines of keys until the reader is left. -/
partial def drive (r : Reader) (path : String) : IO Unit := do
  let r ← showScreen r
  let line ← (← IO.getStdin).getLine
  if line.isEmpty then return
  let mut reader := r
  for c in line.trimAscii.toString.toList do
    let before ← Disk.gather path
    let (next, after) := reader.press before ⟨.char c, false⟩
    Disk.settle before after path
    reader := next
  if reader.quitting then return
  drive reader path

/-- Opens the reader. -/
def view (path : Option String) : IO UInt32 := do
  let r := Reader.new (← loadConfig)
  match path with
  | none => drive r ""; return 0
  | some path =>
    match r.openAt (← Disk.gather path) path with
    | (r, .ok ()) => drive r path; return 0
    | (_, .error e) => IO.eprintln ("Error: " ++ e.message); return 1

/-- Runs a command that needs no terminal. -/
def runCommand (command : Command) : IO UInt32 := do
  let config ← loadConfig
  let path := command.path?.getD ""
  let before ← Disk.gather path
  let (after, out) := command.run config before
  Disk.settle before after path
  match out with
  | .ok t =>
    if !t.isEmpty then IO.println (String.ofList t)
    return 0
  | .error e => IO.eprintln ("Error: " ++ e.message); return 1

end Main

end MarkedVerse

/-- Runs the program. -/
def main (args : List String) : IO UInt32 := do
  match MarkedVerse.Usage.read args with
  | .ok (.view path) => MarkedVerse.Main.view path
  | .ok command => MarkedVerse.Main.runCommand command
  | .error .helpWanted => IO.println MarkedVerse.Main.usage; return 0
  | .error .versionWanted => IO.println "marked-verse 0.1.0"; return 0
  | .error _ => IO.eprintln MarkedVerse.Main.usage; return 2
