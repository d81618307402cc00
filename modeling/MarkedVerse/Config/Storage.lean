import MarkedVerse.Config.Decode
import MarkedVerse.Config.Encode
import MarkedVerse.FileSystem

/-!
# Where the configuration is kept

The configuration is kept in a file. Loading never fails because of what the file holds: a file
that cannot be used is kept in a copy beside it, and the standard configuration takes its place.
-/

namespace MarkedVerse.Config

/-- Why a configuration cannot be loaded or saved. -/
inductive StorageError where
  | unreachable (cause : OsError)
  | noDirectory (path : String) (cause : OsError)
  | unwritable (path : String) (cause : OsError)
  deriving DecidableEq, Repr

/-- The message for a user. -/
def StorageError.message : StorageError → String
  | unreachable cause => cause.message
  | noDirectory path cause =>
    "Failed to create config directory: " ++ path ++ " - " ++ cause.message
  | unwritable path cause => "Failed to write config file: " ++ path ++ " - " ++ cause.message

/-- The name of the file in its directory. -/
def fileName : String :=
  "config.json"

/-- The path of the configuration: the one that the user names, or else the file in the directory
that the user names, or else the file in the directory of the platform. -/
def location (file directory platform : Option String) : Option String :=
  file <|> (directory.map fun d => Path.join d fileName) <|>
    (platform.map fun d => Path.join d fileName)

/-- The path of the directory that a file is saved in. -/
def directoryOf (file : String) : String :=
  (Path.parent? file).getD ""

/-- Saves a configuration after validating it. Directories that are missing are made. The files
may change even when the configuration cannot be written. -/
def save (c : Config) (fs : FileSystem) (path : Option String) :
    FileSystem × Except StorageError Unit :=
  match path with
  | none => (fs, .ok ())
  | some path =>
    match fs.makeDirectories (directoryOf path) with
    | (fs, .error e) => (fs, .error (.noDirectory (directoryOf path) e))
    | (fs, .ok ()) =>
      let (fs, written) := fs.write path (String.ofList c.validate.encode).toUTF8
      (fs, written.mapError (.unwritable path))

/-- The standard configuration, saved where that is possible. -/
def restore (fs : FileSystem) (path : Option String) : FileSystem × Except StorageError Config :=
  ((standard.save fs path).1, .ok standard)

/-- The path of the copy that keeps a file that cannot be used. -/
def backupPath (path : String) : String :=
  Path.withExtension path "bak"

/-- Loads the configuration. When there is none, or none that can be used, the standard one is
saved in its place; a text that is no configuration is copied first. -/
def load (fs : FileSystem) (path : Option String) : FileSystem × Except StorageError Config :=
  match path with
  | none => restore fs none
  | some file =>
    match fs.look .find file with
    | .error .notFound => restore fs path
    | .error cause => (fs, .error (.unreachable cause))
    | .ok _ =>
      match fs.read file with
      | .error _ => restore fs path
      | .ok bytes =>
        match String.fromUTF8? bytes with
        | none => restore fs path
        | some s =>
          if (Text.trim s.toList).isEmpty then restore fs path
          else
            match decode s.toList with
            | .ok c => (fs, .ok c.validate)
            | .error _ => restore (fs.copy file (backupPath file)).1 path

end MarkedVerse.Config
