import MarkedVerse.Document
import MarkedVerse.FileSystem
import MarkedVerse.Text.Lines

/-!
# Document files

A document file is the place that a document was read from and is saved to. Saving keeps what the
file held before in a copy beside it.
-/

namespace MarkedVerse

/-- Why a document cannot be opened or saved. -/
inductive FileError where
  | notFound (path : String)
  | notFile (path : String)
  | binary (path : String)
  | notUtf8 (path : String)
  | unreadable (path : String) (cause : OsError)
  | noPath
  | noName
  | readOnly (path : String)
  | targetReadOnly (path : String)
  | tooLarge (bytes : Nat)
  | noDirectory (path : String) (cause : OsError)
  | unwritable (path : String) (cause : OsError)
  deriving DecidableEq, Repr

/-- The message for a reader. -/
def FileError.message : FileError → String
  | notFound path => "File not found: " ++ path
  | notFile path => "Not a file: " ++ path
  | binary path => "File looks like binary data: " ++ path
  | notUtf8 path => "File is not valid UTF-8: " ++ path
  | unreadable path .permissionDenied => "Permission denied reading: " ++ path
  | unreadable path .notFound => "File not found: " ++ path
  | unreadable path cause => "Failed to read " ++ path ++ ": " ++ cause.message
  | noPath => "No file path set"
  | noName => "No file name specified"
  | readOnly path => "File is read-only: " ++ path
  | targetReadOnly path => "Target file is read-only: " ++ path
  | tooLarge bytes => "Content too large (" ++ toString bytes ++ " bytes); saving is refused"
  | noDirectory path cause => "Failed to create directory: " ++ path ++ " - " ++ cause.message
  | unwritable path .permissionDenied => "Permission denied writing: " ++ path
  | unwritable path .writeZero => "Disk may be full: " ++ path
  | unwritable path cause => "Failed to write " ++ path ++ ": " ++ cause.message

/-- The path of the open document, and whether the file last looked at is protected. -/
structure DocumentFile where
  path : Option String
  readOnly : Bool
  deriving DecidableEq, Repr

namespace DocumentFile

/-- No document is open. -/
def closed : DocumentFile :=
  ⟨none, false⟩

/-- The greatest number of bytes that is saved. -/
def maxBytes : Nat :=
  50 * 1024 * 1024

/-- The document that bytes hold: text in UTF-8 without NUL. -/
def decode (path : String) (bytes : ByteArray) : Except FileError Document :=
  match String.fromUTF8? bytes with
  | none => .error (.notUtf8 path)
  | some s => if s.toList.contains '\x00' then .error (.binary path) else .ok (.ofString s)

/-- The protection of the file at a path. A file that nothing can be learned about counts as not
protected. -/
def protectionAt (fs : FileSystem) (path : String) : Bool :=
  match fs.look .details path with
  | .ok (.file _ readOnly) => readOnly
  | _ => false

/-- Opens the document at a path. The protection of the file is noted as soon as there is a file,
even when it cannot be read or turns out not to hold a document. -/
def openAt (f : DocumentFile) (fs : FileSystem) (path : String) :
    DocumentFile × Except FileError Document :=
  match fs.look .find path with
  | .error _ => (f, .error (.notFound path))
  | .ok _ =>
    match fs.look .kind path with
    | .ok (.file _ _) =>
      let readOnly := protectionAt fs path
      match fs.read path with
      | .error cause => ({ f with readOnly }, .error (.unreadable path cause))
      | .ok bytes =>
        match decode path bytes with
        | .error e => ({ f with readOnly }, .error e)
        | .ok d => (⟨some path, readOnly⟩, .ok d)
    | _ => (f, .error (.notFile path))

/-- The path of the copy that keeps the previous version. -/
def backupPath (path : String) : String :=
  Path.withExtension path "bak"

/-- The bytes of a document, when they are not too many. -/
def encode (d : Document) : Except FileError ByteArray :=
  let bytes := d.toString.toUTF8
  if maxBytes < bytes.size then .error (.tooLarge bytes.size) else .ok bytes

/-- Copies the file at a path to its backup when it holds anything. A copy that cannot be made
does not matter. -/
def backUp (fs : FileSystem) (path : String) : FileSystem :=
  match fs.look .details path with
  | .ok (.file bytes _) =>
    if bytes.size = 0 then fs else (fs.copy path (backupPath path)).1
  | _ => fs

/-- How many times a save goes on when the file cannot be written. -/
def moreAttempts : Nat :=
  2

/-- Saves a document to the path it was opened from. The files may change even when the document
cannot be written, because the backup is made first and because a call may break off. -/
def save (f : DocumentFile) (fs : FileSystem) (d : Document) :
    FileSystem × Except FileError String :=
  match f.path with
  | none => (fs, .error .noPath)
  | some path =>
    if f.readOnly then (fs, .error (.readOnly path))
    else match encode d with
      | .error e => (fs, .error e)
      | .ok bytes =>
        match (backUp fs path).writeAgain path bytes moreAttempts with
        | (fs, .error cause) => (fs, .error (.unwritable path cause))
        | (fs, .ok ()) => (fs, .ok (toString (Text.lineCount d.text) ++ " lines written"))

/-- Makes the directory for a path, when one is missing. -/
def prepareDirectory (fs : FileSystem) (path : String) : FileSystem × Except FileError Unit :=
  match Path.parent? path with
  | none => (fs, .ok ())
  | some parent =>
    if parent.isEmpty then (fs, .ok ())
    else match fs.look .find parent with
      | .ok _ => (fs, .ok ())
      | .error _ =>
        let (fs, made) := fs.makeDirectories parent
        (fs, made.mapError (.noDirectory parent))

/-- Saves a document to another path, which becomes the path of the document. -/
def saveAs (f : DocumentFile) (fs : FileSystem) (path : String) (d : Document) :
    DocumentFile × FileSystem × Except FileError String :=
  match prepareDirectory fs path with
  | (fs, .error e) => (f, fs, .error e)
  | (fs, .ok ()) =>
    match fs.look .find path, fs.look .details path with
    | .ok _, .ok (.file _ true) => (f, fs, .error (.targetReadOnly path))
    | _, _ =>
      match encode d with
      | .error e => (f, fs, .error e)
      | .ok bytes =>
        match fs.write path bytes with
        | (fs, .error cause) => (f, fs, .error (.unwritable path cause))
        | (fs, .ok ()) =>
          (⟨some path, false⟩, fs,
            .ok (toString (Text.lineCount d.text) ++ " lines written to '" ++ path ++ "'"))

end DocumentFile

end MarkedVerse
