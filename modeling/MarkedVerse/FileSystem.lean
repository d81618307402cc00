import MarkedVerse.FileTree

/-!
# File systems

A file system is a file tree behind calls of the operating system, any of which may fail: for want
of a permission, on a full disk, because of a name that is too long or of a device that does not
answer. A call that changes files is refused before anything has happened, or it breaks off on the
way. A file that is written has lost its old bytes by then and holds some of the new ones.
-/

namespace MarkedVerse

/-- A call of the operating system. -/
inductive Call where
  /-- Is there anything? -/
  | find (path : String)
  /-- What kind of thing is it? -/
  | kind (path : String)
  /-- Its size and its permission. -/
  | details (path : String)
  | read (path : String)
  | write (path : String)
  | copy (source target : String)
  | makeDirectories (path : String)
  deriving DecidableEq, Repr

/-- How a call fails. -/
structure CallFault where
  cause : OsError
  /-- How far a call that changes files came: it was refused, or it wrote so many bytes or looked
  after the directories of so many names. -/
  progress : Option Nat
  deriving DecidableEq, Repr

/-- A file tree, and which calls on it fail. The clock counts the calls that have tried to write a
file, so that what fails at first may succeed later on. -/
structure FileSystem where
  tree : FileTree
  clock : Nat
  faults : Nat → Call → Option CallFault
  /-- Nobody is told that there is nothing where something may be. -/
  honest : ∀ time path fault, faults time (.find path) = some fault → fault.cause ≠ .notFound

namespace FileSystem

/-- The file system on which no call fails but for what stands in the tree. -/
def sound (tree : FileTree) : FileSystem where
  tree
  clock := 0
  faults _ _ := none
  honest _ _ _ h := by cases h

/-- The file system on which these calls always fail like this. -/
def failing (tree : FileTree) (calls : List (Call × CallFault)) : FileSystem where
  tree
  clock := 0
  faults _ call := (calls.lookup call).filter fun fault => fault.cause != .notFound
  honest _ _ _ h := by simpa using (Option.filter_eq_some_iff.1 h).2

/-- How a call fails at the moment. -/
def fault? (fs : FileSystem) (call : Call) : Option CallFault :=
  fs.faults fs.clock call

/-- The file system with another tree. -/
def setTree (fs : FileSystem) (tree : FileTree) : FileSystem :=
  { fs with tree }

/-- The file system after one more call that has tried to write a file. -/
def tick (fs : FileSystem) : FileSystem :=
  { fs with clock := fs.clock + 1 }

/-! ## Calls that look -/

/-- Asks about what a path leads to. -/
def look (fs : FileSystem) (call : String → Call) (path : String) : Except OsError Entry :=
  match fs.fault? (call path) with
  | some fault => .error fault.cause
  | none => fs.tree.stat path

/-- The bytes of a file. -/
def read (fs : FileSystem) (path : String) : Except OsError ByteArray :=
  match fs.fault? (.read path) with
  | some fault => .error fault.cause
  | none => fs.tree.read path

/-! ## Calls that change files -/

/-- Carries out a call that changes the tree, or the part of it that comes before it breaks off. -/
def perform (fs : FileSystem) (call : Call) (change : Option Nat → Except OsError FileTree) :
    FileSystem × Except OsError Unit :=
  match fs.fault? call with
  | some ⟨cause, none⟩ => (fs, .error cause)
  | some ⟨cause, some progress⟩ =>
    match change (some progress) with
    | .ok tree => (fs.setTree tree, .error cause)
    | .error e => (fs, .error e)
  | none =>
    match change none with
    | .ok tree => (fs.setTree tree, .ok ())
    | .error e => (fs, .error e)

/-- Writes a file, which need not be there yet. -/
def write (fs : FileSystem) (path : String) (bytes : ByteArray) :
    FileSystem × Except OsError Unit :=
  let performed :=
    fs.perform (.write path) fun count => fs.tree.write path (FileTree.cut bytes count)
  (performed.1.tick, performed.2)

/-- Writes a file, and up to `more` times again while that fails. The last failure counts. -/
def writeAgain (fs : FileSystem) (path : String) (bytes : ByteArray) :
    Nat → FileSystem × Except OsError Unit
  | 0 => fs.write path bytes
  | more + 1 =>
    match fs.write path bytes with
    | (fs, .ok ()) => (fs, .ok ())
    | (fs, .error _) => writeAgain fs path bytes more

/-- Copies a file with its permission. -/
def copy (fs : FileSystem) (source target : String) : FileSystem × Except OsError Unit :=
  fs.perform (.copy source target) fun count => fs.tree.copy source target count

/-- Makes a directory and those above it that are missing. There is nothing to do for no path. -/
def makeDirectories (fs : FileSystem) (path : String) : FileSystem × Except OsError Unit :=
  if path.isEmpty then (fs, .ok ())
  else
    match fs.fault? (.makeDirectories path) with
    | some fault =>
      let names := (Path.names path).take (fault.progress.getD 0)
      (fs.setTree (fs.tree.makeDirectories names).1, .error fault.cause)
    | none =>
      let (tree, made) := fs.tree.makeDirectories (Path.names path)
      (fs.setTree tree, made)

end FileSystem

end MarkedVerse
