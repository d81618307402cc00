import MarkedVerse.Text.Basic

/-!
# File trees

A file tree holds files and directories by their places, a place being the names on the way from
the top. Paths are resolved one name at a time: every name but the last has to lead into a
directory, and a symbolic link is followed to where its target leads. The operations fail with the
cause that the operating system gives.

A tree has one kind of permission, that of writing to a file, and it holds for everybody. Hard
links, other kinds of files, owners, and the permissions of directories are left out, and so are the
limits of a disk and of its names. Where one of them matters, a call of the program fails, which a
file system can make it do.
-/

namespace MarkedVerse

/-- The names on the way from the top of a tree. -/
abbrev Place := List String

/-- Why the operating system refuses an operation. -/
inductive OsError where
  | notFound
  | alreadyExists
  | notDirectory
  | isDirectory
  | permissionDenied
  | tooManyLinks
  | storageFull
  /-- Nothing more could be written, although nothing was refused. -/
  | writeZero
  | other (text : String)
  deriving DecidableEq, Repr

/-- The text of the operating system. -/
def OsError.message : OsError → String
  | notFound => "No such file or directory (os error 2)"
  | alreadyExists => "File exists (os error 17)"
  | notDirectory => "Not a directory (os error 20)"
  | isDirectory => "Is a directory (os error 21)"
  | permissionDenied => "Permission denied (os error 13)"
  | tooManyLinks => "Too many levels of symbolic links (os error 40)"
  | storageFull => "No space left on device (os error 28)"
  | writeZero => "failed to write whole buffer"
  | other text => text

/-- What stands at a place. -/
inductive Entry where
  | directory
  | file (bytes : ByteArray) (readOnly : Bool)

namespace Path

/-- The names in a path. -/
def names (path : String) : List String :=
  (((Text.splitOn '/' path.toList).filter fun n => !n.isEmpty).map String.ofList)

/-- The path can only mean a directory. -/
def wantsDirectory (path : String) : Bool :=
  path.toList.getLast? == some '/' || (names path).getLast?.any fun n => n == "." || n == ".."

/-- The path without the slashes and single dots at its end, written backwards. -/
def dropTail : Text → Text
  | '/' :: t => if t.isEmpty then ['/'] else dropTail t
  | '.' :: '/' :: t => if t.isEmpty then ['.', '/'] else dropTail t
  | t => t

/-- The path of the directory that holds the last name, if the path has a name. -/
def parent? (path : String) : Option String :=
  match dropTail path.toList.reverse with
  | [] => none
  | ['/'] => none
  | t =>
    match t.dropWhile (· != '/') with
    | [] => some ""
    | t => some (String.ofList (dropTail t).reverse)

/-- A path with the last name's extension replaced. The extension starts at the last dot of the
name, unless the name starts there; a name without an extension gets one. -/
def withExtension (path extension : String) : String :=
  let t := dropTail path.toList.reverse
  let name := t.takeWhile (· != '/')
  let before := t.dropWhile (· != '/')
  if name.isEmpty || name == ['.'] || name == ['.', '.'] then path
  else
    let stem := match name.dropWhile (· != '.') with
      | ['.'] => name
      | '.' :: stem => stem
      | _ => name
    String.ofList (before.reverse ++ stem.reverse) ++ "." ++ extension

/-- A path inside a directory. -/
def join (directory name : String) : String :=
  if directory.isEmpty || directory.toList.getLast? == some '/' then directory ++ name
  else directory ++ "/" ++ name

end Path

/-- Files and directories by their places, and the targets of symbolic links by theirs. The top is a
directory without an entry. Where there is a link, nothing else stands. -/
structure FileTree where
  entries : List (Place × Entry)
  links : List (Place × String)

namespace FileTree

/-- The tree without anything in it. -/
def empty : FileTree :=
  ⟨[], []⟩

/-- What stands at a place. -/
def get? (t : FileTree) (p : Place) : Option Entry :=
  if p.isEmpty then some .directory else t.entries.lookup p

/-- The target of the link with a name in a directory. The names made of dots are no links. -/
def link? (t : FileTree) (p : Place) (n : String) : Option String :=
  if n == "." || n == ".." then none else t.links.lookup (p ++ [n])

/-- Puts an entry at a place, instead of what stood there. -/
def put (t : FileTree) (p : Place) (e : Entry) : FileTree :=
  { t with entries := (p, e) :: t.entries.filter fun entry => entry.1 != p }

/-! ## Walking -/

/-- The place that a name leads to from a directory. -/
def next (p : Place) (n : String) : Place :=
  if n == "." then p else if n == ".." then p.dropLast else p ++ [n]

/-- Where following a link in a directory starts, and the names that are followed instead of it. A
target that can only mean a directory is followed by a dot. -/
def enter (directory : Place) (target : String) (names : List String) : Place × List String :=
  (if target.toList.head? == some '/' then [] else directory,
    Path.names target ++ if Path.wantsDirectory target then "." :: names else names)

/-- Follows names from a place that has to be a directory, up to the first link. Comes to a place
with no names left, or to where the link leads and the names that are left there. -/
def advance (t : FileTree) (p : Place) :
    List String → Except OsError (Place × Option (List String))
  | [] => .ok (p, none)
  | n :: names =>
    match t.get? p with
    | none => .error .notFound
    | some (.file _ _) => .error .notDirectory
    | some .directory =>
      match t.link? p n with
      | some target =>
        let (start, rest) := enter p target names
        .ok (start, some rest)
      | none => advance t (next p n) names

/-- Follows names and no more than so many links. Also gives the number of links that could still
be followed. -/
def walk (t : FileTree) : Nat → Place → List String → Except OsError (Nat × Place)
  | links, p, names =>
    match t.advance p names with
    | .error e => .error e
    | .ok (q, none) => .ok (links, q)
    | .ok (q, some rest) =>
      match links with
      | 0 => .error .tooManyLinks
      | links + 1 => walk t links q rest

/-- The greatest number of links that is followed on the way to one place. -/
def maxLinks : Nat :=
  40

/-- The place that a path means. Nothing has to stand there yet. -/
def resolve (t : FileTree) (path : String) : Except OsError Place := do
  if path.isEmpty then .error .notFound
  else
    let (_, p) ← t.walk maxLinks [] (Path.names path)
    match t.get? p with
    | some (.file _ _) => if Path.wantsDirectory path then .error .notDirectory else .ok p
    | _ => .ok p

/-- What a path leads to. -/
def stat (t : FileTree) (path : String) : Except OsError Entry := do
  match t.get? (← t.resolve path) with
  | some e => .ok e
  | none => .error .notFound

/-- The path leads to a directory. -/
def isDirectory (t : FileTree) (path : String) : Bool :=
  match t.stat path with
  | .ok .directory => true
  | _ => false

/-! ## Reading and writing -/

/-- The bytes of a file. -/
def read (t : FileTree) (path : String) : Except OsError ByteArray := do
  match ← t.stat path with
  | .file bytes _ => .ok bytes
  | .directory => .error .isDirectory

/-- Writes a file, which need not be there yet. -/
def write (t : FileTree) (path : String) (bytes : ByteArray) : Except OsError FileTree := do
  let p ← t.resolve path
  match t.get? p with
  | some .directory => .error .isDirectory
  | some (.file _ readOnly) =>
    if readOnly then .error .permissionDenied else .ok (t.put p (.file bytes false))
  | none =>
    if Path.wantsDirectory path then .error .isDirectory else .ok (t.put p (.file bytes false))

/-- The first bytes, if only so many are written. -/
def cut (bytes : ByteArray) : Option Nat → ByteArray
  | none => bytes
  | some count => bytes.extract 0 count

/-- Copies a file, or so many of its bytes, with its permission, which comes before the bytes. A
file that is copied onto itself ends up empty, because its old bytes are dropped before any are
read. -/
def copy (t : FileTree) (source target : String) (count : Option Nat) :
    Except OsError FileTree := do
  match ← t.stat source with
  | .directory => .error .isDirectory
  | .file bytes readOnly =>
    let same := (t.resolve source).toOption == (t.resolve target).toOption
    let bytes := cut (if same then ByteArray.empty else bytes) count
    let t ← t.write target bytes
    let p ← t.resolve target
    .ok (t.put p (.file bytes readOnly))

/-! ## Making directories -/

/-- Makes the directories on the way down from a place. Those that were made stay when something
stands in the way of the next one; `made` says that there are any. A link that cannot be followed
stands in the way like a file. -/
def makeBelow (t : FileTree) (made : Bool) (links : Nat) (p : Place) :
    List String → FileTree × Except OsError Unit
  | [] => (t, .ok ())
  | n :: names =>
    let blocked (cause : OsError) : FileTree × Except OsError Unit :=
      (t, .error (if made || names.isEmpty then .alreadyExists else cause))
    match t.walk links p [n] with
    | .error cause => blocked (if cause = .notFound then .alreadyExists else cause)
    | .ok (links, q) =>
      match t.get? q with
      | some .directory => makeBelow t made links q names
      | some (.file _ _) => blocked .notDirectory
      | none =>
        if (t.link? p n).isSome then blocked .alreadyExists
        else makeBelow (t.put q .directory) true links q names

/-- Makes a directory and those above it that are missing. -/
def makeDirectories (t : FileTree) (names : List String) : FileTree × Except OsError Unit :=
  t.makeBelow false maxLinks [] names

end FileTree

end MarkedVerse
