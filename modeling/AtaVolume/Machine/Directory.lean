/-
AtaVolume.Machine.Directory — the files that images are kept in.

A path is followed name by name, from the working directory or, behind a
leading slash, from the root: `.` stays, and `..` goes back, also out of the
working directory. What is not known to be a directory or a file is not there.
Opening an image makes the file if there is none.
-/
import AtaVolume.Media.Image

namespace AtaVolume

/-- Why a file cannot be opened. -/
inductive FileError
  | notFound
  | isADirectory
  | notADirectory
  | nameTooLong
  deriving DecidableEq, Repr

/-- The error's text, as operating systems give it. -/
def FileError.message : FileError → String
  | .notFound => "No such file or directory (os error 2)"
  | .isADirectory => "Is a directory (os error 21)"
  | .notADirectory => "Not a directory (os error 20)"
  | .nameTooLong => "File name too long (os error 36)"

/-! ## §1 Places -/

/-- Where the names of a place start. -/
inductive Origin
  | root
  /-- The directory so many levels above the working directory. -/
  | above (levels : Nat)
  deriving DecidableEq, Repr

/-- A place in the tree of directories: where it starts, and the names that
lead to it from there. -/
structure Place where
  origin : Origin
  names : List String
  deriving DecidableEq, Repr

namespace Place

/-- The working directory. -/
def here : Place := ⟨.above 0, []⟩

/-- The directory above a place; the root is its own. -/
def parent (p : Place) : Place :=
  match p.names, p.origin with
  | [], .root => p
  | [], .above levels => ⟨.above (levels + 1), []⟩
  | names, origin => ⟨origin, names.dropLast⟩

/-- The place of a name in a directory. -/
def child (p : Place) (name : String) : Place := { p with names := p.names ++ [name] }

/-- Where a part of a path leads. -/
def step (p : Place) (part : String) : Place :=
  if part = "" ∨ part = "." then p
  else if part = ".." then p.parent
  else p.child part

/-- The parts of a path between its slashes. -/
def parts (path : String) : List String := (path.toList.splitOn '/').map String.ofList

/-- The paths to the directories on the way of a path, and the path itself. -/
def stages (path : String) : List String :=
  (List.range (parts path).length).map fun k => String.intercalate "/" ((parts path).take (k + 1))

/-- Where a path starts. -/
def start (path : String) : Place :=
  if path.toList.head? = some '/' then ⟨.root, []⟩ else here

/-- Where a path leads, if all on the way are directories. -/
def ofPath (path : String) : Place := (parts path).foldl step (start path)

/-- The place and the directories that its names lead through. -/
def chain (p : Place) : List Place :=
  (List.range p.names.length).map fun k => { p with names := p.names.take (k + 1) }

end Place

/-- What is known of the tree of directories: directories and files. The root,
the working directory and those above it are always there. -/
structure Directory where
  folders : List Place := []
  files : List (Place × FileContent) := []

namespace Directory

/-! ## §2 Following paths -/

/-- The longest path, and the longest name in one, in bytes. -/
abbrev maxPathLength : Nat := 4095
abbrev maxNameLength : Nat := 255

/-- The place is a directory. -/
def isFolder (d : Directory) (p : Place) : Bool := p.names.isEmpty || d.folders.contains p

/-- The content of the file at a place. -/
def file? (d : Directory) (p : Place) : Option FileContent := d.files.lookup p

/-- Follows one part of a path to what has to be a directory. -/
def enter (d : Directory) (p : Place) (part : String) : Except FileError Place :=
  let q := p.step part
  if maxNameLength < part.utf8ByteSize then .error .nameTooLong
  else if d.isFolder q then .ok q
  else if (d.file? q).isSome then .error .notADirectory
  else .error .notFound

/-- Follows parts of a path through directories. -/
def follow (d : Directory) (p : Place) (parts : List String) : Except FileError Place :=
  parts.foldlM d.enter p

/-- The place of the file that a path names, for a file that is opened or
made. The empty path leads nowhere, and one that ends in a slash or in dots can
name a directory only. -/
def locateFile (d : Directory) (path : String) : Except FileError Place :=
  if path.isEmpty then .error .notFound
  else if maxPathLength < path.utf8ByteSize then .error .nameTooLong
  else
    let parts := Place.parts path
    let named := (parts.reverse.dropWhile (· = "")).reverse
    match named.getLast? with
    | none => .error .isADirectory
    | some last =>
      match d.follow (Place.start path) named.dropLast with
      | .error e => .error e
      | .ok p =>
        if named.length < parts.length ∨ last = "." ∨ last = ".." then .error .isADirectory
        else if maxNameLength < last.utf8ByteSize then .error .nameTooLong
        else if d.isFolder (p.child last) then .error .isADirectory
        else .ok (p.child last)

/-! ## §3 Files -/

/-- The files with one of them replaced or added. -/
def putFile (place : Place) (content : FileContent) :
    List (Place × FileContent) → List (Place × FileContent)
  | [] => [(place, content)]
  | (p, old) :: rest =>
    if p = place then (p, content) :: rest else (p, old) :: putFile place content rest

/-- The directory with a file replaced or added. -/
def store (d : Directory) (place : Place) (content : FileContent) : Directory :=
  { d with files := putFile place content d.files }

/-- The directory with a folder at a path, and the folders on the way to it. -/
def withFolder (d : Directory) (path : String) : Directory :=
  { d with folders := d.folders ++ (Place.ofPath path).chain }

/-- The directory with a file at a path. -/
def withFile (d : Directory) (path : String) (content : FileContent) : Directory :=
  d.store (Place.ofPath path) content

/-- Opens the file of a path as an image of `sectors` sectors, and makes it if
it is not there. -/
def openImage (d : Directory) (path : String) (sectors : UInt32) :
    Except FileError (Place × FileImage × Directory) :=
  match d.locateFile path with
  | .error e => .error e
  | .ok place =>
    let image := FileImage.openContent ((d.file? place).getD FileContent.empty) sectors
    .ok (place, image, d.store place image.content)

/-- The names and lengths of the files that lie in the working directory
itself, by name. -/
def listing (d : Directory) : List (String × Nat) :=
  (d.files.filterMap fun (p, content) =>
    match p with
    | ⟨.above 0, [name]⟩ => some (name, content.length)
    | _ => none).mergeSort fun a b => a.1 ≤ b.1

end Directory

end AtaVolume
