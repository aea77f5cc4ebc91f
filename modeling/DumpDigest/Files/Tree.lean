import DumpDigest.Files.Path
import DumpDigest.SortedMap.Basic

/-! # The file tree

Files and directories by the place where they are. A path leads to a place step by step: every step
starts from a directory, a double dot goes back, a name goes to an entry that has to be there. Names
and paths are limited in length, counted in bytes, and have no null characters.
-/

namespace DumpDigest

/-- The names that lead to a place from the root. -/
abbrev Location := List String

/-- What is at a place. -/
inductive Entry where
  | file (content : ByteArray)
  | directory

/-- Why a file or a directory cannot be reached, read or made. -/
inductive FileError where
  | notFound
  | alreadyThere
  | notDirectory
  | isDirectory
  | nameTooLong
  | nullCharacter
  | notText
  deriving DecidableEq

/-- The message of a file error. -/
def FileError.message : FileError → String
  | notFound => "No such file or directory (os error 2)"
  | alreadyThere => "File exists (os error 17)"
  | notDirectory => "Not a directory (os error 20)"
  | isDirectory => "Is a directory (os error 21)"
  | nameTooLong => "File name too long (os error 36)"
  | nullCharacter => "file name contained an unexpected NUL byte"
  | notText => "stream did not contain valid UTF-8"

/-- How many bytes a name has at most. -/
def nameLimit : Nat := 255

/-- How many bytes a path has at most. -/
def pathLimit : Nat := 4095

/-- Refuses paths that cannot be asked for at all, whatever the files are. -/
def Path.requireWellFormed (path : Path) : Except FileError Unit := do
  if path.text.toList.contains '\x00' then throw .nullCharacter
  if pathLimit < path.text.utf8ByteSize then throw .nameTooLong

/-- The entries below the root, and the place from which relative paths start. -/
structure FileTree where
  entries : SortedMap Location Entry
  workingDirectory : Location

/-- Whether an entry is a directory. -/
def Entry.isDirectory : Entry → Bool
  | directory => true
  | file _ => false

namespace FileTree

/-- What is at a place; the root is a directory. -/
def entry? (tree : FileTree) (place : Location) : Option Entry :=
  if place = [] then some .directory else tree.entries.find? place

/-- The tree with an entry at a place. -/
def put (tree : FileTree) (place : Location) (entry : Entry) : FileTree :=
  { tree with entries := tree.entries.insert place entry }

/-- Refuses places that are no directories. -/
def requireDirectory (tree : FileTree) (place : Location) : Except FileError Unit :=
  match tree.entry? place with
  | some .directory => .ok ()
  | some (.file _) => .error .notDirectory
  | none => .error .notFound

/-- What a directory has under a name. -/
def child? (tree : FileTree) (place : Location) (name : String) :
    Except FileError (Option Entry) :=
  if nameLimit < name.utf8ByteSize then .error .nameTooLong
  else .ok (tree.entry? (place ++ [name]))

/-- The place to which a name leads from a place. -/
def step (tree : FileTree) (place : Location) (name : String) : Except FileError Location := do
  tree.requireDirectory place
  if name = "." then return place
  else if name = ".." then return place.dropLast
  else
    match ← tree.child? place name with
    | some _ => return place ++ [name]
    | none => throw .notFound

/-- The place to which names lead from a place. -/
def walk (tree : FileTree) (start : Location) (names : List String) : Except FileError Location :=
  names.foldlM tree.step start

/-- The place from which a path starts. -/
def start (tree : FileTree) (path : Path) : Location :=
  if path.isAbsolute then [] else tree.workingDirectory

/-- The place to which a path leads; a slash at its end asks for a directory. -/
def locate (tree : FileTree) (path : Path) : Except FileError Location := do
  path.requireWellFormed
  if path.text.isEmpty then throw .notFound
  let place ← tree.walk (tree.start path) path.parts
  if path.endsInSlash then tree.requireDirectory place
  return place

/-- What is at the end of a path. -/
def at? (tree : FileTree) (path : Path) : Option Entry :=
  match tree.locate path with
  | .ok place => tree.entry? place
  | .error _ => none

/-- Whether a path leads to a directory. -/
def isDirectory (tree : FileTree) (path : Path) : Bool :=
  (tree.at? path).any Entry.isDirectory

/-! ### Reading -/

/-- The content of a file. -/
def read (tree : FileTree) (path : Path) : Except FileError ByteArray := do
  match tree.entry? (← tree.locate path) with
  | some (.file content) => return content
  | some .directory => throw .isDirectory
  | none => throw .notFound

/-- The text of a file. -/
def readText (tree : FileTree) (path : Path) : Except FileError String := do
  match String.fromUTF8? (← tree.read path) with
  | some text => return text
  | none => throw .notText

/-- The size of a file in bytes, zero if there is none. -/
def fileSize (tree : FileTree) (path : Path) : Nat :=
  match tree.read path with
  | .ok content => content.size
  | .error _ => 0

/-! ### Making directories and files -/

/-- The place and the name at the end of a path that names lead to from a place: the directory in
which the last name is to be looked up, and that name. -/
def lastStep (tree : FileTree) (start : Location) (names : List String) :
    Except FileError (Location × Option String) := do
  let place ← tree.walk start names.dropLast
  tree.requireDirectory place
  return (place, names.getLast?.filter fun name => name ≠ "." && name ≠ "..")

/-- The tree with a new directory; there must not be anything in its place. -/
def makeDirectory (tree : FileTree) (start : Location) (names : List String) :
    Except FileError FileTree := do
  match ← tree.lastStep start names with
  | (place, some name) =>
    match ← tree.child? place name with
    | some _ => throw .alreadyThere
    | none => return tree.put (place ++ [name]) .directory
  | (_, none) => throw .alreadyThere

/-- Whether names lead to a directory. -/
def leadToDirectory (tree : FileTree) (start : Location) (names : List String) : Bool :=
  match tree.walk start names with
  | .ok place => (tree.entry? place).any Entry.isDirectory
  | .error _ => false

/-- The tree with a directory at the end of names, which are given in reverse, and with those that
are missing on the way to it. What has been made stays when a later one cannot be made. -/
def makeDirectories (start : Location) : (reversed : List String) → FileTree →
    FileTree × Except FileError Unit
  | [], tree => (tree, .ok ())
  | last :: before, tree =>
    let names := before.reverse ++ [last]
    let settle (tree : FileTree) (reason : FileError) : FileTree × Except FileError Unit :=
      (tree, if tree.leadToDirectory start names then .ok () else .error reason)
    match tree.makeDirectory start names with
    | .ok made => (made, .ok ())
    | .error .notFound =>
      match makeDirectories start before tree with
      | (made, .error reason) => (made, .error reason)
      | (made, .ok ()) =>
        match made.makeDirectory start names with
        | .ok all => (all, .ok ())
        | .error reason => settle made reason
    | .error reason => settle tree reason

/-- The tree with the directory of a path, and with those that are missing on the way to it. -/
def ensureDirectory (tree : FileTree) (path : Path) : FileTree × Except FileError Unit :=
  match path.requireWellFormed with
  | .ok () => makeDirectories (tree.start path) path.names.reverse tree
  | .error reason => (tree, .error reason)

/-- The tree with a file of the given content, in the place of a file that may be there. -/
def write (tree : FileTree) (path : Path) (content : ByteArray) : Except FileError FileTree := do
  path.requireWellFormed
  if path.text.isEmpty then throw .notFound
  match ← tree.lastStep (tree.start path) path.parts with
  | (_, none) => throw .isDirectory
  | (place, some name) =>
    if path.endsInSlash then throw .isDirectory
    match ← tree.child? place name with
    | some .directory => throw .isDirectory
    | _ => return tree.put (place ++ [name]) (.file content)

end FileTree

end DumpDigest
