/-! # Paths

A path is a text of names with slashes between them. Empty names and single dots in it mean nothing,
except for a dot at the very start; the base name of a path is its last name, unless that is a
double dot or a dot at the start.
-/

namespace DumpDigest

/-- A path as it was given. -/
structure Path where
  text : String
  deriving DecidableEq

namespace Path

/-- Whether the path starts at the root. -/
def isAbsolute (path : Path) : Bool :=
  path.text.toList.head? = some '/'

/-- Whether the path ends in a slash. -/
def endsInSlash (path : Path) : Bool :=
  path.text.toList.getLast? = some '/'

/-- What stands between the slashes of a path, single and double dots included. -/
def parts (path : Path) : List String :=
  ((path.text.toList.splitOn '/').filter (· ≠ [])).map String.ofList

/-- The names of a path in order, double dots among them; a dot counts at the start only. -/
def names (path : Path) : List String :=
  let start := if !path.isAbsolute && path.parts.head? = some "." then ["."] else []
  start ++ path.parts.filter (· ≠ ".")

/-- The last name of a path, nothing if it leads elsewhere. -/
def baseName (path : Path) : String :=
  match path.names.getLast? with
  | some name => if name = "." || name = ".." then "" else name
  | none => ""

/-- A name up to its last dot, unless that dot is its first character. -/
def withoutExtension (name : String) : String :=
  match (name.toList.reverse.dropWhile (· ≠ '.')).drop 1 with
  | [] => name
  | stem => String.ofList stem.reverse

/-- The base name without its extension. -/
def stem (path : Path) : String :=
  withoutExtension path.baseName

/-- A text without the slashes and the meaningless dots at its end. -/
def trimEnd (reversed : List Char) : List Char :=
  match reversed with
  | '/' :: rest => if rest.isEmpty then reversed else trimEnd rest
  | '.' :: '/' :: rest => if rest.isEmpty then ['/'] else trimEnd rest
  | _ => reversed

/-- The path of the directory that a path lies in, as it was given; a path without names has
none. -/
def parent? (path : Path) : Option Path :=
  match path.names with
  | [] => none
  | _ =>
    let trimmed := trimEnd path.text.toList.reverse
    some ⟨String.ofList (trimEnd (trimmed.dropWhile (· ≠ '/'))).reverse⟩

end Path

end DumpDigest
