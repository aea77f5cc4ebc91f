import DumpDigest.Files.Tree
import DumpDigest.Report.Document

/-! # Writing report documents

A document is written to a file of its own, and directories that are missing on the way to it are
made. Nothing is written to a place where a directory is.
-/

namespace DumpDigest

/-- Why a document cannot be written. -/
inductive OutputError where
  | emptyPath
  | directory (path : Path)
  | noParent (parent : Path) (reason : FileError)
  | notWritten (reason : FileError)
  deriving DecidableEq

/-- The message of an output error. -/
def OutputError.message : OutputError → String
  | emptyPath => "Invalid output path: Path is empty"
  | directory path => "Invalid output path: Path is a directory: " ++ path.text
  | noParent parent reason =>
    "Invalid output path: Cannot create directory " ++ parent.text ++ ": " ++ reason.message
  | notWritten reason => "Failed to write file: " ++ reason.message

/-- The messages of an output error and of what caused it. -/
def OutputError.chain (error : OutputError) : List String :=
  match error with
  | notWritten reason => [error.message, reason.message]
  | _ => [error.message]

namespace FileTree

/-- The tree with the directory in which the file of a path is to lie. -/
def ensureParent (tree : FileTree) (path : Path) : FileTree × Except OutputError Unit :=
  match path.parent? with
  | none => (tree, .ok ())
  | some parent =>
    if parent.text.isEmpty || (tree.at? parent).isSome then (tree, .ok ())
    else
      let (made, result) := tree.ensureDirectory parent
      (made, result.mapError (.noParent parent))

/-- The tree after an attempt to write a document, and whether it succeeded. -/
def writeDocument (tree : FileTree) (path : Path) (document : Document) :
    FileTree × Except OutputError Unit :=
  if path.text.isEmpty then (tree, .error .emptyPath)
  else if tree.isDirectory path then (tree, .error (.directory path))
  else
    match tree.ensureParent path with
    | (made, .error reason) => (made, .error reason)
    | (made, .ok ()) =>
      match made.write path document.text.toUTF8 with
      | .ok written => (written, .ok ())
      | .error reason => (made, .error (.notWritten reason))

end FileTree

end DumpDigest
