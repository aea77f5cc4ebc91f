import DumpDigest.Files.Tree
import DumpDigest.Literal.Parse
import DumpDigest.Profile.Basic
import DumpDigest.StaticStats

/-! # Loading dumps

A file is read as text and parsed as a record, which is a profile or a static summary. Several files
are loaded in order, and the first one at fault decides. Of profiles, files are chosen by their base
names before they are opened, and runs by their contents afterwards.
-/

namespace DumpDigest

/-- Why a dump cannot be loaded. -/
inductive LoadError where
  | unreadable (path : Path) (reason : FileError)
  | malformed (path : Path) (reason : Literal.ParseError)
  | misshapen (path : Path) (reason : ShapeError)

/-- The message of a load error. -/
def LoadError.message : LoadError → String
  | unreadable path reason => "Failed to read " ++ path.text ++ ": " ++ reason.message
  | malformed path reason => "Malformed literal in " ++ path.text ++ ": " ++ reason.message
  | misshapen path reason => "Unexpected record shape in " ++ path.text ++ ": " ++ reason.message

/-- The messages of a load error and of what caused it. -/
def LoadError.chain (error : LoadError) : List String :=
  match error with
  | unreadable _ reason => [error.message, reason.message]
  | malformed _ reason => [error.message, reason.message]
  | misshapen _ _ => [error.message]

namespace FileTree

/-- The record in a file. -/
def loadRecord (tree : FileTree) (path : Path) : Except LoadError Record := do
  let text ← (tree.readText path).mapError (.unreadable path)
  (Literal.parseRecord text).mapError (.malformed path)

/-- The profile in a file. -/
def loadProfile (tree : FileTree) (path : Path) : Except LoadError Profile := do
  let record ← tree.loadRecord path
  (Profile.ofRecord record path path.baseName).mapError (.misshapen path)

/-- The static summary in a file, named by the file's stem. -/
def loadSummary (tree : FileTree) (path : Path) : Except LoadError StaticStats :=
  (⟨path.stem, ·⟩) <$> tree.loadRecord path

end FileTree

/-- The profiles kept of some files, and how many files were skipped by name or dropped for their
options. -/
structure LoadedProfiles where
  profiles : List Profile
  skipped : Nat
  dropped : Nat

namespace FileTree

/-- What is loaded with one file more, which is opened if `accepts` accepts its base name, and whose
profile is kept if `keeps` accepts it. -/
def loadNext (tree : FileTree) (accepts : String → Bool) (keeps : Profile → Bool)
    (loaded : LoadedProfiles) (path : Path) : Except LoadError LoadedProfiles := do
  if !accepts path.baseName then return { loaded with skipped := loaded.skipped + 1 }
  let profile ← tree.loadProfile path
  if keeps profile then return { loaded with profiles := loaded.profiles ++ [profile] }
  return { loaded with dropped := loaded.dropped + 1 }

/-- The profiles that `keeps` accepts in the files whose base names `accepts` accepts. -/
def loadProfiles (tree : FileTree) (accepts : String → Bool) (keeps : Profile → Bool)
    (paths : List Path) : Except LoadError LoadedProfiles :=
  paths.foldlM (tree.loadNext accepts keeps) ⟨[], 0, 0⟩

/-- The static summaries in some files. -/
def loadSummaries (tree : FileTree) (paths : List Path) : Except LoadError (List StaticStats) :=
  paths.mapM tree.loadSummary

end FileTree

end DumpDigest
