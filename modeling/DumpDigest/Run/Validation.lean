import DumpDigest.Run.Outcome

/-! # Validating dumps

Every dump gets a line that says what it is: a profile, or a static summary if it is a record
without options of its own. The first dump that is neither ends the command.
-/

namespace DumpDigest

/-- The line for a profile. -/
def Profile.summary (profile : Profile) (path : Path) : String :=
  path.text ++ ": profile of " ++ profile.mainClass ++ " (" ++ profile.record.size.repr ++
    " fields, " ++ profile.options.size.repr ++ " options)"

/-- The line for a static summary. -/
def StaticStats.summary (stats : StaticStats) (path : Path) : String :=
  path.text ++ ": static stats of " ++ stats.name ++ " (" ++ stats.record.size.repr ++ " fields)"

/-- The line for a dump. -/
def FileTree.describe (tree : FileTree) (path : Path) : Except LoadError String :=
  match tree.loadProfile path with
  | .ok profile => .ok (profile.summary path)
  | .error (.misshapen _ _) => (·.summary path) <$> tree.loadSummary path
  | .error error => .error error

/-- The lines for some dumps up to the first one at fault, and the failure that it is. -/
def FileTree.describeAll (tree : FileTree) : List Path → List String × Except Failure Unit
  | [] => ([], .ok ())
  | path :: paths =>
    match tree.describe path with
    | .ok line => ((line :: (tree.describeAll paths).1), (tree.describeAll paths).2)
    | .error error => ([], .error (.validation path error))

/-- The last line, which counts the dumps. -/
def validText (count : Nat) : String :=
  "✓ " ++ count.repr ++ " file(s) valid"

/-- Lines as they are printed. -/
def printedLines (lines : List String) : String :=
  String.join (lines.map (· ++ "\n"))

/-- What the command for validating dumps does. -/
def validateDumps (tree : FileTree) (paths : List Path) : Outcome :=
  match tree.describeAll paths with
  | (lines, .error failure) => ⟨.error failure, printedLines lines, [], tree⟩
  | (lines, .ok ()) => ⟨.ok (), printedLines (lines ++ [validText paths.length]), [], tree⟩

end DumpDigest
