import DumpDigest.CommandLine.Invocation
import DumpDigest.Run.Listing
import DumpDigest.Run.Validation

/-! # How the program ends

The program ends with status 0, with status 1 and a report of the failure, or with status 2 if the
command line is refused.
-/

namespace DumpDigest

/-- A message below others: indented, with a number if there are several. -/
def indentedCause (number : Option Nat) (message : String) : String :=
  let blanks (n : Nat) : String := String.ofList (List.replicate n ' ')
  let (first, others) :=
    match number with
    | none => (blanks 4, blanks 4)
    | some n => (blanks (5 - n.repr.length) ++ n.repr ++ ": ", blanks 7)
  first ++ ("\n" ++ others).intercalate ((message.toList.splitOn '\n').map String.ofList)

/-- The causes of a failure, each on lines of its own. -/
def causesText (causes : List String) : String :=
  match causes with
  | [] => ""
  | [cause] => "\n\nCaused by:\n" ++ indentedCause none cause
  | causes =>
    "\n\nCaused by:\n" ++
      "\n".intercalate (causes.zipIdx.map fun (cause, n) => indentedCause (some n) cause)

/-- The report of a failure. -/
def Failure.text (failure : Failure) : String :=
  match failure.chain with
  | [] => "Error: \n"
  | message :: causes => "Error: " ++ message ++ causesText causes ++ "\n"

namespace CommandLine

/-- The text of help. -/
def helpText : String :=
  "Usage: " ++ programName ++ " [-v] <command>\n\nCommands:\n" ++
    String.join
      ((ReportKind.all.map ReportKind.name ++ ["validate", "presets", "version", "help"]).map
        fun name => "  " ++ name ++ "\n")

/-- What an invocation does. -/
def Invocation.execute (invocation : Invocation) (tree : FileTree) (clock : Clock) : Outcome :=
  match invocation with
  | report request => request.execute tree clock
  | validate files => validateDumps tree files
  | presets config => listPresets tree config
  | version => showVersions tree
  | shortVersion => ⟨.ok (), programName ++ " " ++ programVersion ++ "\n", [], tree⟩
  | help => ⟨.ok (), helpText, [], tree⟩

/-- The end of the program: its status, what it printed and complained of, its log, and the files as
it left them. -/
structure Exit where
  status : UInt8
  printed : String
  complaint : String
  log : List LogEntry
  tree : FileTree

/-- How an outcome ends the program. -/
def Exit.ofOutcome (outcome : Outcome) : Exit :=
  match outcome.result with
  | .ok () => ⟨0, outcome.printed, "", outcome.log, outcome.tree⟩
  | .error failure => ⟨1, outcome.printed, failure.text, outcome.log, outcome.tree⟩

/-- What the program does on a command line. -/
def run (environment : Option String) (words : List String) (tree : FileTree) (clock : Clock) :
    Exit :=
  match parse environment words with
  | .ok invocation => .ofOutcome (invocation.execute tree clock)
  | .error error => ⟨2, "", "error: " ++ error.message ++ "\n", [], tree⟩

end CommandLine

end DumpDigest
