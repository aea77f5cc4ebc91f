import DumpDigest.CommandLine.Words
import DumpDigest.Run.Report

/-! # What a command line asks for

A command line names a command, with options for all commands in front of it, and the command's own
options and operands behind it. Items count in order: a wrong one ends the reading, and so do the
options for help and for the version. A command that knows configuration files takes one from the
environment unless the command line names one.
-/

namespace DumpDigest.CommandLine

/-- The commands. -/
inductive Command where
  | report (kind : ReportKind)
  | validate
  | presets
  | version
  deriving DecidableEq

namespace Command

/-- The command of a name. -/
def ofName? (name : String) : Option Command :=
  match name with
  | "validate" => some validate
  | "presets" => some presets
  | "version" => some version
  | _ => report <$> ReportKind.ofName? name

/-- The options of a command. -/
def switches : Command → List Switch
  | report _ => [.verbose, .help, .assignment, .config, .output]
  | presets => [.verbose, .help, .config]
  | validate | version => [.verbose, .help]

/-- Whether a command reads files. -/
def takesFiles : Command → Bool
  | report _ | validate => true
  | presets | version => false

end Command

/-- The command for help on commands. -/
def helpCommand : String := "help"

/-- What a command line asks for. -/
inductive Invocation where
  | report (request : ReportRequest)
  | validate (files : List Path)
  | presets (config : Option Path)
  | version
  | shortVersion
  | help

/-- Why reading items ends before the last of them. -/
inductive Stop where
  | wrong (error : UsageError)
  | answer (invocation : Invocation)

/-- What items have said so far. A longer log changes nothing else. -/
structure Arguments where
  verbose : Bool
  files : List Path
  assignments : List String
  config : Option Path
  output : Option Path

namespace Arguments

/-- The arguments of no items. -/
def none : Arguments := ⟨false, [], [], .none, .none⟩

/-- A path from a word, which must not be empty. -/
def path (name word : String) : Except Stop Path :=
  if word.isEmpty then .error (.wrong (.emptyValue name)) else .ok ⟨word⟩

/-- The arguments with one more item. -/
def add (takesFiles : Bool) (arguments : Arguments) : Item → Except Stop Arguments
  | .flag .help => .error (.answer .help)
  | .flag .version => .error (.answer .shortVersion)
  | .flag switch =>
    if arguments.verbose then .error (.wrong (.repeated switch))
    else .ok { arguments with verbose := true }
  | .valued .config value => do
    if arguments.config.isSome then throw (.wrong (.repeated .config))
    return { arguments with config := some (← path Switch.config.name value) }
  | .valued .output value => do
    if arguments.output.isSome then throw (.wrong (.repeated .output))
    return { arguments with output := some (← path Switch.output.name value) }
  | .valued _ value => .ok { arguments with assignments := arguments.assignments ++ [value] }
  | .operand text => do
    if !takesFiles then throw (.wrong (.unknown text))
    return { arguments with files := arguments.files ++ [← path "files" text] }
  | .faulty error => .error (.wrong error)

/-- The arguments of items. -/
def ofItems (takesFiles : Bool) (items : List Item) : Except Stop Arguments :=
  items.foldlM (add takesFiles) none

/-- The configuration file of a command: that of the command line, else that of the environment. -/
def configuration (arguments : Arguments) (environment : Option String) :
    Except Stop (Option Path) :=
  match arguments.config, environment with
  | some path, _ => .ok (some path)
  | .none, .none => .ok .none
  | .none, some word => some <$> path Switch.config.name word

end Arguments

/-- What a command asks for with its words. -/
def Command.read (command : Command) (environment : Option String) (words : List String) :
    Except Stop Invocation := do
  let arguments ← Arguments.ofItems command.takesFiles (scan command.switches words)
  if command.takesFiles && arguments.files.isEmpty then throw (.wrong .noFiles)
  match command with
  | .report kind =>
    let config ← arguments.configuration environment
    return .report ⟨kind, arguments.files, config, arguments.assignments, arguments.output⟩
  | .validate => return .validate arguments.files
  | .presets => return .presets (← arguments.configuration environment)
  | .version => return .version

/-- What the command for help asks for: help on everything or on one command. -/
def readHelp (words : List String) : Except Stop Invocation :=
  match words with
  | [] => .ok .help
  | [name] =>
    if name = helpCommand || (Command.ofName? name).isSome then .ok .help
    else .error (.wrong (.unknown name))
  | name :: _ => .error (.wrong (.unknown name))

/-- What words ask for. -/
def read (environment : Option String) (words : List String) : Except Stop Invocation := do
  let isGeneral (word : String) : Bool := isHyphenated word && word ≠ "--"
  let _ ← Arguments.ofItems false
    (scan [.verbose, .help, .version] (words.takeWhile isGeneral))
  match words.dropWhile isGeneral with
  | [] => throw (.wrong .noCommand)
  | name :: rest =>
    if name = helpCommand then readHelp rest
    else
      match Command.ofName? name with
      | some command => command.read environment rest
      | none => throw (.wrong (.unknown name))

/-- The invocation that words stand for. -/
def parse (environment : Option String) (words : List String) : Except UsageError Invocation :=
  match read environment words with
  | .ok invocation => .ok invocation
  | .error (.answer invocation) => .ok invocation
  | .error (.wrong error) => .error error

/-- The paths of files that an invocation reads or writes. -/
def Invocation.paths : Invocation → List Path
  | report request => request.files ++ request.config.toList ++ request.output.toList
  | validate files => files
  | presets config => config.toList
  | version | shortVersion | help => []

end DumpDigest.CommandLine
