import DumpDigest.CommandLine.Exit
import DumpDigest.Proofs.Result

/-!
# The environment of a command line

A command that knows configuration files takes one from the environment.  `Configures` says that
this is all that the environment does: what words ask for is the same in every environment, but for
the configuration.  So the requests for a report that the same words stand for in two environments
differ in nothing else (`report_of_parse`).
-/

namespace DumpDigest.CommandLine

open Result

/-- How what is asked for depends on the environment: not at all, or in the configuration of a
report or of a listing of presets. -/
inductive Configures (asked : Option String → Except Stop Invocation) : Prop
  | fixed (result : Except Stop Invocation) (same : ∀ environment, asked environment = result)
  | report (kind : ReportKind) (arguments : Arguments)
      (asks : ∀ environment, asked environment =
        (fun config => .report
          ⟨kind, arguments.files, config, arguments.assignments, arguments.output⟩) <$>
            arguments.configuration environment)
  | presets (arguments : Arguments)
      (asks : ∀ environment, asked environment =
        .presets <$> arguments.configuration environment)

/-- What a command asks for with arguments. -/
def Command.ask (command : Command) (arguments : Arguments) (environment : Option String) :
    Except Stop Invocation :=
  match command with
  | .report kind =>
    (fun config => .report
      ⟨kind, arguments.files, config, arguments.assignments, arguments.output⟩) <$>
        arguments.configuration environment
  | .validate => .ok (.validate arguments.files)
  | .presets => .presets <$> arguments.configuration environment
  | .version => .ok .version

theorem Command.read_eq_ask {command : Command} {words : List String} {arguments : Arguments}
    (given : Arguments.ofItems command.takesFiles (scan command.switches words) = .ok arguments)
    (some : ¬ (command.takesFiles && arguments.files.isEmpty) = true)
    (environment : Option String) :
    command.read environment words = command.ask arguments environment := by
  simp only [read, given]
  refine (if_neg some).trans ?_
  cases command <;> rfl

theorem Command.configures (command : Command) (words : List String) :
    Configures (command.read · words) := by
  cases given : Arguments.ofItems command.takesFiles (scan command.switches words) with
  | error stop =>
    refine .fixed (.error stop) fun environment => ?_
    simp only [read, given]
    rfl
  | ok arguments =>
    by_cases none : (command.takesFiles && arguments.files.isEmpty) = true
    · refine .fixed (.error (.wrong .noFiles)) fun environment => ?_
      simp only [read, given]
      exact if_pos none
    · have asks := read_eq_ask given none
      cases command with
      | report kind => exact .report kind arguments asks
      | validate => exact .fixed _ asks
      | presets => exact .presets arguments asks
      | version => exact .fixed _ asks

/-- **The environment is read for the configuration only.** -/
theorem configures_read (words : List String) : Configures (read · words) := by
  cases given : Arguments.ofItems false (scan [.verbose, .help, .version]
      (words.takeWhile fun word => isHyphenated word && word ≠ "--")) with
  | error stop =>
    refine .fixed (.error stop) fun environment => ?_
    simp only [read, given]
    rfl
  | ok general =>
    cases split : words.dropWhile fun word => isHyphenated word && word ≠ "--" with
    | nil =>
      refine .fixed (.error (.wrong .noCommand)) fun environment => ?_
      simp only [read, given, split]
      rfl
    | cons name rest =>
      by_cases help : name = helpCommand
      · refine .fixed (readHelp rest) fun environment => ?_
        simp only [read, given, split]
        exact if_pos help
      · cases known : Command.ofName? name with
        | none =>
          refine .fixed (.error (.wrong (.unknown name))) fun environment => ?_
          simp only [read, given, split, known]
          exact if_neg help
        | some command =>
          have named : ∀ environment, read environment words = command.read environment rest := by
            intro environment
            simp only [read, given, split, known]
            exact if_neg help
          rw [funext named]
          exact command.configures rest

/-- A configuration is told or refused, and no reason to answer with something else. -/
theorem Arguments.not_answered {arguments : Arguments} {environment : Option String}
    {invocation : Invocation} :
    arguments.configuration environment ≠ .error (.answer invocation) := by
  cases named : arguments.config with
  | some path => simp [configuration, named]
  | none =>
    cases environment with
    | none => simp [configuration, named]
    | some word =>
      simp only [configuration, named, path]
      split <;> rintro ⟨⟩

theorem parse_of_asks {make : Option Path → Invocation} {arguments : Arguments}
    {words : List String} {environment : Option String} {invocation : Invocation}
    (asks : read environment words = make <$> arguments.configuration environment)
    (parsed : parse environment words = .ok invocation) : ∃ config, invocation = make config := by
  rw [parse, asks] at parsed
  cases configured : arguments.configuration environment with
  | ok config =>
    rw [configured] at parsed
    exact ⟨config, (Except.ok.inj parsed).symm⟩
  | error stop =>
    rw [configured] at parsed
    cases stop with
    | wrong error => cases parsed
    | answer answer => exact absurd configured Arguments.not_answered

/-- **The requests that the same words stand for in two environments** differ in the presets that
they name, and in nothing else. -/
theorem report_of_parse {words : List String} {environment environment' : Option String}
    {request other : ReportRequest} (parsed : parse environment words = .ok (.report request))
    (parsed' : parse environment' words = .ok (.report other)) :
    other = { request with config := other.config } := by
  cases configures_read words with
  | fixed result same =>
    rw [parse, same] at parsed parsed'
    obtain rfl := Invocation.report.inj (Except.ok.inj (parsed.symm.trans parsed'))
    rfl
  | report kind arguments asks =>
    obtain ⟨config, is⟩ := parse_of_asks (asks environment) parsed
    obtain ⟨config', is'⟩ := parse_of_asks (asks environment') parsed'
    rw [Invocation.report.inj is, Invocation.report.inj is']
  | presets arguments asks =>
    obtain ⟨config, is⟩ := parse_of_asks (asks environment) parsed
    cases is

end DumpDigest.CommandLine
