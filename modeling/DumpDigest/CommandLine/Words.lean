/-! # Words of a command line

Words that begin with a hyphen are options, except for the single hyphen; all others are operands.
Options of one letter may share a word, and the last of them may have its value in the same word.
Two hyphens alone make operands of all words behind them.
-/

namespace DumpDigest.CommandLine

/-- The options. -/
inductive Switch where
  | verbose
  | help
  | version
  | assignment
  | config
  | output
  deriving DecidableEq

namespace Switch

/-- The letter of an option. -/
def letter : Switch → Char
  | verbose => 'v'
  | help => 'h'
  | version => 'V'
  | assignment => 'O'
  | config => 'c'
  | output => 'o'

/-- The name of an option. -/
def name : Switch → String
  | verbose => "verbose"
  | help => "help"
  | version => "version"
  | assignment => "option"
  | config => "config"
  | output => "output"

/-- Whether an option has a value. -/
def takesValue : Switch → Bool
  | verbose | help | version => false
  | assignment | config | output => true

end Switch

/-- Why a command line is refused. -/
inductive UsageError where
  | unknown (word : String)
  | noValue (switch : Switch)
  | needlessValue (switch : Switch)
  | emptyValue (name : String)
  | repeated (switch : Switch)
  | noCommand
  | noFiles
  deriving DecidableEq

/-- The message of a usage error. -/
def UsageError.message : UsageError → String
  | unknown word => "unexpected argument '" ++ word ++ "' found"
  | noValue switch => "a value is required for '--" ++ switch.name ++ "'"
  | needlessValue switch => "unexpected value for '--" ++ switch.name ++ "'"
  | emptyValue name => "the value of " ++ name ++ " is empty"
  | repeated switch => "the argument '--" ++ switch.name ++ "' cannot be used multiple times"
  | noCommand => "a command is required"
  | noFiles => "at least one file is required"

/-- What words say, one after the other. -/
inductive Item where
  | flag (switch : Switch)
  | valued (switch : Switch) (value : String)
  | operand (text : String)
  | faulty (error : UsageError)
  deriving DecidableEq

/-- Whether a word is an option or the two hyphens. -/
def isHyphenated (word : String) : Bool :=
  match word.toList with
  | '-' :: _ :: _ => true
  | _ => false

/-- The items of letters that share a word, and the option at their end that still lacks its value.
-/
def letters (known : List Switch) (word : String) : List Char → List Item × Option Switch
  | [] => ([], none)
  | c :: rest =>
    match known.find? (·.letter == c) with
    | none => ([.faulty (.unknown word)], none)
    | some switch =>
      if switch.takesValue then
        match rest with
        | [] => ([], some switch)
        | '=' :: value => ([.valued switch (String.ofList value)], none)
        | value => ([.valued switch (String.ofList value)], none)
      else
        let (items, pending) := letters known word rest
        (.flag switch :: items, pending)

/-- The items of a named option, and the option if it still lacks its value. -/
def named (known : List Switch) (word : String) (body : List Char) : List Item × Option Switch :=
  match known.find? (·.name.toList == body.takeWhile (· ≠ '=')) with
  | none => ([.faulty (.unknown word)], none)
  | some switch =>
    match body.dropWhile (· ≠ '=') with
    | [] => if switch.takesValue then ([], some switch) else ([.flag switch], none)
    | _ :: value =>
      if switch.takesValue then ([.valued switch (String.ofList value)], none)
      else ([.faulty (.needlessValue switch)], none)

/-- The items of one word in front of two hyphens alone. -/
def itemsOf (known : List Switch) (word : String) : List Item × Option Switch :=
  match word.toList with
  | '-' :: '-' :: body => named known word body
  | '-' :: c :: rest => letters known word (c :: rest)
  | _ => ([.operand word], none)

/-- The items of words, with the given options known. -/
def scan (known : List Switch) (words : List String) : List Item :=
  match words with
  | [] => []
  | word :: rest =>
    if word = "--" then rest.map .operand
    else
      match itemsOf known word with
      | (items, none) => items ++ scan known rest
      | (items, some switch) =>
        match rest with
        | [] => items ++ [.faulty (.noValue switch)]
        | value :: rest =>
          if isHyphenated value then items ++ [.faulty (.noValue switch)]
          else items ++ .valued switch value :: scan known rest

end DumpDigest.CommandLine
