import DumpDigest.Profile.Basic
import DumpDigest.Text.Case

/-! # Benchmarks of profiles

A Java Grande run names its benchmark in the main class, as in `JGFSeriesBenchSizeC`. DaCapo runs
share the main class `Harness` and name the benchmark in the suffix of the run's file names, as in
`-xalan-prof-4.py`; thread counts are written in the same place, as in `-8-threads-prof-0.py`.
-/

namespace DumpDigest

/-- What the main classes of Java Grande begin with. -/
def javaGrandeMark : String := "JGF"

/-- The number of characters that a Java Grande main class has behind the benchmark's name. -/
def javaGrandeTail : Nat := 10

/-- The main class of all DaCapo runs. -/
def harnessClass : String := "Harness"

/-- The option that holds the suffix of the run's file names. -/
def suffixOption : String := "profileExt"

/-- The name of the benchmark in a Java Grande main class; any other main class stays as it is. -/
def javaGrandeName (mainClass : String) : String :=
  if javaGrandeMark.toList.isPrefixOf mainClass.toList then
    let name := mainClass.toList.drop javaGrandeMark.length
    String.ofList (name.take (name.length - javaGrandeTail))
  else
    mainClass

/-- The text between the first hyphen and the next one or the end. -/
def secondPart? (text : String) : Option String :=
  match text.toList.dropWhile (· ≠ '-') with
  | [] => none
  | _ :: rest => some (String.ofList (rest.takeWhile (· ≠ '-')))

/-- The digits of a natural below `2 ^ 32`, read from left to right; the first character at fault
decides the error. -/
def readDigits (value : Nat) : List Char → Except NumeralError UInt32
  | [] => .ok (UInt32.ofNat value)
  | c :: rest =>
    if !c.isDigit then .error .invalidDigit
    else
      let grown := 10 * value + (c.toNat - '0'.toNat)
      if grown < UInt32.size then readDigits grown rest else .error .tooLarge

/-- The natural below `2 ^ 32` that a text denotes; it may have a plus sign. -/
def readUInt32 (text : String) : Except NumeralError UInt32 :=
  match text.toList with
  | [] => .error .empty
  | ['+'] => .error .invalidDigit
  | '+' :: digits => readDigits 0 digits
  | digits => readDigits 0 digits

namespace Profile

/-- Whether the run belongs to Java Grande. -/
def isJavaGrande (profile : Profile) : Bool :=
  javaGrandeMark.toList.isPrefixOf profile.mainClass.toList

/-- The second part of the suffix of the run's file names. -/
def suffixPart (profile : Profile) : Except FieldError String := do
  let suffix ← profile.options.string suffixOption
  match secondPart? suffix with
  | some part => return part
  | none => throw (.malformed suffixOption (.noBenchmark suffix))

/-- The benchmark of a DaCapo run. -/
def harnessName (profile : Profile) : Except FieldError String :=
  profile.suffixPart

/-- The benchmark of a run; other programs than those of the two suites count by main class. -/
def benchmark (profile : Profile) : Except FieldError String :=
  if profile.isJavaGrande then .ok (javaGrandeName profile.mainClass)
  else if profile.mainClass = harnessClass then profile.harnessName
  else .ok profile.mainClass

/-- The benchmark of a run as rows of both suites name it. -/
def capitalizedBenchmark (profile : Profile) : Except FieldError String :=
  Text.capitalize <$> profile.benchmark

/-- The benchmark of a run by main class alone. -/
def className (profile : Profile) : String :=
  javaGrandeName profile.mainClass

/-- The thread count in the suffix of the run's file names. -/
def threadCount (profile : Profile) : Except FieldError UInt32 := do
  let part ← profile.suffixPart
  match readUInt32 part with
  | .ok threads => return threads
  | .error reason => throw (.malformed suffixOption (.threadCount part reason))

/-- Whether the suffix of the run's file names starts with the given thread count. -/
def runsWith (profile : Profile) (threads : UInt32) : Bool :=
  match profile.option? suffixOption with
  | some suffix =>
    ("-" ++ threads.toNat.repr ++ "-threads").toList.isPrefixOf suffix.toList
  | none => false

end Profile

end DumpDigest
