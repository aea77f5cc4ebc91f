import DumpDigest.Value.Basic

/-! # Reading fields

A field that is missing and a field that holds another kind of value than asked for are errors of
their own; a third is a string whose text does not have the form that its reader needs.
-/

namespace DumpDigest

/-- Why digits are not the text of a natural. -/
inductive NumeralError where
  | empty
  | invalidDigit
  | tooLarge
  deriving DecidableEq

/-- The message of a numeral error. -/
def NumeralError.message : NumeralError → String
  | empty => "cannot parse integer from empty string"
  | invalidDigit => "invalid digit found in string"
  | tooLarge => "number too large to fit in target type"

/-- What is wrong with the text of a field. -/
inductive Malformation where
  /-- The suffix of a profile's file names has no second part. -/
  | noBenchmark (suffix : String)
  /-- The second part of the suffix is no number of threads. -/
  | threadCount (text : String) (reason : NumeralError)
  deriving DecidableEq

/-- The message of a malformation. -/
def Malformation.message : Malformation → String
  | noBenchmark suffix => "no benchmark field in '" ++ suffix ++ "'"
  | threadCount text reason => "thread count '" ++ text ++ "': " ++ reason.message

/-- What a reader may ask a field to be. -/
inductive Shape where
  | int
  | number
  | string
  | distribution
  | record
  deriving DecidableEq

/-- The word for a shape in messages. -/
def Shape.name : Shape → String
  | int => "int"
  | number => "number"
  | string => "string"
  | distribution => "distribution"
  | record => "record"

/-- Why a field cannot be read. -/
inductive FieldError where
  | missing (key : String)
  | mismatch (key : String) (expected : Shape) (found : Value.Kind)
  | malformed (key : String) (reason : Malformation)
  deriving DecidableEq

/-- The message of a field error. -/
def FieldError.message : FieldError → String
  | missing key => "Missing field: " ++ key
  | mismatch key expected found =>
    "Field '" ++ key ++ "' is " ++ found.name ++ ", expected " ++ expected.name
  | malformed key reason => "Field '" ++ key ++ "' is malformed: " ++ reason.message

namespace Record

/-- The value of a field that has to be there. -/
def require (record : Record) (key : String) : Except FieldError Value :=
  match record.find? key with
  | some value => .ok value
  | none => .error (.missing key)

/-- The value of a field under a view of values, which has to apply. -/
def view {α : Type} (record : Record) (shape : Shape) (as? : Value → Option α) (key : String) :
    Except FieldError α := do
  let value ← record.require key
  match as? value with
  | some content => return content
  | none => throw (.mismatch key shape value.kind)

/-- The integer of a field. -/
def int (record : Record) (key : String) : Except FieldError Int64 :=
  record.view .int Value.asInt? key

/-- The number of a field. -/
def number (record : Record) (key : String) : Except FieldError Float :=
  record.view .number Value.asNumber? key

/-- The string of a field. -/
def string (record : Record) (key : String) : Except FieldError String :=
  record.view .string Value.asString? key

/-- The distribution of a field. -/
def distribution (record : Record) (key : String) : Except FieldError Distribution :=
  record.view .distribution Value.asDistribution? key

/-- The record of a field. -/
def record (record : Record) (key : String) : Except FieldError Record :=
  record.view .record Value.asRecord? key

end Record

end DumpDigest
