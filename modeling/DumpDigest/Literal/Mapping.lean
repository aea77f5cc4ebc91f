import DumpDigest.Literal.Fault

/-! # What a mapping stands for

The keys of a mapping are all strings or all integers. String keys make a record, integer keys make
a distribution and need counts as values; of two entries with one key the later counts. A mapping
without entries is the empty record.
-/

namespace DumpDigest.Literal

/-- A key of a mapping. -/
inductive Key where
  | string (text : String)
  | int (number : Int64)

namespace Key

/-- The string that a key is. -/
def string? : Key → Option String
  | string text => some text
  | int _ => none

/-- The integer that a key is. -/
def int? : Key → Option Int64
  | string _ => none
  | int number => some number

end Key

/-- The entries of a record, if all keys are strings. -/
def recordEntries? (entries : List (Key × Value)) : Option (List (String × Value)) :=
  entries.mapM fun (key, value) => key.string?.map (·, value)

/-- The entries with integer keys, if all keys are integers. -/
def integerEntries? (entries : List (Key × Value)) : Option (List (Int64 × Value)) :=
  entries.mapM fun (key, value) => key.int?.map (·, value)

/-- The count that a value is: an integer that is not negative. -/
def asCount (key : Int64) : Value → Except Cause UInt64
  | .int number =>
    if number < 0 then .error (.notACount (.int number) key)
    else .ok (UInt64.ofNat number.toNatClampNeg)
  | other => .error (.notACount other key)

/-- The value of a mapping. -/
def mappingValue (entries : List (Key × Value)) : Except Cause Value :=
  match recordEntries? entries with
  | some fields => .ok (.record (SortedMap.ofList fields))
  | none =>
    match integerEntries? entries with
    | none => .error .mixedKeys
    | some entries => do
      let counts ← entries.mapM fun (key, value) => (key, ·) <$> asCount key value
      return .distribution (SortedMap.ofList counts)

end DumpDigest.Literal
