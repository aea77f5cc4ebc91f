import DumpDigest.Json.Basic
import DumpDigest.SortedMap.Order
import DumpDigest.Text.Blank
import DumpDigest.Value.Basic

/-! # Option filters

A filter names the option values that a run has to show. A run matches when its options hold every
named key as a string with the wanted value; keys that the filter does not name are never looked at.
Assignments to a filter are written `KEY=VALUE`.
-/

namespace DumpDigest

/-- Wanted option values by key. -/
abbrev OptionFilter := SortedMap String String

namespace OptionFilter

/-- Whether options hold every wanted value. -/
def accepts (filter : OptionFilter) (options : Record) : Bool :=
  filter.toList.all fun (key, wanted) =>
    match options.find? key with
    | some (.string actual) => actual == wanted
    | _ => false

/-- The text of a filter. -/
def display (filter : OptionFilter) : String :=
  ", ".intercalate (filter.toList.map fun (key, wanted) => key ++ "=" ++ wanted)

/-- A filter as JSON. -/
def toJson (filter : OptionFilter) : Json :=
  .object (filter.toList.map fun (key, wanted) => (key, .string wanted))

end OptionFilter

/-- A text that is no assignment: it has no `=`, or nothing but white space before it. -/
structure AssignmentError where
  text : String
  deriving DecidableEq

/-- The message of an assignment error. -/
def AssignmentError.message (error : AssignmentError) : String :=
  "Invalid option '" ++ error.text ++ "', expected KEY=VALUE"

/-- The key and the value of an assignment, parted at the first `=` and trimmed. -/
def parseAssignment (text : String) : Except AssignmentError (String × String) :=
  match text.toList.dropWhile (· ≠ '=') with
  | [] => .error ⟨text⟩
  | _ :: value =>
    let key := Text.trim (String.ofList (text.toList.takeWhile (· ≠ '=')))
    if key.isEmpty then .error ⟨text⟩ else .ok (key, Text.trim (String.ofList value))

end DumpDigest
