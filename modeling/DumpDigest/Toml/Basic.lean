import DumpDigest.Calendar
import DumpDigest.SortedMap.Basic

/-! # Values of a configuration file

A file is a table; tables stand in one another, and a table remembers how it came about, because
that decides what may still be added to it.
-/

namespace DumpDigest.Toml

/-- How a table came about. -/
inductive Origin where
  /-- By a header of its own. -/
  | header
  /-- On the way to a table with a header. -/
  | implied
  /-- On the way of a dotted key. -/
  | dotted
  /-- Between braces. -/
  | inline
  deriving DecidableEq

/-- A value of a configuration file. -/
inductive Value where
  | string (text : String)
  | boolean (flag : Bool)
  | integer (number : Int64)
  | float (number : Float)
  | dateTime (moment : Calendar.DateTime)
  | array (items : List Value)
  | table (origin : Origin) (fields : Ascending String Value none)
  /-- Tables that share a header; only the last of them is still open. -/
  | tables (earlier : List (Ascending String Value none)) (last : Ascending String Value none)

/-- Values by key. -/
abbrev Table := SortedMap String Value

instance : Inhabited Value := ⟨.boolean false⟩

/-- A key with dots in it: the tables on its way, and the name at its end. -/
structure Key where
  path : List String
  name : String
  deriving DecidableEq

/-- The greatest number of names in a key, and of containers inside one another. -/
def nestingLimit : Nat := 79

end DumpDigest.Toml
