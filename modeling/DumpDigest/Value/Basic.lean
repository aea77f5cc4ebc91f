import DumpDigest.SortedMap.Basic

/-! # Values of a dump

A dump is a tree of values. Counters are 64-bit integers, timings may be floats, option flags are
strings, and a histogram is a mapping from integers to counts. A mapping from strings is a record;
the empty mapping is the empty record and stands for the empty distribution as well.
-/

namespace DumpDigest

/-- How often each integer was observed. -/
abbrev Distribution := SortedMap Int64 UInt64

/-- A value of a dump. -/
inductive Value where
  | none
  | bool (flag : Bool)
  | int (number : Int64)
  | float (number : Float)
  | string (text : String)
  | list (items : List Value)
  | distribution (counts : Distribution)
  | record (fields : Ascending String Value Option.none)

/-- Named values, the shape of every dump at its top. -/
abbrev Record := SortedMap String Value

instance : Inhabited Value := ⟨.none⟩

/-- How often an integer was observed. -/
def Distribution.count (counts : Distribution) (key : Int64) : UInt64 :=
  (counts.find? key).getD 0

/-- The kinds of values. -/
inductive Value.Kind where
  | none
  | bool
  | int
  | float
  | string
  | list
  | distribution
  | record
  deriving DecidableEq

/-- The word for a kind in messages. -/
def Value.Kind.name : Value.Kind → String
  | none => "none"
  | bool => "bool"
  | int => "int"
  | float => "float"
  | string => "string"
  | list => "list"
  | distribution => "distribution"
  | record => "record"

namespace Value

/-- The kind of a value. -/
def kind : Value → Kind
  | none => .none
  | bool _ => .bool
  | int _ => .int
  | float _ => .float
  | string _ => .string
  | list _ => .list
  | distribution _ => .distribution
  | record _ => .record

/-- The integer that a value is. -/
def asInt? : Value → Option Int64
  | int number => some number
  | _ => Option.none

/-- The number that a value is; an integer counts as the float next to it. -/
def asNumber? : Value → Option Float
  | int number => some (Float.ofInt number.toInt)
  | float number => some number
  | _ => Option.none

/-- The string that a value is. -/
def asString? : Value → Option String
  | string text => some text
  | _ => Option.none

/-- The distribution that a value is; the empty record counts as the empty distribution. -/
def asDistribution? : Value → Option Distribution
  | distribution counts => some counts
  | record .nil => some .empty
  | _ => Option.none

/-- The record that a value is. -/
def asRecord? : Value → Option Record
  | record fields => some fields
  | _ => Option.none

end Value

end DumpDigest
