import DumpDigest.Decimal.Layout
import DumpDigest.Value.Basic

/-! # Values as text

A value is displayed much as a dump writes it, but strings and keys stand without quotes.
-/

namespace DumpDigest

/-- Texts between braces, commas between them. -/
def braced (parts : List String) : String :=
  "\x7b" ++ ", ".intercalate parts ++ "\x7d"

/-- Texts between brackets, commas between them. -/
def bracketed (parts : List String) : String :=
  "[" ++ ", ".intercalate parts ++ "]"

/-- The text of an integer. -/
def integerText (number : Int64) : String :=
  number.toInt.repr

/-- The text of a count. -/
def countText (count : UInt64) : String :=
  count.toNat.repr

/-- The text of a distribution. -/
def Distribution.display (counts : Distribution) : String :=
  braced (counts.toList.map fun (key, count) => integerText key ++ ": " ++ countText count)

namespace Value

mutual

/-- The text of a value. -/
def display : Value → String
  | none => "None"
  | bool true => "True"
  | bool false => "False"
  | int number => integerText number
  | float number => Decimal.Layout.plain.text number
  | string text => text
  | list items => bracketed (displayItems items)
  | distribution counts => counts.display
  | record fields => braced (displayFields fields)

/-- The texts of the items of a list. -/
def displayItems : List Value → List String
  | [] => []
  | item :: items => item.display :: displayItems items

/-- The texts of the fields of a record. -/
def displayFields {bound : Option String} : Ascending String Value bound → List String
  | .nil => []
  | .cons key value _ rest => (key ++ ": " ++ value.display) :: displayFields rest

end

end Value

/-- The text of a record. -/
def Record.display (record : Record) : String :=
  braced (Value.displayFields record)

end DumpDigest
