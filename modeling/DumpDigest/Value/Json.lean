import DumpDigest.Json.Basic
import DumpDigest.Value.Display

/-! # Values as JSON

Records and distributions become objects with their keys in order; the keys of a distribution are
written as strings.
-/

namespace DumpDigest

/-- A distribution as JSON. -/
def Distribution.toJson (counts : Distribution) : Json :=
  .object (counts.toList.map fun (key, count) => (integerText key, .integer count.toNat))

namespace Value

mutual

/-- A value as JSON. -/
def toJson : Value → Json
  | none => .null
  | bool flag => .bool flag
  | int number => .integer number.toInt
  | float number => .number number
  | string text => .string text
  | list items => .array (itemsToJson items)
  | distribution counts => counts.toJson
  | record fields => .object (fieldsToJson fields)

/-- The items of a list as JSON. -/
def itemsToJson : List Value → List Json
  | [] => []
  | item :: items => item.toJson :: itemsToJson items

/-- The fields of a record as JSON. -/
def fieldsToJson {bound : Option String} : Ascending String Value bound → List (String × Json)
  | .nil => []
  | .cons key value _ rest => (key, value.toJson) :: fieldsToJson rest

end

end Value

end DumpDigest
