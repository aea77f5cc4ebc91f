/-! # JSON values

What the program writes as JSON. Members keep the order in which they are listed.
-/

namespace DumpDigest

/-- A JSON value. -/
inductive Json where
  | null
  | bool (flag : Bool)
  | integer (n : Int)
  | number (x : Float)
  | string (text : String)
  | array (items : List Json)
  | object (members : List (String × Json))

namespace Json

instance : Inhabited Json := ⟨null⟩

/-- The array of some strings. -/
def strings (texts : List String) : Json :=
  array (texts.map string)

end Json

end DumpDigest
