import SecScan.Number.Binary64

/-!
JSON values as the tool reads and writes them. Integers and floating point numbers stay
apart, since `90` and `90.0` validate differently, and integers have any size. An object keeps
its fields in the order they first appeared; writing a field again replaces its value in place.
-/

namespace SecScan

/-- A JSON value. -/
inductive Json where
  | null
  | bool (b : Bool)
  | int (n : Int)
  | float (x : Binary64)
  | str (s : String)
  | arr (items : List Json)
  | obj (fields : List (String × Json))
  deriving Inhabited, Repr, BEq

namespace Json

/-- Sets a field of an object's field list: an existing key keeps its place, a new one goes
last. -/
def setField (fields : List (String × Json)) (key : String) (value : Json) :
    List (String × Json) :=
  if fields.any (·.1 == key) then fields.map fun f => if f.1 == key then (key, value) else f
  else fields ++ [(key, value)]

/-- An object from key-value pairs, a later pair with the same key replacing an earlier one. -/
def ofPairs (pairs : List (String × Json)) : Json :=
  .obj (pairs.foldl (fun acc p => setField acc p.1 p.2) [])

/-- The value of a field of an object. -/
def field? (j : Json) (key : String) : Option Json :=
  match j with
  | .obj fields => (fields.find? (·.1 == key)).map (·.2)
  | _ => none

/-- Whether an object has a field. -/
def hasField (j : Json) (key : String) : Bool := (j.field? key).isSome

/-- The text of a string value. -/
def str? : Json → Option String
  | .str s => some s
  | _ => none

/-- The fields of an object. -/
def fields? : Json → Option (List (String × Json))
  | .obj fields => some fields
  | _ => none

/-- The items of an array. -/
def items? : Json → Option (List Json)
  | .arr items => some items
  | _ => none

/-- A string value, or null for `none`. -/
def optStr : Option String → Json
  | some s => .str s
  | none => .null

/-- A natural number value. -/
def nat (n : Nat) : Json := .int n

/-- Whether a value is null. -/
def isNull : Json → Bool
  | .null => true
  | _ => false

/-- Whether a value counts as true in a condition: everything but null, false, zero, the empty
text and empty collections. NaN counts as true. -/
def truthy : Json → Bool
  | .null => false
  | .bool b => b
  | .int n => n != 0
  | .float x => !x.isZero
  | .str s => !s.isEmpty
  | .arr items => !items.isEmpty
  | .obj fields => !fields.isEmpty

/-- The first item of an array, or the first character of a text as a text. -/
def first? : Json → Option Json
  | .arr (v :: _) => some v
  | .str s => s.toList.head?.map fun c => .str c.toString
  | _ => none

/-- The name of the type a value has once read: `NoneType`, `bool`, `int`, `float`, `str`,
`list` or `dict`. -/
def typeName : Json → String
  | .null => "NoneType"
  | .bool _ => "bool"
  | .int _ => "int"
  | .float _ => "float"
  | .str _ => "str"
  | .arr _ => "list"
  | .obj _ => "dict"

end Json

end SecScan
