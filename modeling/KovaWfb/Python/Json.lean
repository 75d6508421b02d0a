/-
# JSON values

What `json.loads` returns and `json.dumps` takes.  An integer is exact, a number
with a fraction or an exponent is a float; Python's parser also reads `NaN` and
the infinities.  An object is a `dict`: its fields in insertion order, each key
once.
-/

import Mathlib.Data.Rat.Defs

namespace KovaWfb

/-- A parsed floating-point number. -/
inductive JsonFloat
  | finite (value : ℚ)
  | infinite (negative : Bool)
  | nan

/-- A JSON value. -/
inductive Json
  | null
  | bool (value : Bool)
  | int (value : ℤ)
  | float (value : JsonFloat)
  | str (text : String)
  | arr (items : List Json)
  | obj (fields : List (String × Json))

/-- `type(value).__name__`. -/
def Json.typeName : Json → String
  | .null => "NoneType"
  | .bool _ => "bool"
  | .int _ => "int"
  | .float _ => "float"
  | .str _ => "str"
  | .arr _ => "list"
  | .obj _ => "dict"

/-- The fields of a JSON object. -/
abbrev JsonFields := List (String × Json)

/-- `fields.get(name)`. -/
def JsonFields.get (fields : JsonFields) (name : String) : Option Json := List.lookup name fields

/-- An optional integer: `None` is written as `null`. -/
def Json.ofOption : Option ℤ → Json
  | none => .null
  | some value => .int value

end KovaWfb
