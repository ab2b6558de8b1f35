/-
# JSON values

Null, integers, strings, arrays and objects.  The fields of an object stand in a fixed order.
-/
import ElixirTerms.Text.Basic

namespace ElixirTerms

/-- A JSON value. -/
inductive Json where
  | null
  | int (i : Int)
  | string (s : Text)
  | array (items : List Json)
  | object (fields : List (Text × Json))

namespace Json

/-- The fields of an object whose names are given as literals. -/
def record (fields : List (String × Json)) : Json :=
  .object (fields.map fun (name, value) => (name.toList, value))

end Json

end ElixirTerms
