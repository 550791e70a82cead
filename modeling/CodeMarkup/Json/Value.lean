import CodeMarkup.Decimal.Binary64
import CodeMarkup.Keyed
import CodeMarkup.Text.CodePoint
/-!
JSON values. Whole numbers are exact and of any size; other numbers are 64-bit binary ones. Texts may
hold surrogates. Members of an object keep their order.
-/

namespace CodeMarkup.Json

open CodeMarkup.Decimal CodeMarkup.Text

/-- A JSON value. -/
inductive Value
  | null
  | bool (b : Bool)
  | int (n : Int)
  | real (x : Binary64)
  | str (s : CodePoints)
  | arr (items : List Value)
  | obj (members : List (CodePoints × Value))

/-- The types of values as messages name them: whole numbers and other numbers are told apart. -/
inductive Kind
  | null | bool | int | real | str | arr | obj
  deriving DecidableEq, Repr

/-- The name of a type in messages. -/
def Kind.word : Kind → String
  | .null => "NoneType"
  | .bool => "bool"
  | .int => "int"
  | .real => "float"
  | .str => "str"
  | .arr => "list"
  | .obj => "dict"

namespace Value

/-- The type of a value. -/
def kind : Value → Kind
  | .null => .null
  | .bool _ => .bool
  | .int _ => .int
  | .real _ => .real
  | .str _ => .str
  | .arr _ => .arr
  | .obj _ => .obj

/-- The text, if the value is one. -/
def text? : Value → Option CodePoints
  | .str s => some s
  | _ => none

/-- The members, if the value is an object. -/
def members? : Value → Option (Keyed CodePoints Value)
  | .obj members => some members
  | _ => none

end Value

end CodeMarkup.Json
