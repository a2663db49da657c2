import RecordRules.Binary64.Layout
import RecordRules.Json.Basic

/-! # Values of a record

A record holds scalars only.  `Value.display` is the text of a value in messages and in
text comparisons. -/

namespace RecordRules

/-- A scalar held by a field. -/
inductive Value where
  | null
  | boolean (b : Bool)
  | integer (n : Int64)
  | real (x : Binary64)
  | text (s : String)
  deriving DecidableEq, Inhabited

namespace Value

/-- The text of an integer. -/
def integerText (n : Int64) : String :=
  let i := n.toInt
  String.ofList ((if i < 0 then ['-'] else []) ++ decimalDigits i.natAbs)

/-- The text of a truth value. -/
def booleanText (b : Bool) : String :=
  if b then "true" else "false"

/-- The text of a value in messages. -/
def display : Value → String
  | null => "null"
  | boolean b => booleanText b
  | integer n => integerText n
  | real x => x.toMessage
  | text s => s

/-- The name of a value's kind. -/
def kindName : Value → String
  | null => "null"
  | boolean _ => "boolean"
  | integer _ => "int64"
  | real _ => "float64"
  | text _ => "string"

/-- Integers and reals are numbers. -/
def isNumber : Value → Bool
  | integer _ | real _ => true
  | _ => false

/-- The number that an integer or a real is worth. -/
def real? : Value → Option Binary64
  | integer n => some (.ofInt n.toInt)
  | real x => some x
  | _ => none

/-- A value as JSON; NaN and the infinities have no JSON form but null. -/
def toJson : Value → Json
  | null => .null
  | boolean b => .boolean b
  | integer n => .integer n.toInt
  | real x => .ofReal x
  | text s => .text s

end Value
end RecordRules
