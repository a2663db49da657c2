import RecordRules.Json.Basic
import RecordRules.Toml.Line

/-! # Values of TOML texts

A document of rules may hold dates anywhere, each of them an object with a key of its own, and
integers without a sign bit.  A record takes dates for texts and has integers of 64 bits with
their sign only.

* `Toml.valueOfText?`    the value of a text, for rules
* `Toml.membersOfText?`  the entries of a text in order, for a record -/

namespace RecordRules.Toml

/-- The key of an object that stands for a date. -/
def momentKey : String := "$__toml_private_datetime"

/-- The object that stands for a date. -/
def momentObject (s : String) : Json :=
  .object [(momentKey, .text s)]

/-- The value of a scalar, its integers being in a range. -/
def Scalar.toJson? (inRange : Int → Bool) : Scalar → Option Json
  | text s => some (.text s)
  | integer n => if inRange n then some (.integer n) else none
  | real x => some (.ofReal x)
  | boolean b => some (.boolean b)
  | moment s => some (momentObject s)

mutual

/-- The value of a part of a document. -/
def Value.toJson? (inRange : Int → Bool) : Value → Option Json
  | .scalar s => s.toJson? inRange
  | .array items | .tables items => (itemsToJson? inRange items).map .array
  | .table _ entries => (entriesToJson? inRange entries).map .ofMembers

/-- The values of items. -/
def itemsToJson? (inRange : Int → Bool) : List Value → Option (List Json)
  | [] => some []
  | item :: rest => do
    let v ← item.toJson? inRange
    return v :: (← itemsToJson? inRange rest)

/-- The values of entries, with their keys. -/
def entriesToJson? (inRange : Int → Bool) : List (String × Value) → Option (List (String × Json))
  | [] => some []
  | (key, item) :: rest => do
    let v ← item.toJson? inRange
    return (key, v) :: (← entriesToJson? inRange rest)

end

/-- Integers of 64 bits, with a sign or without. -/
def isRuleInteger (n : Int) : Bool :=
  isSigned64 n || isUnsigned64 n

/-- The value of a text, for rules. -/
def valueOfText? (text : String) : Option Json := do
  let entries ← entriesOfText? text
  return .ofMembers (← entriesToJson? isRuleInteger entries)

/-- A field of a record: a date is a text. -/
def field (entry : (String × Value) × (String × Json)) : String × Json :=
  match entry with
  | ((name, .scalar (.moment s)), _) => (name, .text s)
  | (_, member) => member

/-- The entries of a text in order, for a record. -/
def membersOfText? (text : String) : Option (List (String × Json)) := do
  let entries ← entriesOfText? text
  let members ← entriesToJson? isSigned64 entries
  return (entries.zip members).map field

end RecordRules.Toml
