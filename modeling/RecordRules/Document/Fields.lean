import RecordRules.Document.Fault
import RecordRules.Json.Reader
import RecordRules.Named
import RecordRules.Record
import RecordRules.Wire.Decode

/-! # The record of a document

A record is an object whose members are scalars.  Of members with equal names the first place
and the last value count, also where an earlier value is no scalar.

* `Fields.toRecord`   the record of the members of an object -/

namespace RecordRules
namespace Fields

/-- Members with each name once: the first place and the last value. -/
def distinct (members : List (String × Json)) : List (String × Json) :=
  members.foldl (fun fields (name, value) => Named.put name value fields) []

/-- The scalar of a field. -/
def scalar (name : String) (value : Json) : Except DocumentFault Value :=
  match Decode.scalar? value with
  | some v => .ok v
  | none => .error (.nested name)

/-- The record of fields, which are put in one by one. -/
def readFrom (r : Record) : List (String × Json) → Except DocumentFault Record
  | [] => .ok r
  | (name, value) :: rest => do
    let v ← scalar name value
    readFrom (r.put name v) rest

/-- The record of the members of an object. -/
def toRecord (members : List (String × Json)) : Except DocumentFault Record :=
  readFrom .empty (distinct members)

/-- The members of the object that a JSON text holds, in the order of the text. -/
def ofJsonText (text : String) : Except DecodeFault (List (String × Json)) :=
  let (draft, after) := Json.Draft.ofText text
  let wrong (found : Found) : Except DecodeFault (List (String × Json)) :=
    .error (.invalidType found "a map")
  match draft with
  | .null => wrong .null
  | .boolean b => wrong (.boolean b)
  | .integer n => wrong (.integer n)
  | .real x => wrong (.real x)
  | .text s => wrong (.text s)
  | .array _ _ => wrong .list
  | .broken fault => .error (.syntaxError fault)
  | .object members cut =>
    match Json.Draft.membersToJson members with
    | .error fault => .error (.syntaxError fault)
    | .ok members =>
      match cut.or after with
      | some fault => .error (.syntaxError fault)
      | none => .ok members

end Fields
end RecordRules
