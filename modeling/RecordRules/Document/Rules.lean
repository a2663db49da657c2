import RecordRules.Document.Fault
import RecordRules.Rule.Codec

/-! # The rules of a document

A document of rules is a list of rules, or an object that has the list under `rules`.

* `RuleDocument.read`    the rules of a value
* `RuleDocument.write`   the value of rules -/

namespace RecordRules
namespace RuleDocument

/-- The rules of a document before they are read. -/
def items? : Json → Except RuleSetFault (List Json)
  | .array items => .ok items
  | .object members =>
    match Json.member? "rules" members with
    | some (.array items) => .ok items
    | some _ => .error .rulesNotList
    | none => .error .noRules
  | _ => .error .noRules

/-- How messages call a rule: by its identifier if it has one, else by its number. -/
def label (number : Nat) (item : Json) : String :=
  match (item.get? "id").bind Json.text? with
  | some id => "rule '" ++ id ++ "'"
  | none => "rule #" ++ toString number

/-- Reads the rules of a list, of which the first has the given number. -/
def readItems (number : Nat) : List Json → Except RuleSetFault (List Rule)
  | [] => .ok []
  | item :: rest =>
    match Rule.read item with
    | .error cause => .error (.rule ⟨label number item, cause⟩)
    | .ok rule => (readItems (number + 1) rest).map (rule :: ·)

/-- The rules of a value. -/
def read (document : Json) : Except RuleSetFault (List Rule) :=
  (items? document).bind (readItems 1)

/-- The one member of a document: the list of its rules. -/
def member (rules : List Rule) : String × Json :=
  ("rules", .array (rules.map Rule.write))

/-- The value of rules. -/
def write (rules : List Rule) : Json :=
  .object [member rules]

end RuleDocument
end RecordRules
