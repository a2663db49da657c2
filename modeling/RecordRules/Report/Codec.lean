import RecordRules.Report
import RecordRules.Wire.Stream

/-! # Results as JSON

* `Result.listOfText`   the results that a JSON text lists
* `Result.write`        the JSON value of a result, its members in the order of the documents

A value that is absent is left out when it is written.  A null is written as null, which
reads as absent. -/

namespace RecordRules
namespace Result

/-- The parts of a result. -/
def slots : List (Stream.Slot Result) :=
  [⟨.mandatory "ruleId" Decode.text fun s r => { r with ruleId := s }, Stream.surface⟩,
   ⟨.mandatory "ruleName" Decode.text fun s r => { r with ruleName := s }, Stream.surface⟩,
   ⟨.mandatory "field" Decode.text fun s r => { r with field := s }, Stream.surface⟩,
   ⟨.optional "value" (Decode.optional Decode.scalar) fun v r => { r with value := v },
    Stream.whole⟩,
   ⟨.mandatory "severity" Decode.text fun s r => { r with severity := s }, Stream.surface⟩,
   ⟨.mandatory "passed" Decode.boolean fun b r => { r with passed := b }, Stream.surface⟩,
   ⟨.optional "message" (Decode.optional Decode.text) fun m r => { r with message := m },
    Stream.surface⟩]

/-- The result of a draft. -/
def read : Json.Draft → Decoded Result :=
  Stream.structure? "ValidationResult" slots {}

/-- The results that a JSON text lists. -/
def listOfText (text : String) : Decoded (List Result) :=
  Stream.ofText (Stream.list read) text

/-- The members of a result. -/
def members (r : Result) : List (String × Json) :=
  [("ruleId", .text r.ruleId), ("ruleName", .text r.ruleName), ("field", .text r.field)] ++
    (r.value.map fun v => ("value", v.toJson)).toList ++
    [("severity", .text r.severity), ("passed", .boolean r.passed)] ++
    (r.message.map fun m => ("message", .text m)).toList

/-- The JSON value of a result. -/
def write (r : Result) : Json :=
  .object r.members

end Result
end RecordRules
