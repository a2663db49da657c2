import RecordRules.Rule.CheckCodec

/-! # Rules as JSON

* `Rule.read`    the rule of a JSON value
* `Rule.write`   the JSON value of a rule, its members in the order of the documents -/

namespace RecordRules

/-- A rule as it is written: the check apart into its type name and configuration. -/
structure WrittenRule where
  id : String := ""
  name : String := ""
  description : Option String := none
  ruleType : String := ""
  target : String := ""
  configuration : Json := .null
  severity : String := "error"
  enabled : Bool := true

namespace WrittenRule

/-- The target is a structure with the field pattern. -/
def targetSlots : List (Decode.Slot String) :=
  [.mandatory "field" Decode.text fun f _ => f]

/-- Reads a target. -/
def readTarget : Json → Decoded String :=
  Decode.structure? "RuleTarget" targetSlots ""

/-- The parts of a rule. -/
def slots : List (Decode.Slot WrittenRule) :=
  [.mandatory "id" Decode.text fun s r => { r with id := s },
   .mandatory "name" Decode.text fun s r => { r with name := s },
   .optional "description" (Decode.optional Decode.text)
     fun s r => { r with description := s },
   .mandatory "ruleType" Decode.text fun s r => { r with ruleType := s },
   .mandatory "target" readTarget fun t r => { r with target := t },
   .optional "configuration" .ok fun j r => { r with configuration := j },
   .optional "severity" Decode.text fun s r => { r with severity := s },
   .optional "enabled" Decode.boolean fun b r => { r with enabled := b }]

/-- Reads a rule without looking into its configuration. -/
def read : Json → Decoded WrittenRule :=
  Decode.structure? "RawRuleDefinition" slots {}

/-- The rule written. -/
def toRule (w : WrittenRule) : Decoded Rule := do
  let check ← Check.read w.ruleType w.configuration
  return ⟨w.id, w.name, w.description, w.target, check, w.severity, w.enabled⟩

/-- The written form of a rule. -/
def ofRule (r : Rule) : WrittenRule :=
  let (ruleType, configuration) := r.check.write
  { id := r.id
    name := r.name
    description := r.description
    ruleType := ruleType
    target := r.target
    configuration := configuration
    severity := r.severity
    enabled := r.enabled }

/-- The members of a written rule. -/
def members (w : WrittenRule) : List (String × Json) :=
  [("id", .text w.id), ("name", .text w.name)] ++
    optionalMember "description" .text w.description ++
    [("ruleType", .text w.ruleType), ("target", .object [("field", .text w.target)]),
     ("configuration", w.configuration), ("severity", .text w.severity),
     ("enabled", .boolean w.enabled)]

end WrittenRule

namespace Rule

/-- The rule of a JSON value. -/
def read (j : Json) : Decoded Rule := do
  (← WrittenRule.read j).toRule

/-- The members of a rule. -/
def members (r : Rule) : List (String × Json) :=
  (WrittenRule.ofRule r).members

/-- The JSON value of a rule. -/
def write (r : Rule) : Json :=
  .object r.members

end Rule
end RecordRules
