import RecordRules.Rule.Basic
import RecordRules.Wire.Decode

/-! # Checks as JSON

On the wire a check is a type name next to a configuration.  `Check.read` makes a check of
the pair and `Check.write` the pair of a check.  A null configuration reads as an empty one,
and the configuration of an unknown type is kept as it is.

A cross-field configuration names its mode under `type`; where that fails, for whatever
reason, it is tried as a condition written as text. -/

namespace RecordRules

/-- A member that is written only when its value is there. -/
def optionalMember {α : Type} (name : String) (write : α → Json) : Option α →
    List (String × Json)
  | none => []
  | some a => [(name, write a)]

namespace FormatCheck

/-- The parts of a configuration. -/
def slots : List (Decode.Slot FormatCheck) :=
  [.optional "pattern" (Decode.optional Decode.text) fun p c => { c with pattern := p },
   .optional "dataType" (Decode.optional (Decode.named false (.ok ∘ DataType.ofName)))
     fun t c => { c with dataType := t }]

/-- Reads a configuration. -/
def read : Json → Decoded FormatCheck :=
  Decode.structure? "FormatConfig" slots {}

/-- The members of a configuration. -/
def members (c : FormatCheck) : List (String × Json) :=
  optionalMember "pattern" .text c.pattern ++
    optionalMember "dataType" (.text ∘ DataType.name) c.dataType

end FormatCheck

namespace RangeCheck

/-- The parts of a configuration. -/
def slots : List (Decode.Slot RangeCheck) :=
  [.optional "min" (Decode.optional Decode.real) fun x c => { c with min := x },
   .optional "max" (Decode.optional Decode.real) fun x c => { c with max := x },
   .optional "inclusive" Decode.boolean fun b c => { c with inclusive := b }]

/-- Reads a configuration. -/
def read : Json → Decoded RangeCheck :=
  Decode.structure? "RangeConfig" slots {}

/-- The members of a configuration. -/
def members (c : RangeCheck) : List (String × Json) :=
  optionalMember "min" .ofReal c.min ++ optionalMember "max" .ofReal c.max ++
    [("inclusive", .boolean c.inclusive)]

end RangeCheck

namespace CompletenessCheck

/-- The parts of a configuration. -/
def slots : List (Decode.Slot CompletenessCheck) :=
  [.optional "required" Decode.boolean fun b c => { c with required := b },
   .optional "notEmpty" Decode.boolean fun b c => { c with notEmpty := b },
   .optional "minLength" (Decode.optional Decode.size) fun n c => { c with minLength := n }]

/-- Reads a configuration. -/
def read : Json → Decoded CompletenessCheck :=
  Decode.structure? "CompletenessConfig" slots {}

/-- The members of a configuration. -/
def members (c : CompletenessCheck) : List (String × Json) :=
  [("required", .boolean c.required), ("notEmpty", .boolean c.notEmpty)] ++
    optionalMember "minLength" (fun n : Nat => .integer n) c.minLength

end CompletenessCheck

namespace UniquenessCheck

/-- A scope by its name; there is no other scope. -/
def scopeNamed (name : String) : Decoded UniquenessScope :=
  match UniquenessScope.ofName? name with
  | some s => .ok s
  | none => .error (.unknownVariant name ["collection", "dataset"])

/-- The parts of a configuration. -/
def slots : List (Decode.Slot UniquenessCheck) :=
  [.optional "scope" (Decode.optional (Decode.named false scopeNamed))
     fun s c => { c with scope := s }]

/-- Reads a configuration. -/
def read : Json → Decoded UniquenessCheck :=
  Decode.structure? "UniquenessConfig" slots {}

/-- The members of a configuration. -/
def members (c : UniquenessCheck) : List (String × Json) :=
  optionalMember "scope" (.text ∘ UniquenessScope.name) c.scope

end UniquenessCheck

namespace CustomCheck

/-- The parts of a configuration. -/
def slots : List (Decode.Slot CustomCheck) :=
  [.optional "functionName" (Decode.optional Decode.text)
     fun n c => { c with functionName := n },
   .optional "parameters" .ok fun j c => { c with parameters := j }]

/-- Reads a configuration. -/
def read : Json → Decoded CustomCheck :=
  Decode.structure? "CustomConfig" slots {}

/-- The members of a configuration. -/
def members (c : CustomCheck) : List (String × Json) :=
  optionalMember "functionName" .text c.functionName ++
    if c.parameters = .null then [] else [("parameters", c.parameters)]

end CustomCheck

namespace TargetCondition

/-- The parts of a demand. -/
def slots : List (Decode.Slot TargetCondition) :=
  [.optional "type" (Decode.optional (Decode.named true (.ok ∘ TargetKind.ofName)))
     fun k c => { c with kind := k },
   .optional "pattern" (Decode.optional Decode.text) fun p c => { c with pattern := p },
   .optional "min" (Decode.optional Decode.real) fun x c => { c with min := x },
   .optional "max" (Decode.optional Decode.real) fun x c => { c with max := x }]

/-- Reads a demand. -/
def read : Json → Decoded TargetCondition :=
  Decode.structure? "TargetCondition" slots {}

/-- The members of a demand. -/
def members (c : TargetCondition) : List (String × Json) :=
  optionalMember "type" (.text ∘ TargetKind.name) c.kind ++
    optionalMember "pattern" .text c.pattern ++
    optionalMember "min" .ofReal c.min ++ optionalMember "max" .ofReal c.max

end TargetCondition

namespace ConditionalCheck

/-- The parts of a configuration. -/
def slots : List (Decode.Slot ConditionalCheck) :=
  [.optional "conditionField" (Decode.optional Decode.text)
     fun f c => { c with conditionField := f },
   .optional "conditionValue" (Decode.optional Decode.scalar)
     fun v c => { c with conditionValue := v },
   .optional "conditionOperator" (Decode.named true (.ok ∘ ConditionOperator.ofName))
     fun o c => { c with conditionOperator := o },
   .optional "targetField" (Decode.optional Decode.text)
     fun f c => { c with targetField := f },
   .optional "targetCondition" (Decode.optional TargetCondition.read)
     fun t c => { c with targetCondition := t }]

/-- Reads a configuration. -/
def read : Json → Decoded ConditionalCheck :=
  Decode.structure? "ConditionalConfig" slots {}

/-- The members of a configuration. -/
def members (c : ConditionalCheck) : List (String × Json) :=
  optionalMember "conditionField" .text c.conditionField ++
    optionalMember "conditionValue" Value.toJson c.conditionValue ++
    [("conditionOperator", .text c.conditionOperator.name)] ++
    optionalMember "targetField" .text c.targetField ++
    optionalMember "targetCondition" (fun t => .ofMembers t.members) c.targetCondition

end ConditionalCheck

namespace ComparisonCheck

/-- The parts of a configuration. -/
def slots : List (Decode.Slot ComparisonCheck) :=
  [.optional "field1" (Decode.optional Decode.text) fun f c => { c with field1 := f },
   .optional "field2" (Decode.optional Decode.text) fun f c => { c with field2 := f },
   .optional "comparisonOperator"
     (Decode.optional (Decode.named true (.ok ∘ ComparisonOperator.ofName)))
     fun o c => { c with comparisonOperator := o },
   .optional "expectedSum" (Decode.optional Decode.real)
     fun x c => { c with expectedSum := x }]

/-- Reads a configuration. -/
def read : Json → Decoded ComparisonCheck :=
  Decode.structure? "ComparisonConfig" slots {}

/-- The members of a configuration. -/
def members (c : ComparisonCheck) : List (String × Json) :=
  optionalMember "field1" .text c.field1 ++ optionalMember "field2" .text c.field2 ++
    optionalMember "comparisonOperator" (.text ∘ ComparisonOperator.name)
      c.comparisonOperator ++
    optionalMember "expectedSum" .ofReal c.expectedSum

end ComparisonCheck

namespace DependencyCheck

/-- The parts of a configuration. -/
def slots : List (Decode.Slot DependencyCheck) :=
  [.optional "dependentField" (Decode.optional Decode.text)
     fun f c => { c with dependentField := f },
   .optional "requiredValue" (Decode.optional Decode.scalar)
     fun v c => { c with requiredValue := v },
   .optional "targetField" (Decode.optional Decode.text)
     fun f c => { c with targetField := f }]

/-- Reads a configuration. -/
def read : Json → Decoded DependencyCheck :=
  Decode.structure? "DependencyConfig" slots {}

/-- The members of a configuration. -/
def members (c : DependencyCheck) : List (String × Json) :=
  optionalMember "dependentField" .text c.dependentField ++
    optionalMember "requiredValue" Value.toJson c.requiredValue ++
    optionalMember "targetField" .text c.targetField

end DependencyCheck

namespace BusinessRule

/-- The parts of a configuration. -/
def slots : List (Decode.Slot (Option BusinessRule)) :=
  [.optional "businessRule" (Decode.optional (Decode.named true (.ok ∘ BusinessRule.ofName)))
     fun b _ => b]

/-- Reads a configuration. -/
def read : Json → Decoded (Option BusinessRule) :=
  Decode.structure? "BusinessRuleConfig" slots none

/-- The members of a configuration. -/
def members (b : Option BusinessRule) : List (String × Json) :=
  optionalMember "businessRule" (.text ∘ BusinessRule.name) b

end BusinessRule

namespace TextCondition

/-- The parts of a configuration. -/
def slots : List (Decode.Slot TextCondition) :=
  [.optional "dependentField" (Decode.optional Decode.text)
     fun f c => { c with dependentField := f },
   .optional "condition" (Decode.optional Decode.text) fun t c => { c with condition := t }]

/-- Reads a configuration. -/
def read : Json → Decoded TextCondition :=
  Decode.structure? "LegacyConfig" slots {}

/-- The members of a configuration. -/
def members (c : TextCondition) : List (String × Json) :=
  optionalMember "dependentField" .text c.dependentField ++
    optionalMember "condition" .text c.condition

end TextCondition

/-- The modes that a cross-field configuration can name. -/
inductive CrossFieldMode where
  | conditional
  | comparison
  | dependency
  | business
  deriving DecidableEq, Repr

namespace CrossFieldMode

/-- The name of a mode. -/
def name : CrossFieldMode → String
  | conditional => "conditional"
  | comparison => "comparison"
  | dependency => "dependency"
  | business => "businessRule"

/-- The mode that a tag selects, by name or by its place in the list of modes. -/
def ofTag? : Json → Option CrossFieldMode
  | .text "conditional" | .integer 0 => some conditional
  | .text "comparison" | .integer 1 => some comparison
  | .text "dependency" | .integer 2 => some dependency
  | .text "businessRule" | .integer 3 => some business
  | _ => none

/-- Reads the configuration of a mode. -/
def read : CrossFieldMode → Json → Decoded CrossFieldCheck
  | conditional, j => (ConditionalCheck.read j).map .conditional
  | comparison, j => (ComparisonCheck.read j).map .comparison
  | dependency, j => (DependencyCheck.read j).map .dependency
  | business, j => (BusinessRule.read j).map .business

end CrossFieldMode

namespace CrossFieldCheck

/-- The tag of a configuration and the configuration without it. -/
def splitTag? : Json → Option (Json × Json)
  | .object members =>
    (Json.member? "type" members).map fun tag =>
      (tag, .object (members.filter (·.1 ≠ "type")))
  | .array (tag :: items) => some (tag, .array items)
  | _ => none

/-- Reads a configuration that names its mode. -/
def readTyped? (j : Json) : Option CrossFieldCheck := do
  let (tag, rest) ← splitTag? j
  let mode ← CrossFieldMode.ofTag? tag
  (mode.read rest).toOption

/-- Reads a configuration. -/
def read (j : Json) : Decoded CrossFieldCheck :=
  match readTyped? j with
  | some c => .ok c
  | none =>
    match TextCondition.read j with
    | .ok c => .ok (.textual c)
    | .error _ => .error (.noVariant "CrossFieldConfig")

/-- The tag of a mode as a member. -/
def tagMember (mode : CrossFieldMode) : List (String × Json) :=
  [("type", .text mode.name)]

/-- The members of a configuration. -/
def members : CrossFieldCheck → List (String × Json)
  | conditional c => tagMember .conditional ++ c.members
  | comparison c => tagMember .comparison ++ c.members
  | dependency c => tagMember .dependency ++ c.members
  | business b => tagMember .business ++ BusinessRule.members b
  | textual c => c.members

end CrossFieldCheck

namespace Check

/-- Reads the configuration of a known type; an unknown type keeps it. -/
def readAs (ruleType : String) (j : Json) : Decoded Check :=
  match ruleType with
  | "format" => (FormatCheck.read j).map format
  | "range" => (RangeCheck.read j).map range
  | "completeness" => (CompletenessCheck.read j).map completeness
  | "uniqueness" => (UniquenessCheck.read j).map uniqueness
  | "crossField" => (CrossFieldCheck.read j).map crossField
  | "custom" => (CustomCheck.read j).map custom
  | other => .ok (unknown other j)

/-- A null configuration stands for an empty one. -/
def normalize : Json → Json
  | .null => .object []
  | j => j

/-- The check of a type name and a configuration. -/
def read (ruleType : String) (configuration : Json) : Decoded Check :=
  (readAs ruleType (normalize configuration)).mapError (.configuration ruleType)

/-- The configuration of a check. -/
def configuration : Check → Json
  | format c => .ofMembers c.members
  | range c => .ofMembers c.members
  | completeness c => .ofMembers c.members
  | uniqueness c => .ofMembers c.members
  | crossField c => .ofMembers c.members
  | custom c => .ofMembers c.members
  | unknown _ j => j

/-- The type name and the configuration of a check. -/
def write (c : Check) : String × Json :=
  (c.ruleType, c.configuration)

end Check
end RecordRules
