import RecordRules.Value

/-! # Checks that span several fields

A cross-field check names the fields it looks at.  Every part of its configuration may be
missing; a check that misses a part it needs passes. -/

namespace RecordRules

/-- How a condition compares a field with a value. -/
inductive ConditionOperator where
  | equals
  | notEquals
  | greaterThan
  | greaterThanOrEqual
  | lessThan
  | lessThanOrEqual
  | contains
  | startsWith
  | endsWith
  /-- Any other name; the condition never holds. -/
  | unsupported
  deriving DecidableEq, Repr, Inhabited

namespace ConditionOperator

/-- The name of an operator. -/
def name : ConditionOperator → String
  | equals => "equals"
  | notEquals => "notEquals"
  | greaterThan => "greaterThan"
  | greaterThanOrEqual => "greaterThanOrEqual"
  | lessThan => "lessThan"
  | lessThanOrEqual => "lessThanOrEqual"
  | contains => "contains"
  | startsWith => "startsWith"
  | endsWith => "endsWith"
  | unsupported => "unsupported"

/-- The operator of a name. -/
def ofName : String → ConditionOperator
  | "equals" => equals
  | "notEquals" => notEquals
  | "greaterThan" => greaterThan
  | "greaterThanOrEqual" => greaterThanOrEqual
  | "lessThan" => lessThan
  | "lessThanOrEqual" => lessThanOrEqual
  | "contains" => contains
  | "startsWith" => startsWith
  | "endsWith" => endsWith
  | _ => unsupported

/-- An operator is found by its name; also the one that stands for all unknown names. -/
@[simp] theorem ofName_name (o : ConditionOperator) : ofName o.name = o := by
  cases o <;> rfl

end ConditionOperator

/-- What a conditional check asks of its target field. -/
inductive TargetKind where
  | required
  | format
  | range
  /-- Any other name; nothing is asked. -/
  | unsupported
  deriving DecidableEq, Repr, Inhabited

namespace TargetKind

/-- The name of a kind. -/
def name : TargetKind → String
  | required => "required"
  | format => "format"
  | range => "range"
  | unsupported => "unsupported"

/-- The kind of a name. -/
def ofName : String → TargetKind
  | "required" => required
  | "format" => format
  | "range" => range
  | _ => unsupported

@[simp] theorem ofName_name (k : TargetKind) : ofName k.name = k := by
  cases k <;> rfl

end TargetKind

/-- The demand on the target field of a conditional check. -/
structure TargetCondition where
  kind : Option TargetKind := none
  pattern : Option String := none
  min : Option Binary64 := none
  max : Option Binary64 := none
  deriving DecidableEq, Inhabited

/-- When one field compares in a given way with a value, another field meets a demand. -/
structure ConditionalCheck where
  conditionField : Option String := none
  conditionValue : Option Value := none
  conditionOperator : ConditionOperator := .equals
  targetField : Option String := none
  targetCondition : Option TargetCondition := none
  deriving DecidableEq, Inhabited

/-- How two fields are compared, or their sum with a number. -/
inductive ComparisonOperator where
  | equals
  | notEquals
  | greaterThan
  | greaterThanOrEqual
  | lessThan
  | lessThanOrEqual
  | sumEquals
  | sumLessThan
  | sumGreaterThan
  /-- Any other name; nothing is compared. -/
  | unsupported
  deriving DecidableEq, Repr, Inhabited

namespace ComparisonOperator

/-- The name of an operator. -/
def name : ComparisonOperator → String
  | equals => "equals"
  | notEquals => "notEquals"
  | greaterThan => "greaterThan"
  | greaterThanOrEqual => "greaterThanOrEqual"
  | lessThan => "lessThan"
  | lessThanOrEqual => "lessThanOrEqual"
  | sumEquals => "sumEquals"
  | sumLessThan => "sumLessThan"
  | sumGreaterThan => "sumGreaterThan"
  | unsupported => "unsupported"

/-- The operator of a name. -/
def ofName : String → ComparisonOperator
  | "equals" => equals
  | "notEquals" => notEquals
  | "greaterThan" => greaterThan
  | "greaterThanOrEqual" => greaterThanOrEqual
  | "lessThan" => lessThan
  | "lessThanOrEqual" => lessThanOrEqual
  | "sumEquals" => sumEquals
  | "sumLessThan" => sumLessThan
  | "sumGreaterThan" => sumGreaterThan
  | _ => unsupported

@[simp] theorem ofName_name (o : ComparisonOperator) : ofName o.name = o := by
  cases o <;> rfl

end ComparisonOperator

/-- Two fields compare in a given way, or add up as expected. -/
structure ComparisonCheck where
  field1 : Option String := none
  field2 : Option String := none
  comparisonOperator : Option ComparisonOperator := none
  expectedSum : Option Binary64 := none
  deriving DecidableEq, Inhabited

/-- When one field has a value, another one is filled. -/
structure DependencyCheck where
  dependentField : Option String := none
  requiredValue : Option Value := none
  targetField : Option String := none
  deriving DecidableEq, Inhabited

/-- The catalogue of business rules. -/
inductive BusinessRule where
  | ageVerification
  | emailPhoneRequired
  | minorsConsent
  | salaryVerification
  /-- Not in the catalogue; always passes. -/
  | unknown
  deriving DecidableEq, Repr, Inhabited

namespace BusinessRule

/-- The name of a rule. -/
def name : BusinessRule → String
  | ageVerification => "age-verification"
  | emailPhoneRequired => "email-phone-required"
  | minorsConsent => "minors-consent"
  | salaryVerification => "salary-verification"
  | unknown => "unknown"

/-- The rule of a name. -/
def ofName : String → BusinessRule
  | "age-verification" => ageVerification
  | "email-phone-required" => emailPhoneRequired
  | "minors-consent" => minorsConsent
  | "salary-verification" => salaryVerification
  | _ => unknown

@[simp] theorem ofName_name (b : BusinessRule) : ofName b.name = b := by
  cases b <;> rfl

end BusinessRule

/-- One field satisfies a condition written as text. -/
structure TextCondition where
  dependentField : Option String := none
  condition : Option String := none
  deriving DecidableEq, Inhabited

/-- A check that spans several fields. -/
inductive CrossFieldCheck where
  | conditional (c : ConditionalCheck)
  | comparison (c : ComparisonCheck)
  | dependency (c : DependencyCheck)
  | business (rule : Option BusinessRule)
  | textual (c : TextCondition)
  deriving DecidableEq, Inhabited

end RecordRules
