import RecordRules.Rule.CrossField

/-! # Rules

A rule aims a check at the fields that its target selects, under an identifier, a name and
a severity. -/

namespace RecordRules

/-- Built-in types of text that a format check knows. -/
inductive DataType where
  | email
  | phone
  | url
  | number
  | date
  /-- Any other name; no built-in test runs. -/
  | other
  deriving DecidableEq, Repr, Inhabited

namespace DataType

/-- The name of a type. -/
def name : DataType → String
  | email => "email"
  | phone => "phone"
  | url => "url"
  | number => "number"
  | date => "date"
  | other => "other"

/-- The type of a name. -/
def ofName : String → DataType
  | "email" => email
  | "phone" => phone
  | "url" => url
  | "number" => number
  | "date" => date
  | _ => other

@[simp] theorem ofName_name (t : DataType) : ofName t.name = t := by
  cases t <;> rfl

end DataType

/-- The shape of a value: a built-in type, a regular expression, or both. -/
structure FormatCheck where
  pattern : Option String := none
  dataType : Option DataType := none
  deriving DecidableEq, Inhabited

/-- Bounds on a number. -/
structure RangeCheck where
  min : Option Binary64 := none
  max : Option Binary64 := none
  inclusive : Bool := true
  deriving DecidableEq, Inhabited

/-- Presence, emptiness and length of a value. -/
structure CompletenessCheck where
  required : Bool := false
  notEmpty : Bool := false
  minLength : Option Nat := none
  deriving DecidableEq, Inhabited

/-- Where values are declared to be unique; they are compared within the record. -/
inductive UniquenessScope where
  | collection
  | dataset
  deriving DecidableEq, Repr, Inhabited

namespace UniquenessScope

/-- The name of a scope. -/
def name : UniquenessScope → String
  | collection => "collection"
  | dataset => "dataset"

/-- The scope of a name. -/
def ofName? : String → Option UniquenessScope
  | "collection" => some collection
  | "dataset" => some dataset
  | _ => none

@[simp] theorem ofName?_name (s : UniquenessScope) : ofName? s.name = some s := by
  cases s <;> rfl

end UniquenessScope

/-- No other field of the record holds the same value. -/
structure UniquenessCheck where
  scope : Option UniquenessScope := none
  deriving DecidableEq, Inhabited

/-- A registered function decides. -/
structure CustomCheck where
  functionName : Option String := none
  parameters : Json := .null
  deriving DecidableEq, Inhabited

/-- What a rule checks. -/
inductive Check where
  | format (c : FormatCheck)
  | range (c : RangeCheck)
  | completeness (c : CompletenessCheck)
  | uniqueness (c : UniquenessCheck)
  | crossField (c : CrossFieldCheck)
  | custom (c : CustomCheck)
  /-- A type of rule outside the known ones; it fails whenever it is evaluated. -/
  | unknown (ruleType : String) (configuration : Json)
  deriving DecidableEq, Inhabited

/-- The name of a check's kind. -/
def Check.ruleType : Check → String
  | format _ => "format"
  | range _ => "range"
  | completeness _ => "completeness"
  | uniqueness _ => "uniqueness"
  | crossField _ => "crossField"
  | custom _ => "custom"
  | unknown ruleType _ => ruleType

/-- A check and the fields it is aimed at. -/
structure Rule where
  id : String
  name : String
  description : Option String := none
  /-- A field name, `*`, or a pattern with `*` in it. -/
  target : String := "*"
  check : Check
  severity : String := "error"
  /-- A disabled rule is never evaluated. -/
  enabled : Bool := true
  deriving DecidableEq, Inhabited

/-- The name of the rule's kind. -/
def Rule.ruleType (r : Rule) : String :=
  r.check.ruleType

end RecordRules
