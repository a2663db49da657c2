import RecordRules.Check.Range
import RecordRules.PatternCache
import RecordRules.Record
import RecordRules.Text.Find

/-! # Conditional checks

When a condition on one field holds, another field has to meet a demand. -/

namespace RecordRules

/-- The texts of a field and of a value, unless the field is absent or null. -/
def textsOf (field : Option Value) (v : Value) (test : String → String → Bool) : Bool :=
  match present? field with
  | none => false
  | some f => test f.display v.display

/-- Whether a field compares with a value as an operator asks. -/
def ConditionOperator.holds (o : ConditionOperator) (field : Option Value) (v : Value) : Bool :=
  let a := Coercion.toNumber field
  let b := Coercion.ofValue v
  match o with
  | equals => Coercion.looseEq field (some v)
  | notEquals => !Coercion.looseEq field (some v)
  | greaterThan => b.lt a
  | greaterThanOrEqual => b.le a
  | lessThan => a.lt b
  | lessThanOrEqual => a.le b
  | contains => textsOf field v Text.contains
  | startsWith => textsOf field v Text.startsWith
  | endsWith => textsOf field v Text.endsWith
  | unsupported => false

namespace TargetCondition

/-- Whether a field is present, not null, and not the empty text. -/
def isFilled (field : Option Value) : Bool :=
  match present? field with
  | none | some (.text "") => false
  | some _ => true

/-- What there is to say about a number outside the bounds of a demand. -/
def rangeFault? (t : TargetCondition) (number : Binary64) : Option String :=
  if number.isNaN then some "be a valid number"
  else match t.min, t.max with
    | some min, max =>
      if number.lt min then some ("be at least " ++ min.toMessage)
      else max.bind fun max =>
        if max.lt number then some ("be at most " ++ max.toMessage) else none
    | none, some max => if max.lt number then some ("be at most " ++ max.toMessage) else none
    | none, none => none

/-- The outcome of a demand on a field of the given name; `reason` tells when it is made. -/
def outcome (t : TargetCondition) (name : String) (field : Option Value) (reason : String)
    (patterns : PatternCache) : Outcome :=
  match t.kind with
  | some .required =>
    .check (isFilled field) ("Field '" ++ name ++ "' is required " ++ reason)
  | some .format =>
    match t.pattern, present? field with
    | some pattern, some v =>
      match patterns.isMatch pattern v.display with
      | .ok matched =>
        .check matched ("Field '" ++ name ++ "' does not match required format " ++ reason)
      | .error message =>
        .fail ("Invalid format pattern '" ++ pattern ++ "': " ++ message)
    | _, _ => .pass
  | some .range =>
    match present? field with
    | none => .pass
    | some v =>
      match t.rangeFault? (Coercion.ofValue v) with
      | some fault => .fail ("Field '" ++ name ++ "' must " ++ fault ++ " " ++ reason)
      | none => .pass
  | some .unsupported | none => .pass

end TargetCondition

/-- The outcome for a record. -/
def ConditionalCheck.outcome (c : ConditionalCheck) (r : Record) (patterns : PatternCache) :
    Outcome :=
  match c.conditionField, c.conditionValue, c.targetField, c.targetCondition with
  | some field, some v, some target, some demand =>
    if c.conditionOperator.holds (r.get? field) v then
      demand.outcome target (r.get? target)
        ("when '" ++ field ++ "' " ++ c.conditionOperator.name ++ " '" ++ v.display ++ "'")
        patterns
    else .pass
  | _, _, _, _ => .pass

end RecordRules
