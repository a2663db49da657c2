import RecordRules.Check.Range
import RecordRules.Record

/-! # Fields that require other fields -/

namespace RecordRules.DependencyCheck

/-- The outcome for a record: when the first field has the value, the other one is filled. -/
def outcome (c : DependencyCheck) (r : Record) : Outcome :=
  match c.dependentField, c.requiredValue, c.targetField with
  | some field, some v, some target =>
    let triggered := Coercion.looseEq (r.get? field) (some v)
    .check (!triggered || !Coercion.isBlankField (r.get? target))
      ("Field '" ++ target ++ "' is required when '" ++ field ++ "' is '" ++ v.display ++ "'")
  | _, _, _ => .pass

end RecordRules.DependencyCheck
