import RecordRules.Check.Range
import RecordRules.Record

/-! # Checking that a value occurs once

A value is unique when no other field of its record holds an equal one.  The declared scope
does not widen the comparison to other records. -/

namespace RecordRules.UniquenessCheck

/-- How many fields of a record hold a value. -/
def occurrences (v : Value) (r : Record) : Nat :=
  r.values.countP fun other => Coercion.strictEq (some other) (some v)

/-- The outcome for the value of a field of a record. -/
def outcome (_c : UniquenessCheck) (field : Option Value) (r : Record) : Outcome :=
  match present? field with
  | none => .pass
  | some v =>
    .check (occurrences v r ≤ 1)
      ("Value '" ++ v.display ++ "' is not unique within the dataset")

end RecordRules.UniquenessCheck
