import RecordRules.Check.Range
import RecordRules.Record

/-! # Comparing two fields

Two fields that both hold dates compare as moments, otherwise as numbers.  The sum operators
add the two numbers and compare the sum with the one expected. -/

namespace RecordRules.ComparisonCheck

/-- Two fields on one scale. -/
def comparable (a b : Option Value) : Binary64 × Binary64 :=
  if Coercion.isDateLike a && Coercion.isDateLike b then
    match Coercion.millis? a, Coercion.millis? b with
    | some x, some y => (x, y)
    | _, _ => (Coercion.toNumber a, Coercion.toNumber b)
  else (Coercion.toNumber a, Coercion.toNumber b)

/-- A direct comparison: its test, and how a message names it. -/
def direct? : ComparisonOperator → Option ((Binary64 → Binary64 → Bool) × String)
  | .equals => some (fun a b => a.eq b, "equal to")
  | .notEquals => some (fun a b => !a.eq b, "different from")
  | .greaterThan => some (fun a b => b.lt a, "greater than")
  | .greaterThanOrEqual => some (fun a b => b.le a, "greater than or equal to")
  | .lessThan => some (fun a b => a.lt b, "less than")
  | .lessThanOrEqual => some (fun a b => a.le b, "less than or equal to")
  | _ => none

/-- A comparison of a sum with a number: its test, and how a message names it. -/
def sum? : ComparisonOperator → Option ((Binary64 → Binary64 → Bool) × String)
  | .sumEquals => some (fun a b => a.eq b, "equal to")
  | .sumLessThan => some (fun a b => a.lt b, "less than")
  | .sumGreaterThan => some (fun a b => b.lt a, "greater than")
  | _ => none

/-- The beginning of a message. -/
def heading (field1 : String) (o : ComparisonOperator) (field2 : String) : String :=
  "Comparison '" ++ field1 ++ " " ++ o.name ++ " " ++ field2 ++ "' failed: "

/-- The outcome for a record. -/
def outcome (c : ComparisonCheck) (r : Record) : Outcome :=
  match c.field1, c.field2, c.comparisonOperator with
  | some field1, some field2, some o =>
    let a := r.get? field1
    let b := r.get? field2
    match sum? o, direct? o with
    | some (test, phrase), _ =>
      match c.expectedSum with
      | none => .pass
      | some expected =>
        let sum := (Coercion.toNumber a).add (Coercion.toNumber b)
        .check (test sum expected)
          (heading field1 o field2 ++ "sum " ++ sum.toMessage ++ " is not " ++ phrase ++ " " ++
            expected.toMessage)
    | none, some (test, phrase) =>
      let (x, y) := comparable a b
      .check (test x y)
        (heading field1 o field2 ++ "'" ++ Coercion.display a ++ "' is not " ++ phrase ++
          " '" ++ Coercion.display b ++ "'")
    | none, none => .pass
  | _, _, _ => .pass

end RecordRules.ComparisonCheck
