import RecordRules.Check.CrossField
import RecordRules.Proofs.Binary64.Order

/-!
# Operators as tests of an order

Conditions, comparisons of two fields and conditional checks have operators of their own that put
two values in order.  Each such operator is a test: it accepts some of the orders that two values
can have.  Its verdict is what the test says about the order that its mode finds, except that
conditions and conditional checks leave equality to loose equality.

## Key results

- `Condition.relates_of_test?`: the operators of conditions
- `ComparisonCheck.passed_of_test?`: the operators that compare two fields
- `ConditionOperator.holds_of_test?`: the operators of conditional checks
-/

namespace RecordRules

/-! ### What the operators ask of an order -/

/-- The orders that an operator accepts; containment is not about order. -/
def Relation.test? : Relation → Option (Ordering → Bool)
  | .eq => some Ordering.isEq
  | .ne => some Ordering.isNe
  | .ge => some Ordering.isGE
  | .le => some Ordering.isLE
  | .gt => some Ordering.isGT
  | .lt => some Ordering.isLT
  | .includes => none

/-- The orders that a comparison of two fields accepts; sums are not about order. -/
def ComparisonOperator.test? : ComparisonOperator → Option (Ordering → Bool)
  | .equals => some Ordering.isEq
  | .notEquals => some Ordering.isNe
  | .greaterThanOrEqual => some Ordering.isGE
  | .lessThanOrEqual => some Ordering.isLE
  | .greaterThan => some Ordering.isGT
  | .lessThan => some Ordering.isLT
  | .sumEquals | .sumLessThan | .sumGreaterThan | .unsupported => none

/-- The orders that the condition of a conditional check accepts. -/
def ConditionOperator.test? : ConditionOperator → Option (Ordering → Bool)
  | .equals => some Ordering.isEq
  | .notEquals => some Ordering.isNe
  | .greaterThanOrEqual => some Ordering.isGE
  | .lessThanOrEqual => some Ordering.isLE
  | .greaterThan => some Ordering.isGT
  | .lessThan => some Ordering.isLT
  | .contains | .startsWith | .endsWith | .unsupported => none

/-- Whether an operator asks whether two values are equal, rather than how they are ordered. -/
def Relation.isEquality : Relation → Bool
  | .eq | .ne => true
  | _ => false

/-- Whether an operator asks whether two values are equal, rather than how they are ordered. -/
def ConditionOperator.isEquality : ConditionOperator → Bool
  | .equals | .notEquals => true
  | _ => false

/-! ### Verdicts on the order of two values -/

/-- An operator that does not ask for equality says what its test says of the order of two values.
    -/
theorem Condition.relates_of_test? {o : Relation} {test : Ordering → Bool}
    (ho : o.test? = some test) (horder : o.isEquality = false) (a b : Option Value) :
    relates o a b = verdict test (order? a b) := by
  unfold relates
  -- only the order matters, so each operator is tried on the three orders and on none
  generalize order? a b = order
  cases o <;> obtain ⟨⟩ := ho <;> obtain ⟨⟩ := horder <;>
    rcases order with _ | (_ | _ | _) <;> rfl

/-- The same is true in conditional checks, where both sides are taken as numbers. -/
theorem ConditionOperator.holds_of_test? {o : ConditionOperator} {test : Ordering → Bool}
    (ho : o.test? = some test) (horder : o.isEquality = false) (field : Option Value) (v : Value) :
    o.holds field v =
      verdict test ((Coercion.toNumber field).compare? (Coercion.ofValue v)) := by
  unfold holds
  dsimp only
  generalize Coercion.toNumber field = x, Coercion.ofValue v = y
  -- the operators that ask for a greater field compare the other way round
  simp only [Binary64.lt_eq_verdict, Binary64.le_eq_verdict, Binary64.compare?_swap x y]
  generalize x.compare? y = order
  cases o <;> obtain ⟨⟩ := ho <;> obtain ⟨⟩ := horder <;>
    rcases order with _ | (_ | _ | _) <;> rfl

namespace ComparisonCheck

/-- The order of two fields, on the scale on which they are compared. -/
def order? (a b : Option Value) : Option Ordering :=
  (comparable a b).1.compare? (comparable a b).2

/-- The comparisons that are tests are not about sums, and they compare numbers by their test. -/
theorem direct?_of_test? {o : ComparisonOperator} {test : Ordering → Bool}
    (ho : o.test? = some test) :
    ∃ compares phrase, sum? o = none ∧ direct? o = some (compares, phrase) ∧
      ∀ x y, compares x y = verdict test (x.compare? y) := by
  cases o <;> obtain ⟨⟩ := ho <;> refine ⟨_, _, rfl, rfl, fun x y => ?_⟩ <;>
    -- `>` and `>=` exchange their sides, so the swapped order is tested
    simp only [Binary64.eq_eq_verdict, Binary64.lt_eq_verdict, Binary64.le_eq_verdict,
      Binary64.compare?_swap x y] <;>
    rcases x.compare? y with _ | (_ | _ | _) <;> rfl

/-- A comparison of two fields says what its test says of their order. -/
theorem passed_of_test? {o : ComparisonOperator} {test : Ordering → Bool}
    (ho : o.test? = some test) (field1 field2 : String) (expectedSum : Option Binary64)
    (r : Record) :
    (outcome ⟨some field1, some field2, some o, expectedSum⟩ r).passed =
      verdict test (order? (r.get? field1) (r.get? field2)) := by
  obtain ⟨compares, phrase, hsum, hdirect, htest⟩ := direct?_of_test? ho
  -- the message is not looked at, only whether the comparison holds
  simp only [outcome, hsum, hdirect, Outcome.passed_check, htest, order?]

end ComparisonCheck

/-- A text that reads as a condition passes a check exactly when the condition holds. -/
theorem TextCondition.passed_outcome {text : String} {c : Condition}
    (hparse : Condition.parse text = .ok c) (subject : String) (r : Record) :
    (outcome ⟨some subject, some text⟩ r).passed =
      Condition.relates c.relation (r.get? subject) (c.operand.value r) := by
  simp only [outcome, hparse, Outcome.passed_check, Condition.holds]

end RecordRules
