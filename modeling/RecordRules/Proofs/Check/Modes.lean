import RecordRules.Proofs.Check.ConditionText
import RecordRules.Proofs.Check.ValueOrder

/-!
# One operator in three modes

An operator such as `>=` can be asked for in a condition, in a comparison of two fields and in the
condition of a conditional check.  The three are evaluated apart from each other.  This module says
on which values they give one verdict.

## Key results

- `modes_agree`: on order, unless both values are texts; on the order of two dates, conditions and
  comparisons; on equality and containment, conditions and conditional checks
-/

namespace RecordRules

open Coercion (isDateLike)

/-! ### The operators of one meaning -/

namespace Relation

/-- Whether an operator asks which of two values is greater. -/
def isOrder : Relation → Bool
  | ge | le | gt | lt => true
  | eq | ne | includes => false

/-- The operator of the same meaning that compares two fields; none asks for containment. -/
def inComparison? : Relation → Option ComparisonOperator
  | eq => some .equals
  | ne => some .notEquals
  | ge => some .greaterThanOrEqual
  | le => some .lessThanOrEqual
  | gt => some .greaterThan
  | lt => some .lessThan
  | includes => none

/-- The operator of the same meaning in a conditional check. -/
def inConditional : Relation → ConditionOperator
  | eq => .equals
  | ne => .notEquals
  | ge => .greaterThanOrEqual
  | le => .lessThanOrEqual
  | gt => .greaterThan
  | lt => .lessThan
  | includes => .contains

/-- An operator that asks for an order is a test of it, and does not ask for equality. -/
theorem exists_test?_of_isOrder {o : Relation} (h : o.isOrder = true) :
    ∃ test, o.test? = some test ∧ o.isEquality = false := by
  cases o <;> obtain ⟨⟩ := h <;> exact ⟨_, rfl, rfl⟩

/-- The comparison of the same meaning is the same test. -/
theorem test?_inComparison {o : Relation} {c : ComparisonOperator}
    (h : o.inComparison? = some c) : c.test? = o.test? := by
  cases o <;> obtain ⟨⟩ := h <;> rfl

theorem test?_inConditional (o : Relation) : o.inConditional.test? = o.test? := by
  cases o <;> rfl

theorem isEquality_inConditional (o : Relation) :
    o.inConditional.isEquality = o.isEquality := by
  cases o <;> rfl

/-- What a condition of an operator says, wherever its operand is from. -/
def SaysInText (o : Relation) (a b : Option Value) (answer : Bool) : Prop :=
  ∀ (r : Record) (subject text : String) (operand : Operand),
    Condition.parse text = .ok ⟨o, operand⟩ → r.get? subject = a → operand.value r = b →
      (TextCondition.outcome ⟨some subject, some text⟩ r).passed = answer

/-- What a comparison of two fields says, if there is one of the operator's meaning. -/
def SaysInComparison (o : Relation) (a b : Option Value) (answer : Bool) : Prop :=
  ∀ (c : ComparisonOperator) (r : Record) (field1 field2 : String)
    (expectedSum : Option Binary64),
    o.inComparison? = some c → r.get? field1 = a → r.get? field2 = b →
      (ComparisonCheck.outcome ⟨some field1, some field2, some c, expectedSum⟩ r).passed = answer

/-- What the condition of a conditional check says, which compares with a present value. -/
def SaysInConditional (o : Relation) (a b : Option Value) (answer : Bool) : Prop :=
  ∀ v : Value, b = some v → o.inConditional.holds a v = answer

variable {o : Relation} {a b : Option Value}

/-- What conditions say is what their operator says of the two values. -/
theorem saysInText (o : Relation) (a b : Option Value) :
    o.SaysInText a b (Condition.relates o a b) := by
  intro r subject text operand hparse hsubject hoperand
  rw [TextCondition.passed_outcome hparse, hsubject, hoperand]

/-- Comparisons say what conditions say where they find the same order. -/
theorem saysInComparison_of_order (horder : o.isOrder = true)
    (hsame : ComparisonCheck.order? a b = Condition.order? a b) :
    o.SaysInComparison a b (Condition.relates o a b) := by
  obtain ⟨test, htest, hequality⟩ := exists_test?_of_isOrder horder
  intro c r field1 field2 expectedSum hc h1 h2
  have hctest : c.test? = some test := (test?_inComparison hc).trans htest
  -- all that is left of the operator is its test, and of the values their order
  rw [ComparisonCheck.passed_of_test? hctest, h1, h2, hsame,
    Condition.relates_of_test? htest hequality]

/-- Conditional checks say what conditions say of an order, unless both values are texts, which only
    conditions take for dates. -/
theorem saysInConditional_of_order (horder : o.isOrder = true)
    (htexts : ¬ (IsText a ∧ IsText b)) :
    o.SaysInConditional a b (Condition.relates o a b) := by
  obtain ⟨test, htest, hequality⟩ := exists_test?_of_isOrder horder
  have hctest : o.inConditional.test? = some test := (test?_inConditional o).trans htest
  have hcequality : o.inConditional.isEquality = false :=
    (isEquality_inConditional o).trans hequality
  rintro v rfl
  -- without two texts a condition compares numbers too, as a conditional check always does
  rw [ConditionOperator.holds_of_test? hctest hcequality,
    Condition.relates_of_test? htest hequality, Condition.order?_of_not_texts htexts]
  rfl

/-- Both modes leave equality to loose equality, and look for a text in the same way. -/
theorem saysInConditional_of_not_order (horder : o.isOrder = false) :
    o.SaysInConditional a b (Condition.relates o a b) := by
  rintro v rfl
  -- both modes delegate to one definition, so nothing is left to compare
  cases o with
  | eq | ne => rfl
  | ge | le | gt | lt => exact nomatch horder
  | includes =>
    -- only a text contains anything, in either mode
    cases a with
    | none => rfl
    | some w => cases w <;> rfl

end Relation

/-- The three modes give one verdict on the order of two values, unless both are texts.  On the
    order of two dates conditions and comparisons still agree, and on equality and containment
    conditions and conditional checks always do. -/
theorem modes_agree (o : Relation) (a b : Option Value) :
    o.SaysInText a b (Condition.relates o a b) ∧
    (o.isOrder = true → ¬ (IsText a ∧ IsText b) →
      o.SaysInComparison a b (Condition.relates o a b) ∧
        o.SaysInConditional a b (Condition.relates o a b)) ∧
    (o.isOrder = true → isDateLike a = true → isDateLike b = true →
      o.SaysInComparison a b (Condition.relates o a b)) ∧
    (o.isOrder = false → o.SaysInConditional a b (Condition.relates o a b)) := by
  refine ⟨o.saysInText a b, fun horder htexts => ⟨?_, ?_⟩, fun horder ha hb => ?_,
    fun horder => ?_⟩
  -- values that are not both texts are numbers to each mode
  · exact Relation.saysInComparison_of_order horder
      (ComparisonCheck.order?_eq_of_not_texts htexts)
  · exact Relation.saysInConditional_of_order horder htexts
  -- two dates are milliseconds to conditions and to comparisons, but not to conditional checks
  · exact Relation.saysInComparison_of_order horder (ComparisonCheck.order?_eq_of_dates ha hb)
  · exact Relation.saysInConditional_of_not_order horder

/-- An amount that is text, a limit that is a number, and two ways to write a date. -/
private def invoice : Record :=
  .ofList [("amount", .text " 10 "), ("limit", .integer 10), ("due", .text "2024-01-15"),
    ("paid", .text "01/16/2024")]

/-- The amount is at least the limit in every mode, the invoice was due before it was paid, and the
    amount contains a digit. -/
theorem modes_agree_invoice :
    ((TextCondition.outcome ⟨some "amount", some ">= \x7blimit\x7d"⟩ invoice).passed = true ∧
      (ComparisonCheck.outcome ⟨some "amount", some "limit", some .greaterThanOrEqual, none⟩
        invoice).passed = true ∧
      ConditionOperator.greaterThanOrEqual.holds (invoice.get? "amount") (.integer 10) = true) ∧
    ((TextCondition.outcome ⟨some "due", some "< \x7bpaid\x7d"⟩ invoice).passed = true ∧
      (ComparisonCheck.outcome ⟨some "due", some "paid", some .lessThan, none⟩
        invoice).passed = true) ∧
    ((TextCondition.outcome ⟨some "amount", some "includes '0 '"⟩ invoice).passed = true ∧
      ConditionOperator.contains.holds (invoice.get? "amount") (.text "0 ") = true) := by
  have hge : Condition.relates .ge (invoice.get? "amount") (some (.integer 10)) = true := by
    decide +kernel
  have hlt : Condition.relates .lt (invoice.get? "due") (invoice.get? "paid") = true := by
    decide +kernel
  have hincludes :
      Condition.relates .includes (invoice.get? "amount") (some (.text "0 ")) = true := by
    decide +kernel
  have hlimit : ¬ (IsText (invoice.get? "amount") ∧ IsText (some (.integer 10))) := nofun
  refine ⟨?amount, ?due, ?digit⟩
  case amount =>
    obtain ⟨htext, hsame, -, -⟩ := modes_agree .ge (invoice.get? "amount") (some (.integer 10))
    obtain ⟨hcomparison, hconditional⟩ := hsame rfl hlimit
    rw [hge] at htext hcomparison hconditional
    exact ⟨htext invoice "amount" _ (.field "limit") rfl rfl rfl,
      hcomparison _ invoice "amount" "limit" none rfl rfl rfl, hconditional _ rfl⟩
  case due =>
    obtain ⟨htext, -, hdates, -⟩ := modes_agree .lt (invoice.get? "due") (invoice.get? "paid")
    have hcomparison := hdates rfl (by decide +kernel) (by decide +kernel)
    rw [hlt] at htext hcomparison
    exact ⟨htext invoice "due" _ (.field "paid") rfl rfl rfl,
      hcomparison _ invoice "due" "paid" none rfl rfl rfl⟩
  case digit =>
    obtain ⟨htext, -, -, hcontains⟩ :=
      modes_agree .includes (invoice.get? "amount") (some (.text "0 "))
    have hconditional := hcontains rfl
    rw [hincludes] at htext hconditional
    exact ⟨htext invoice "amount" _ (.literal (.text "0 ")) rfl rfl rfl, hconditional _ rfl⟩

end RecordRules
