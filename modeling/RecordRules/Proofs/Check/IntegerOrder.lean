import RecordRules.Proofs.Binary64.Nearest
import RecordRules.Proofs.Check.OrderTest

/-!
# Comparing integers

Conditions, comparisons of two fields and conditional checks all have operators that put two
values in order.  On 64-bit integers equality is exact where it is loose equality, in conditions
and conditional checks.  Every other verdict compares the integers as numbers, which keep 53
bits.

## Key results

- `compares_integers`: what each operator says about two integers, and when all of them agree
  with the order of the integers
- `compares_integers_inexactly`: they do not agree with it in general
-/

namespace RecordRules

open Binary64 (nearest)

/-! ## All verdicts at once -/

/-- Every verdict on two integers is about one of two orders: the operators that ask for loose
    equality judge `exact`, all others judge `rounded`. -/
structure ComparesAs (x y : Int64) (exact rounded : Ordering) : Prop where
  /-- A condition between two fields, such as `< {b}`. -/
  textual {a b text : String} {o : Relation} {test : Ordering → Bool} {r : Record} :
    r.get? a = some (.integer x) → r.get? b = some (.integer y) →
      Condition.parse text = .ok ⟨o, .field b⟩ → o.test? = some test →
        (TextCondition.outcome ⟨some a, some text⟩ r).passed =
          test (if o.isEquality then exact else rounded)
  /-- A comparison of two fields. -/
  comparison {a b : String} {o : ComparisonOperator} {test : Ordering → Bool} {r : Record}
    (expectedSum : Option Binary64) :
    r.get? a = some (.integer x) → r.get? b = some (.integer y) → o.test? = some test →
      (ComparisonCheck.outcome ⟨some a, some b, some o, expectedSum⟩ r).passed = test rounded
  /-- The condition of a conditional check, on a field that holds `x`. -/
  conditional {a : String} {o : ConditionOperator} {test : Ordering → Bool} {r : Record} :
    r.get? a = some (.integer x) → o.test? = some test →
      o.holds (r.get? a) (.integer y) = test (if o.isEquality then exact else rounded)

/-- All verdicts on two integers are those of their order. -/
def ComparesExactly (x y : Int64) : Prop :=
  ComparesAs x y (compare x.toInt y.toInt) (compare x.toInt y.toInt)

/-! ## The verdicts -/

/-- The order of two integers that went through numbers. -/
def roundedOrder (x y : Int64) : Ordering :=
  compare (nearest x.toInt) (nearest y.toInt)

/-- As numbers, two integers are in the order of the rounded integers. -/
theorem compare?_integer (x y : Int64) :
    (Binary64.ofInt x.toInt).compare? (.ofInt y.toInt) = some (roundedOrder x y) :=
  Binary64.compare?_ofInt (isSigned64_toInt x) (isSigned64_toInt y)

/-- Loose equality of integers does not go through numbers. -/
theorem looseEq_integer (x y : Int64) :
    Coercion.looseEq (some (.integer x)) (some (.integer y)) =
      (compare x.toInt y.toInt).isEq := by
  -- words are equal when the integers that they are worth are
  have heq : (compare x.toInt y.toInt).isEq ↔ x = y := by
    rw [Ordering.isEq_iff_eq_eq, Int.compare_eq_eq, Int64.toInt_inj]
  exact Bool.eq_iff_iff.mpr (beq_iff_eq.trans heq.symm)

/-- Integers are not dates, so they are ordered as numbers. -/
theorem order?_integer (x y : Int64) :
    Condition.order? (some (.integer x)) (some (.integer y)) = some (roundedOrder x y) := by
  have hdate : Coercion.isDateLike (some (.integer x)) = false := rfl
  simp only [Condition.order?, hdate, Bool.false_and, Bool.false_eq_true, if_false,
    Coercion.toNumber, Coercion.ofValue, compare?_integer]

/-- What a condition says about two integers: equality judges the integers, and everything else the
    rounded ones. -/
theorem relates_integer (x y : Int64) {o : Relation} {test : Ordering → Bool}
    (ho : o.test? = some test) :
    Condition.relates o (some (.integer x)) (some (.integer y)) =
      test (if o.isEquality then compare x.toInt y.toInt else roundedOrder x y) := by
  -- an operator that asks for equality does not ask for the order
  cases horder : o.isEquality with
  | false =>
    rw [Condition.relates_of_test? ho horder, order?_integer]
    rfl
  | true =>
    simp only [Condition.relates, looseEq_integer, if_true]
    -- nothing but their order is left of the integers
    generalize compare x.toInt y.toInt = exact
    cases o <;> obtain ⟨⟩ := ho <;> obtain ⟨⟩ := horder <;> cases exact <;> rfl

/-- The condition of a conditional check says the same. -/
theorem holds_integer (x y : Int64) {o : ConditionOperator} {test : Ordering → Bool}
    (ho : o.test? = some test) :
    o.holds (some (.integer x)) (.integer y) =
      test (if o.isEquality then compare x.toInt y.toInt else roundedOrder x y) := by
  cases horder : o.isEquality with
  | false =>
    rw [ConditionOperator.holds_of_test? ho horder, Coercion.toNumber, Coercion.ofValue,
      Coercion.ofValue, compare?_integer]
    rfl
  | true =>
    simp only [ConditionOperator.holds, looseEq_integer, if_true]
    -- the remaining operators are equality and its negation
    generalize compare x.toInt y.toInt = exact
    cases o <;> obtain ⟨⟩ := ho <;> obtain ⟨⟩ := horder <;> cases exact <;> rfl

/-- Integers are not dates, so two fields that hold them are compared as numbers. -/
theorem ComparisonCheck.order?_integer (x y : Int64) :
    ComparisonCheck.order? (some (.integer x)) (some (.integer y)) = some (roundedOrder x y) := by
  have hdate : Coercion.isDateLike (some (.integer x)) = false := rfl
  simp only [ComparisonCheck.order?, ComparisonCheck.comparable, hdate, Bool.false_and,
    Bool.false_eq_true, if_false, Coercion.toNumber, Coercion.ofValue, compare?_integer]

/-- All three modes judge two integers by their order and by that of the rounded integers. -/
theorem comparesAs_roundedOrder (x y : Int64) :
    ComparesAs x y (compare x.toInt y.toInt) (roundedOrder x y) where
  textual hx hy hparse ho := by
    rw [TextCondition.passed_outcome hparse, Operand.value, hx, hy, relates_integer x y ho]
  comparison _ hx hy ho := by
    rw [ComparisonCheck.passed_of_test? ho, hx, hy, ComparisonCheck.order?_integer]
    rfl
  conditional hx ho := by
    rw [hx]
    exact holds_integer x y ho

/-! ## When the verdicts are exact -/

/-- Rounding keeps the order of two integers unless it makes two different integers one. -/
theorem roundedOrder_eq_compare_iff {x y : Int64} :
    roundedOrder x y = compare x.toInt y.toInt ↔
      (nearest x.toInt = nearest y.toInt → x = y) := by
  unfold roundedOrder
  constructor
  · intro hsame hnearest
    rw [Int.compare_eq_eq.mpr hnearest] at hsame
    exact Int64.toInt_inj.mp (Int.compare_eq_eq.mp hsame.symm)
  · intro hdistinct
    -- rounding is monotone, so a strict order can only become equality, which is ruled out
    rcases Int.lt_trichotomy x.toInt y.toInt with hlt | heq | hgt
    · have hle := Binary64.nearest_mono (Int.le_of_lt hlt)
      have hne : nearest x.toInt ≠ nearest y.toInt := fun h => by
        rw [hdistinct h] at hlt
        omega
      have hlt' : nearest x.toInt < nearest y.toInt := by omega
      rw [Int.compare_eq_lt.mpr hlt, Int.compare_eq_lt.mpr hlt']
    · rw [heq, Int.compare_eq_eq.mpr rfl, Int.compare_eq_eq.mpr rfl]
    · have hle := Binary64.nearest_mono (Int.le_of_lt hgt)
      have hne : nearest x.toInt ≠ nearest y.toInt := fun h => by
        rw [hdistinct h] at hgt
        omega
      have hgt' : nearest y.toInt < nearest x.toInt := by omega
      rw [Int.compare_eq_gt.mpr hgt, Int.compare_eq_gt.mpr hgt']

/-- Two fields that hold integers. -/
private def integerFields (x y : Int64) : Record :=
  .ofList [("a", .integer x), ("b", .integer y)]

/-- The comparison of two fields tells whether the rounded integers are equal. -/
theorem ComparesAs.rounded_eq {x y : Int64} {exact rounded : Ordering}
    (h : ComparesAs x y exact rounded) : rounded.isEq = (roundedOrder x y).isEq := by
  have hx : (integerFields x y).get? "a" = some (.integer x) := rfl
  have hy : (integerFields x y).get? "b" = some (.integer y) := rfl
  -- both say what the comparison `equals` has to be, so they say the same
  have hone := h.comparison (o := .equals) none hx hy rfl
  have htwo := (comparesAs_roundedOrder x y).comparison (o := .equals) none hx hy rfl
  exact hone.symm.trans htwo

/-- The verdicts are exact when the two integers are not rounded to one number. -/
theorem comparesExactly_iff {x y : Int64} :
    ComparesExactly x y ↔ (nearest x.toInt = nearest y.toInt → x = y) := by
  constructor
  · intro h hnearest
    -- if both integers become one number, the comparison calls them equal
    have heq := h.rounded_eq
    rw [roundedOrder, Int.compare_eq_eq.mpr hnearest] at heq
    exact Int64.toInt_inj.mp (Int.compare_eq_eq.mp (Ordering.isEq_iff_eq_eq.mp heq))
  · intro h
    have hverdicts := comparesAs_roundedOrder x y
    rw [roundedOrder_eq_compare_iff.mpr h] at hverdicts
    exact hverdicts

/-- What the operators say about two 64-bit integers: loose equality is exact, and everything
    else is about the integers rounded to 53 bits.  So all verdicts are those of the integer order
    exactly if no two different integers are rounded to the same number, as it is up to `2 ^ 53`
    and for integers more than 1024 apart. -/
theorem compares_integers (x y : Int64) :
    ComparesAs x y (compare x.toInt y.toInt) (compare (nearest x.toInt) (nearest y.toInt)) ∧
      (ComparesExactly x y ↔ (nearest x.toInt = nearest y.toInt → x = y)) ∧
      (x.toInt.natAbs ≤ twoTo 53 → y.toInt.natAbs ≤ twoTo 53 → ComparesExactly x y) ∧
      (1024 < (x.toInt - y.toInt).natAbs → ComparesExactly x y) := by
  refine ⟨comparesAs_roundedOrder x y, comparesExactly_iff, fun hx hy => ?_, fun hfar => ?_⟩
  -- up to `2 ^ 53` nothing is rounded, so equal numbers are equal integers
  · refine comparesExactly_iff.mpr fun hnearest => ?_
    rw [Binary64.nearest_eq_self hx, Binary64.nearest_eq_self hy] at hnearest
    exact Int64.toInt_inj.mp hnearest
  · refine comparesExactly_iff.mpr fun hnearest => ?_
    -- each of the two is at most 512 away from the number that both became
    have hx := Binary64.natAbs_nearest_sub_le (isSigned64_toInt x)
    have hy := Binary64.natAbs_nearest_sub_le (isSigned64_toInt y)
    omega

/-- The operators do not follow the order of integers: `2 ^ 53` and its successor are one
    number. -/
theorem compares_integers_inexactly : ¬ ∀ x y : Int64, ComparesExactly x y := by
  intro h
  -- exact verdicts would tell the two integers apart
  have heq := (h 9007199254740992 9007199254740993).rounded_eq
  exact absurd heq (by decide +kernel)

/-- Of these two integers neither is smaller, they are not equal, and each is at most the
    other. -/
example : ["< \x7bb\x7d", "== \x7bb\x7d", "> \x7bb\x7d", "<= \x7bb\x7d", ">= \x7bb\x7d"].map
    (fun text => (TextCondition.outcome ⟨some "a", some text⟩
      (integerFields 9007199254740992 9007199254740993)).passed) =
    [false, false, false, true, true] := by
  decide +kernel

end RecordRules
