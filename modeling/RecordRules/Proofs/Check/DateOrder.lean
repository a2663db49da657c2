import RecordRules.Proofs.Binary64.Nearest
import RecordRules.Proofs.Check.Modes
import RecordRules.Proofs.Moment

/-!
# Comparing dates

Conditions and comparisons of two fields put two dates in the order of their milliseconds.  The
milliseconds become numbers on the way, but they fit the 53 bits that numbers keep, so nothing is
lost there.  What is lost is the time below a millisecond, and leap seconds run on into the second
after them.

## Key results

- `compares_dates`: what the operators say about two dates, and when it is the order of time
- `compares_dates_inexactly`: it is not the order of time in general
-/

namespace RecordRules

/-! ## All verdicts at once -/

/-- Every verdict on two texts about which of them is greater is the one of an order, in conditions
    and in comparisons of two fields; comparisons also ask that order whether the texts are equal.
    -/
structure ComparesTextsAs (a b : String) (order : Ordering) : Prop where
  /-- A condition such as `< {b}`, between a field and another field or a literal. -/
  textual {field text : String} {o : Relation} {operand : Operand} {test : Ordering → Bool}
    {r : Record} :
    r.get? field = some (.text a) → operand.value r = some (.text b) →
      Condition.parse text = .ok ⟨o, operand⟩ → o.isOrder = true → o.test? = some test →
        (TextCondition.outcome ⟨some field, some text⟩ r).passed = test order
  /-- A comparison of two fields. -/
  comparison {field1 field2 : String} {o : ComparisonOperator} {test : Ordering → Bool}
    {r : Record} (expectedSum : Option Binary64) :
    r.get? field1 = some (.text a) → r.get? field2 = some (.text b) → o.test? = some test →
      (ComparisonCheck.outcome ⟨some field1, some field2, some o, expectedSum⟩ r).passed =
        test order

/-- Texts are compared as some order as soon as both modes find that order between them. -/
theorem ComparesTextsAs.of_order? {a b : String} {order : Ordering}
    (hcondition : Condition.order? (some (.text a)) (some (.text b)) = some order)
    (hcomparison : ComparisonCheck.order? (some (.text a)) (some (.text b)) = some order) :
    ComparesTextsAs a b order where
  textual ha hb hparse horder ho := by
    -- a relation that orders is no test of equality, which would look at the kinds of values
    obtain ⟨test, htest, hequality⟩ := Relation.exists_test?_of_isOrder horder
    obtain rfl := Option.some.inj (ho.symm.trans htest)
    rw [TextCondition.passed_outcome hparse, ha, hb, Condition.relates_of_test? ho hequality,
      hcondition]
    rfl
  comparison _ ha hb ho := by
    rw [ComparisonCheck.passed_of_test? ho, ha, hb, hcomparison]
    rfl

/-! ## The order of two dates -/

section

variable {a b : String} {s t : Moment} (ha : Moment.ofText? a = some s)
  (hb : Moment.ofText? b = some t)
include ha hb

/-- The milliseconds of two dates survive as numbers. -/
theorem compare?_millis :
    (Binary64.ofInt s.millis).compare? (.ofInt t.millis) = some (compare s.millis t.millis) :=
  Binary64.compare?_ofInt_of_le (Moment.natAbs_millis_le ha) (Moment.natAbs_millis_le hb)

/-- Two dates are compared as their milliseconds, by conditions and by comparisons. -/
theorem comparesTextsAs_millis : ComparesTextsAs a b (compare s.millis t.millis) := by
  -- both sides are dates, so both modes go through milliseconds
  have hdate1 : Coercion.isDateLike (some (.text a)) = true :=
    Option.isSome_iff_exists.mpr ⟨s, ha⟩
  have hdate2 : Coercion.isDateLike (some (.text b)) = true :=
    Option.isSome_iff_exists.mpr ⟨t, hb⟩
  have hmillis1 : Coercion.millis? (some (.text a)) = some (.ofInt s.millis) := by
    rw [Coercion.millis?, ha, Option.map_some]
  have hmillis2 : Coercion.millis? (some (.text b)) = some (.ofInt t.millis) := by
    rw [Coercion.millis?, hb, Option.map_some]
  refine .of_order? ?_ ?_
  · rw [Condition.order?_of_dates hdate1 hdate2 hmillis1 hmillis2, compare?_millis ha hb]
  · rw [ComparisonCheck.order?_of_dates hdate1 hdate2 hmillis1 hmillis2, compare?_millis ha hb]

/-- What the operators say about two dates: they are in the order of their milliseconds.  Unless
    one of them lies in a leap second and the other one in the second after it, this is the order of
    time, up to what is below a millisecond; so it is the order of time exactly if the dates are not
    two moments of one millisecond. -/
theorem compares_dates :
    ComparesTextsAs a b (compare s.millis t.millis) ∧
      (¬ s.RunsInto t → ¬ t.RunsInto s →
        compare s.millis t.millis = s.startOfMilli.order t.startOfMilli ∧
          (compare s.millis t.millis = s.order t ↔ (s.millis = t.millis → s = t))) := by
  -- dates that are read have less than two seconds of nanoseconds, leap seconds included
  have hs := Moment.nanos_lt ha
  have ht := Moment.nanos_lt hb
  refine ⟨comparesTextsAs_millis ha hb, fun hst hts => ⟨?_, ?_⟩⟩
  · exact Moment.compare_millis hs ht hst hts
  · exact Moment.compare_millis_eq_order_iff hs ht hst hts

end

/-- Half past eight in universal time comes before half past ten, also when its own clock shows
    half past ten. -/
theorem compares_dates_of_offset :
    Moment.ofText? "2024-01-15T10:30:00+02:00" = some ⟨1705307400, 0⟩ ∧
      Moment.ofText? "Mon, 15 Jan 2024 10:30:00 +0000" = some ⟨1705314600, 0⟩ ∧
      ComparesTextsAs "2024-01-15T10:30:00+02:00" "Mon, 15 Jan 2024 10:30:00 +0000"
        (Moment.order ⟨1705307400, 0⟩ ⟨1705314600, 0⟩) := by
  have ha : Moment.ofText? "2024-01-15T10:30:00+02:00" = some ⟨1705307400, 0⟩ := by
    decide +kernel
  have hb : Moment.ofText? "Mon, 15 Jan 2024 10:30:00 +0000" = some ⟨1705314600, 0⟩ := by
    decide +kernel
  obtain ⟨hverdicts, htime⟩ := compares_dates ha hb
  obtain ⟨-, hsame⟩ := htime (by decide) (by decide)
  -- the two dates are hours apart
  rw [hsame.mpr (by decide)] at hverdicts
  exact ⟨ha, hb, hverdicts⟩

/-- Two dates that share their millisecond. -/
private def closeDates : Record :=
  .ofList [("a", .text "2024-01-15T10:30:00.0001Z"), ("b", .text "2024-01-15T10:30:00.0002Z")]

/-- The comparisons of two dates do not follow the order of time: of two moments of one
    millisecond, the earlier one is not less than the later one. -/
theorem compares_dates_inexactly :
    ¬ ∀ (a b : String) (s t : Moment), Moment.ofText? a = some s → Moment.ofText? b = some t →
      ComparesTextsAs a b (s.order t) := by
  intro h
  have hverdicts := h "2024-01-15T10:30:00.0001Z" "2024-01-15T10:30:00.0002Z"
    ⟨1705314600, 100000⟩ ⟨1705314600, 200000⟩ (by decide +kernel) (by decide +kernel)
  -- their milliseconds are the same, so the first one is not less than the second
  have hless : (ComparisonCheck.outcome ⟨some "a", some "b", some .lessThan, none⟩
      closeDates).passed =
        Ordering.isLT (Moment.order ⟨1705314600, 100000⟩ ⟨1705314600, 200000⟩) :=
    hverdicts.comparison none rfl rfl rfl
  exact absurd hless (by decide +kernel)

end RecordRules
