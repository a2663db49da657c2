import RecordRules.Check.Completeness
import RecordRules.Check.Format
import RecordRules.Proofs.Outcome

/-!
# Checks report their first failure

A format check may have a type and a pattern, a completeness check asks up to three things, and a
range has two bounds.  Such a check has the outcome of the first of its single checks that fails,
its message included: it never passes where one of them fails, and none of them hides another one
that comes before it.

## Key results

- `FormatCheck.outcome_eq_andThen`, `RangeCheck.outcome_eq_andThen`: two checks in one
- `CompletenessCheck.outcome_eq_firstFailure`: three checks in one
- `checks_report_first_failure`: all of them
-/

namespace RecordRules

open Outcome

/-! ### Formats -/

namespace FormatCheck

variable (patterns : PatternCache)

/-- Nothing is asked of a field without a value. -/
theorem outcome_of_absent (c : FormatCheck) {field : Option Value} (h : present? field = none) :
    c.outcome field patterns = .pass := by
  rw [outcome, h]

/-- A value has the outcome of its first fault: that of its type, or that of its pattern. -/
theorem outcome_of_present (c : FormatCheck) {field : Option Value} {v : Value}
    (h : present? field = some v) :
    c.outcome field patterns =
      ofFault?
        (c.dataType.bind (typeFault? · v) <|> c.pattern.bind (patternFault? patterns · v)) := by
  rw [outcome, h]
  rfl

/-- The type is checked before the pattern. -/
theorem outcome_eq_andThen (dataType : Option DataType) (pattern : Option String)
    (field : Option Value) :
    outcome { dataType, pattern } field patterns =
      (outcome { dataType } field patterns).andThen (outcome { pattern } field patterns) := by
  -- an absent field passes both checks; on a value the faults of the two are chained
  cases h : present? field with
  | none => simp only [outcome_of_absent patterns _ h, pass_andThen]
  | some v =>
    simp only [outcome_of_present patterns _ h, Option.bind_none, ofFault?_orElse, ofFault?_none,
      pass_andThen, ofFault?_andThen_pass]

end FormatCheck

/-! ### Ranges -/

namespace RangeCheck

theorem outcome_of_absent (c : RangeCheck) {field : Option Value} (h : present? field = none) :
    c.outcome field = .pass := by
  rw [outcome, h]

/-- The bounds are asked of a finite number. -/
theorem outcome_of_finite (c : RangeCheck) {field : Option Value} {v : Value}
    (h : present? field = some v) (hfinite : (Coercion.ofValue v).isFinite = true) :
    c.outcome field = ofFault? (c.fault? (Coercion.ofValue v)) := by
  rw [outcome, h]
  exact if_pos hfinite

/-- The bounds do not matter for what is no finite number. -/
theorem outcome_of_not_finite (c : RangeCheck) {field : Option Value} {v : Value}
    (h : present? field = some v) (hfinite : ¬ (Coercion.ofValue v).isFinite = true) :
    c.outcome field =
      .fail ("Value '" ++ v.display ++ "' is not a valid number for range validation") := by
  rw [outcome, h]
  exact if_neg hfinite

/-- The minimum is checked before the maximum. -/
theorem outcome_eq_andThen (min max : Option Binary64) (inclusive : Bool) (field : Option Value) :
    outcome { min, max, inclusive } field =
      (outcome { min, inclusive } field).andThen (outcome { max, inclusive } field) := by
  cases h : present? field with
  | none => simp only [outcome_of_absent _ h, pass_andThen]
  | some v =>
    by_cases hfinite : (Coercion.ofValue v).isFinite = true
    · simp only [outcome_of_finite _ h hfinite, fault?, Option.bind_none, ofFault?_orElse,
        ofFault?_none, pass_andThen, ofFault?_andThen_pass]
    · -- what is no number is refused by both checks in the same words
      simp only [outcome_of_not_finite _ h hfinite, fail_andThen]

end RangeCheck

/-! ### Fields that are to be filled -/

namespace CompletenessCheck

/-- The three questions are asked in turn, and the first fault is told. -/
theorem outcome_eq_ofFault? (c : CompletenessCheck) (field : Option Value) :
    c.outcome field =
      ofFault? (missingFault? c.required field <|> emptyFault? c.notEmpty field <|>
        lengthFault? c.minLength field) :=
  rfl

/-- It is asked whether the field is there, then whether it is empty, then how long it is. -/
theorem outcome_eq_firstFailure (required notEmpty : Bool) (minLength : Option Nat)
    (field : Option Value) :
    outcome { required, notEmpty, minLength } field =
      firstFailure [outcome { required } field, outcome { notEmpty } field,
        outcome { minLength } field] := by
  -- a check that is left out has nothing to say
  have hmissing : missingFault? false field = none := rfl
  have hempty : emptyFault? false field = none := rfl
  have hlength : lengthFault? none field = none := rfl
  simp only [outcome_eq_ofFault?, hmissing, hempty, hlength, ofFault?_orElse, ofFault?_none,
    firstFailure_cons, firstFailure_nil, pass_andThen, ofFault?_andThen_pass]

end CompletenessCheck

/-- A check that asks for several things has the outcome of the first of its single checks that
    fails, its message included. -/
theorem checks_report_first_failure (field : Option Value) (patterns : PatternCache) :
    (∀ dataType pattern,
      FormatCheck.outcome { dataType, pattern } field patterns =
        (FormatCheck.outcome { dataType } field patterns).andThen
          (FormatCheck.outcome { pattern } field patterns)) ∧
    (∀ required notEmpty minLength,
      CompletenessCheck.outcome { required, notEmpty, minLength } field =
        firstFailure [CompletenessCheck.outcome { required } field,
          CompletenessCheck.outcome { notEmpty } field,
          CompletenessCheck.outcome { minLength } field]) ∧
    ∀ min max inclusive,
      RangeCheck.outcome { min, max, inclusive } field =
        (RangeCheck.outcome { min, inclusive } field).andThen
          (RangeCheck.outcome { max, inclusive } field) :=
  ⟨fun dataType pattern => FormatCheck.outcome_eq_andThen patterns dataType pattern field,
    fun required notEmpty minLength =>
      CompletenessCheck.outcome_eq_firstFailure required notEmpty minLength field,
    fun min max inclusive => RangeCheck.outcome_eq_andThen min max inclusive field⟩

/-- A text that has neither the type nor the pattern is refused for its type. -/
example :
    FormatCheck.outcome { dataType := some .number, pattern := some "^[0-9]+$" }
      (some (.text "many")) .empty = .fail "Value 'many' is not a valid number" := by
  decide +kernel

end RecordRules
