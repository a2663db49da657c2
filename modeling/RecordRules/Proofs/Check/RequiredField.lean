import Mathlib.Logic.Basic
import RecordRules.Check.Conditional
import RecordRules.Check.Dependency

/-!
# Fields that have to be filled

Two kinds of checks ask that a field be filled: a dependency check, when another field has a value,
and a conditional check with such a demand, when its condition holds.  They look at the field in
different ways, but they take the same fields for blank.  So a dependency check is a conditional
check that asks for equality, and one that asks for the opposite fails where the trigger of the
dependency is missing.

## Key results

- `TargetCondition.isFilled_iff`, `Coercion.isBlankField_iff`: what counts as filled, and as blank
- `DependencyCheck.passed_iff`, `ConditionalCheck.passed_required_iff`: when the two checks pass
- `dependency_is_conditional`: dependencies in terms of conditions
-/

namespace RecordRules

/-! ### Blank fields -/

/-- A field without content: it is absent, null or an empty text. -/
inductive Blank : Option Value → Prop where
  | absent : Blank none
  | null : Blank (some .null)
  | empty : Blank (some (.text ""))

/-- A field is taken for blank when it has no content. -/
theorem Coercion.isBlankField_iff {field : Option Value} :
    isBlankField field = true ↔ Blank field := by
  constructor
  · intro h
    -- the test goes through the same three shapes
    unfold isBlankField at h
    split at h
    · exact .absent
    · exact .null
    · obtain rfl := eq_of_beq h
      exact .empty
    · exact absurd h Bool.false_ne_true
  · rintro (_ | _ | _) <;> rfl

instance (field : Option Value) : Decidable (Blank field) :=
  decidable_of_iff _ Coercion.isBlankField_iff

/-- A field counts as filled when it is not blank. -/
theorem TargetCondition.isFilled_iff {field : Option Value} :
    isFilled field = true ↔ ¬ Blank field := by
  constructor
  · rintro h (_ | _ | _) <;> exact absurd h Bool.false_ne_true
  · intro h
    -- values other than texts are filled as soon as they are there and not null
    cases field with
    | none => exact absurd .absent h
    | some v =>
      cases v with
      | null => exact absurd .null h
      | text s =>
        have hs : s ≠ "" := by
          rintro rfl
          exact h .empty
        simp [isFilled, present?, hs]
      | boolean _ | integer _ | real _ => rfl

/-! ### The two checks -/

namespace DependencyCheck

/-- The first field of a dependency has the value that asks for the other one. -/
def IsTriggered (c : DependencyCheck) (r : Record) : Prop :=
  ∃ field v, c.dependentField = some field ∧ c.requiredValue = some v ∧
    Coercion.looseEq (r.get? field) (some v) = true

/-- A dependency with both parts is triggered by a field that is loosely equal to its value. -/
theorem isTriggered_iff {field : String} {v : Value} {target : Option String} {r : Record} :
    IsTriggered ⟨some field, some v, target⟩ r ↔
      Coercion.looseEq (r.get? field) (some v) = true := by
  simp [IsTriggered]

/-- A dependency check passes where it is not triggered and where the other field is filled. -/
theorem passed_iff (c : DependencyCheck) (r : Record) :
    (c.outcome r).passed = true ↔
      (c.IsTriggered r → ∀ target, c.targetField = some target → ¬ Blank (r.get? target)) := by
  obtain ⟨field, v, target⟩ := c
  unfold outcome
  -- a dependency with a missing part passes, and is not triggered or asks for no field
  match field, v, target with
  | none, _, _ | some _, none, _ => simp [IsTriggered]
  | some _, some _, none => simp
  | some field, some v, some target =>
    rw [isTriggered_iff, imp_iff_not_or]
    simp only [Outcome.passed_check, Bool.or_eq_true, Bool.not_eq_true', ← Bool.not_eq_true,
      Coercion.isBlankField_iff, Option.some.injEq, forall_eq']

end DependencyCheck

/-- A conditional check for a filled field passes where its condition does not hold and where the
    field is filled; what else its demand says does not matter. -/
theorem ConditionalCheck.passed_required_iff {demand : TargetCondition}
    (hkind : demand.kind = some .required) (o : ConditionOperator) (field target : String)
    (v : Value) (r : Record) (patterns : PatternCache) :
    (outcome ⟨some field, some v, o, some target, some demand⟩ r patterns).passed = true ↔
      (o.holds (r.get? field) v = true → ¬ Blank (r.get? target)) := by
  -- the condition decides whether the demand is looked at
  by_cases hholds : o.holds (r.get? field) v = true
  · simp [outcome, TargetCondition.outcome, hkind, hholds, TargetCondition.isFilled_iff]
  · simp [outcome, hholds]

/-- A dependency check passes where the conditional check for equality passes that asks for the same
    field.  The one for the opposite passes where the field is filled or the dependency is
    triggered. -/
theorem dependency_is_conditional (field target : String) (v : Value) (pattern : Option String)
    (min max : Option Binary64) (r : Record) (patterns : PatternCache) :
    (ConditionalCheck.outcome ⟨some field, some v, .equals, some target,
        some ⟨some .required, pattern, min, max⟩⟩ r patterns).passed =
      (DependencyCheck.outcome ⟨some field, some v, some target⟩ r).passed ∧
    ((ConditionalCheck.outcome ⟨some field, some v, .notEquals, some target,
        some ⟨some .required, pattern, min, max⟩⟩ r patterns).passed = true ↔
      ¬ Blank (r.get? target) ∨
        DependencyCheck.IsTriggered ⟨some field, some v, some target⟩ r) ∧
    ((DependencyCheck.outcome ⟨some field, some v, some target⟩ r).passed = false ↔
      DependencyCheck.IsTriggered ⟨some field, some v, some target⟩ r ∧ Blank (r.get? target)) := by
  have hdependency := DependencyCheck.passed_iff ⟨some field, some v, some target⟩ r
  simp only [Option.some.injEq, forall_eq'] at hdependency
  -- the condition `equals` is loose equality, which also triggers the dependency
  refine ⟨?_, ?_, ?_⟩
  · rw [Bool.eq_iff_iff, hdependency, ConditionalCheck.passed_required_iff rfl,
      DependencyCheck.isTriggered_iff]
    exact Iff.rfl
  · rw [ConditionalCheck.passed_required_iff rfl, DependencyCheck.isTriggered_iff,
      ConditionOperator.holds, Bool.not_eq_true', ← Bool.not_eq_true, imp_iff_not_or, not_not,
      or_comm]
  · rw [← Bool.not_eq_true, hdependency, Classical.not_imp, not_not]

/-- An absent field has the value null, and so it asks for the other one. -/
example :
    (DependencyCheck.outcome ⟨some "delivered", some .null, some "reason"⟩
      (.ofList [("reason", .text "")])).passed = false := by
  decide

end RecordRules
