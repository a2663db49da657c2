import RecordRules.Proofs.Binary64.Order
import RecordRules.Proofs.Check.FailOpen
import RecordRules.Proofs.Check.ValueOrder

/-!
# What counts as a number within bounds

Range checks, demands of conditional checks and format checks each ask for a number, the first two
for one within bounds.  They compare a number with inclusive bounds in the same way, but they do
not agree on what a number is: an infinity is none for range and format checks, and for demands it
is one.

## Key results

- `RangeCheck.passed_inclusive_iff`, `TargetCondition.passed_range_iff`,
  `FormatCheck.passed_number_iff`: what each of the three asks for
- `Binary64.within_infinity_iff`: the bounds that leave an infinity within
- `demand_passes_as_range`: the three agree on every value but the infinities
- `demand_may_pass_beyond_range`: on those they do not
-/

namespace RecordRules

open Coercion (toNumber ofValue)

/-! ### Numbers within bounds -/

namespace Binary64

/-- Neither below one bound nor above the other; each of them may be missing. -/
def Within (min max : Option Binary64) (x : Binary64) : Prop :=
  (∀ low, min = some low → x.lt low = false) ∧ (∀ high, max = some high → high.lt x = false)

theorem within_none (x : Binary64) : x.Within none none :=
  ⟨(fun _ h => nomatch h), fun _ h => nomatch h⟩

/-- An infinity is within bounds if there is none on its side but itself or a NaN. -/
theorem within_infinity_iff {s : Bool} {min max : Option Binary64} :
    (infinity s).Within min max ↔
      ∀ bound, (if s then min else max) = some bound → bound = .nan ∨ bound = .infinity s := by
  -- on the other side nothing is past an infinity, so only the bound on its own side matters
  cases s with
  | false =>
    constructor
    · intro h bound hbound
      exact lt_positive_infinity_eq_false_iff.mp (h.2 bound hbound)
    · intro h
      refine ⟨fun low _ => positive_infinity_lt low, fun high hhigh => ?_⟩
      exact lt_positive_infinity_eq_false_iff.mpr (h high hhigh)
  | true =>
    constructor
    · intro h bound hbound
      exact negative_infinity_lt_eq_false_iff.mp (h.1 bound hbound)
    · intro h
      refine ⟨fun low hlow => ?_, fun high _ => lt_negative_infinity high⟩
      exact negative_infinity_lt_eq_false_iff.mpr (h low hlow)

/-- The numbers that are not finite are the infinities. -/
theorem isFinite_iff {x : Binary64} :
    x.isFinite = true ↔ x.isNaN = false ∧ ∀ s, x ≠ .infinity s := by
  cases x with
  | nan => simp [isFinite, isNaN]
  | infinity s => simp [isFinite, isNaN]
  | finite s u hu => simp [isFinite, isNaN]

end Binary64

/-! ### What the checks ask for -/

/-- A value that is present is the value of the field. -/
theorem present?_eq_some {field : Option Value} {v : Value} (h : present? field = some v) :
    field = some v := by
  unfold present? at h
  split at h
  · exact nomatch h
  · exact h

/-- An inclusive range check asks for a finite number within its bounds. -/
theorem RangeCheck.passed_inclusive_iff (min max : Option Binary64) (field : Option Value) :
    (outcome ⟨min, max, true⟩ field).passed = true ↔
      ∀ v, present? field = some v →
        (ofValue v).isFinite = true ∧ (ofValue v).Within min max := by
  -- with inclusive bounds a fault is just being past a bound
  have hmin (low x : Binary64) : minimumFault? true low x = none ↔ x.lt low = false := by
    simp [minimumFault?]
  have hmax (high x : Binary64) : maximumFault? true high x = none ↔ high.lt x = false := by
    simp [maximumFault?]
  rw [passed_outcome_iff]
  simp only [hmin, hmax, Binary64.Within]

/-- A demand for a range asks for a number that is no NaN, within its bounds. -/
theorem TargetCondition.passed_range_iff {t : TargetCondition} (hkind : t.kind = some .range)
    (name : String) (field : Option Value) (reason : String) (patterns : PatternCache) :
    (t.outcome name field reason patterns).passed = true ↔
      ∀ v, present? field = some v →
        (ofValue v).isNaN = false ∧ (ofValue v).Within t.min t.max := by
  simp only [outcome, hkind]
  cases hv : present? field with
  | none => simp
  | some v =>
    -- the demand has a fault exactly when the number is a NaN or past a bound
    have hfault := rangeFault?_eq_none_iff t (ofValue v)
    cases hf : t.rangeFault? (ofValue v) with
    | none =>
      rw [hf] at hfault
      simpa [hf, Binary64.Within] using hfault
    | some fault =>
      rw [hf] at hfault
      simpa [hf, Binary64.Within] using hfault

/-- A format check for numbers asks for a finite number. -/
theorem FormatCheck.passed_number_iff (field : Option Value) (patterns : PatternCache) :
    (outcome ⟨none, some .number⟩ field patterns).passed = true ↔
      ∀ v, present? field = some v → (ofValue v).isFinite = true := by
  -- the type `number` accepts what is finite, integers and texts included
  have htype (v : Value) : typeFault? .number v = none ↔ (ofValue v).isFinite = true := by
    unfold typeFault? DataType.accepts
    split <;> simp_all
  rw [passed_outcome_iff]
  simp [htype]

/-! ### Values worth an infinity -/

section

variable {field : Option Value} {s : Bool}

/-- Such a value is present, and is not null. -/
theorem exists_present_of_infinity (h : toNumber field = .infinity s) :
    ∃ v, present? field = some v ∧ ofValue v = .infinity s := by
  cases field with
  | none => exact nomatch h
  | some v =>
    have hv : present? (some v) = some v := by
      cases v with
      | null => exact nomatch h
      | _ => rfl
    exact ⟨v, hv, h⟩

/-- Only reals and texts are worth an infinity. -/
theorem eq_real_or_isText_of_infinity (h : toNumber field = .infinity s) :
    field = some (.real (.infinity s)) ∨ IsText field := by
  have hinfinite : (toNumber field).isFinite = false := by
    rw [h]
    rfl
  -- truth values and integers are finite, and null and absent values are NaN
  cases field with
  | none => exact nomatch h
  | some v =>
    cases v with
    | null => exact nomatch h
    | boolean b =>
      have hfinite : (toNumber (some (.boolean b))).isFinite = true := by
        cases b <;> decide +kernel
      exact absurd (hinfinite.symm.trans hfinite) Bool.false_ne_true
    | integer n =>
      -- 64 bits are not enough to overflow
      have hfinite : (toNumber (some (.integer n))).isFinite = true :=
        (Binary64.moderate_ofInt (.inl (isSigned64_toInt n))).isFinite
      exact absurd (hinfinite.symm.trans hfinite) Bool.false_ne_true
    | real x =>
      obtain rfl : x = .infinity s := h
      exact .inl rfl
    | text t => exact .inr ⟨t, rfl⟩

end

/-! ### The three compared -/

section

variable {o : ConditionOperator} {field : String} {v : Value} {r : Record}

/-- A conditional check whose condition holds is its demand. -/
theorem ConditionalCheck.passed_range_iff (hholds : o.holds (r.get? field) v = true)
    (target : String) (pattern : Option String) (min max : Option Binary64)
    (patterns : PatternCache) :
    (outcome ⟨some field, some v, o, some target, some ⟨some .range, pattern, min, max⟩⟩
      r patterns).passed = true ↔
      ∀ w, present? (r.get? target) = some w →
        (ofValue w).isNaN = false ∧ (ofValue w).Within min max := by
  simp only [outcome, hholds, if_true]
  exact TargetCondition.passed_range_iff rfl ..

/-- Apart from the infinities the numbers of a demand are those of a range check. -/
theorem demand_passes_as_range_of_ne_infinity (hholds : o.holds (r.get? field) v = true)
    {target : String} (hfinite : ∀ s, toNumber (r.get? target) ≠ .infinity s)
    (pattern : Option String) (min max : Option Binary64) (patterns : PatternCache) :
    (ConditionalCheck.outcome ⟨some field, some v, o, some target,
        some ⟨some .range, pattern, min, max⟩⟩ r patterns).passed =
      (RangeCheck.outcome ⟨min, max, true⟩ (r.get? target)).passed := by
  rw [Bool.eq_iff_iff, ConditionalCheck.passed_range_iff hholds, RangeCheck.passed_inclusive_iff]
  refine forall₂_congr fun w hw => ?_
  -- the value is the one that the field holds, so it is no infinity either
  have hworth : ∀ s, ofValue w ≠ .infinity s := by
    rw [present?_eq_some hw] at hfinite
    exact hfinite
  rw [Binary64.isFinite_iff]
  simp only [and_iff_left hworth]

/-- No bounds let an infinity pass a range check. -/
theorem RangeCheck.not_passed_of_infinity {field : Option Value} {s : Bool}
    (h : toNumber field = .infinity s) (min max : Option Binary64) :
    (outcome ⟨min, max, true⟩ field).passed = false := by
  rw [← Bool.not_eq_true, passed_inclusive_iff]
  -- a range check that passes has a finite number in its field
  intro hpassed
  obtain ⟨w, hw, hworth⟩ := exists_present_of_infinity h
  have hfinite := (hpassed w hw).1
  rw [hworth] at hfinite
  exact absurd hfinite Bool.false_ne_true

/-- A demand lets an infinity pass unless there is a bound on its side. -/
theorem ConditionalCheck.passed_range_iff_of_infinity
    (hholds : o.holds (r.get? field) v = true) {target : String} {s : Bool}
    (h : toNumber (r.get? target) = .infinity s) (pattern : Option String)
    (min max : Option Binary64) (patterns : PatternCache) :
    (outcome ⟨some field, some v, o, some target, some ⟨some .range, pattern, min, max⟩⟩
      r patterns).passed = true ↔
      ∀ bound, (if s then min else max) = some bound → bound = .nan ∨ bound = .infinity s := by
  rw [passed_range_iff hholds, ← Binary64.within_infinity_iff]
  obtain ⟨w, hw, hworth⟩ := exists_present_of_infinity h
  -- there is one present value, and it is worth the infinity
  constructor
  · intro hpassed
    rw [← hworth]
    exact (hpassed w hw).2
  · intro hwithin w' hw'
    obtain rfl : w = w' := Option.some.inj (hw.symm.trans hw')
    rw [hworth]
    exact ⟨rfl, hwithin⟩

/-- A demand for a range, of a conditional check whose condition holds, passes where a range check
    with the same bounds does, inclusive ones, unless the target field is worth an infinity, as
    only reals and texts can be.  Then the range check fails, and the demand passes unless there
    is a bound on the side of the infinity.  Without bounds the range check is a format check for
    numbers. -/
theorem demand_passes_as_range (hholds : o.holds (r.get? field) v = true) (target : String)
    (pattern : Option String) (min max : Option Binary64) (patterns : PatternCache) :
    ((∀ s, toNumber (r.get? target) ≠ .infinity s) →
      (ConditionalCheck.outcome ⟨some field, some v, o, some target,
          some ⟨some .range, pattern, min, max⟩⟩ r patterns).passed =
        (RangeCheck.outcome ⟨min, max, true⟩ (r.get? target)).passed) ∧
    (∀ s, toNumber (r.get? target) = .infinity s →
      (r.get? target = some (.real (.infinity s)) ∨ IsText (r.get? target)) ∧
      (RangeCheck.outcome ⟨min, max, true⟩ (r.get? target)).passed = false ∧
      ((ConditionalCheck.outcome ⟨some field, some v, o, some target,
          some ⟨some .range, pattern, min, max⟩⟩ r patterns).passed = true ↔
        ∀ bound, (if s then min else max) = some bound →
          bound = .nan ∨ bound = .infinity s)) ∧
    (RangeCheck.outcome ⟨none, none, true⟩ (r.get? target)).passed =
      (FormatCheck.outcome ⟨none, some .number⟩ (r.get? target) patterns).passed := by
  refine ⟨fun hfinite => ?_, fun s hs => ⟨?_, ?_, ?_⟩, ?_⟩
  · exact demand_passes_as_range_of_ne_infinity hholds hfinite ..
  · exact eq_real_or_isText_of_infinity hs
  · exact RangeCheck.not_passed_of_infinity hs ..
  · exact ConditionalCheck.passed_range_iff_of_infinity hholds hs ..
  -- without bounds both checks ask for a finite number and nothing else
  · rw [Bool.eq_iff_iff, RangeCheck.passed_inclusive_iff, FormatCheck.passed_number_iff]
    simp only [Binary64.within_none, and_true]

end

/-- An order whose discount has to be at least 5 for members. -/
private def order (discount : Value) : Record :=
  .ofList [("member", .boolean true), ("discount", discount)]

/-- A text in range passes both checks; an overflowing literal passes the demand, which has no upper
    bound, and fails the range check. -/
theorem demand_passes_as_range_discount :
    ((ConditionalCheck.outcome ⟨some "member", some (.boolean true), .equals, some "discount",
        some ⟨some .range, none, some 5, none⟩⟩ (order (.text " 7.5 ")) .empty).passed =
      (RangeCheck.outcome ⟨some 5, none, true⟩ (some (.text " 7.5 "))).passed) ∧
    ((RangeCheck.outcome ⟨some 5, none, true⟩ (some (.text "1e999"))).passed = false ∧
      (ConditionalCheck.outcome ⟨some "member", some (.boolean true), .equals, some "discount",
        some ⟨some .range, none, some 5, none⟩⟩ (order (.text "1e999")) .empty).passed = true) := by
  have hmember (discount : Value) : ConditionOperator.equals.holds
      ((order discount).get? "member") (.boolean true) = true := rfl
  have hfinite : ∀ s, toNumber (some (.text " 7.5 ")) ≠ .infinity s := by
    decide +kernel
  have hinfinite : toNumber (some (.text "1e999")) = .infinity false := by
    decide +kernel
  constructor
  · exact (demand_passes_as_range (hmember _) "discount" none (some 5) none .empty).1 hfinite
  · obtain ⟨-, hrange, hdemand⟩ :=
      (demand_passes_as_range (hmember (.text "1e999")) "discount" none (some 5) none .empty).2.1
        false hinfinite
    exact ⟨hrange, hdemand.mpr fun _ h => nomatch h⟩

/-- A demand may pass what no range check and no format check for numbers does. -/
theorem demand_may_pass_beyond_range :
    ¬ ∀ (o : ConditionOperator) (field target : String) (v : Value) (r : Record)
        (pattern : Option String) (min max : Option Binary64) (patterns : PatternCache),
      o.holds (r.get? field) v = true →
        (ConditionalCheck.outcome ⟨some field, some v, o, some target,
          some ⟨some .range, pattern, min, max⟩⟩ r patterns).passed =
        (RangeCheck.outcome ⟨min, max, true⟩ (r.get? target)).passed := by
  intro h
  -- a text that is worth an infinity meets a demand without bounds
  have hsame := h .equals "member" "discount" (.boolean true) (order (.text "Infinity")) none none
    none .empty rfl
  exact absurd hsame (by decide +kernel)

end RecordRules
