import RecordRules.Check.Dispatch

/-!
# Checks fail open

Every part of a configuration may be missing.  A check over several fields, or one that is left to
a function, cannot do without certain parts: once one of them is erased, the check passes for every
field of every record.  The other parts only add demands, one part at a time, so that what passes
still passes after one of them is erased or put back to its default.

For the second half each check is characterised first: it passes exactly when none of its parts
finds a fault.

## Key results

- `RangeCheck.passed_outcome_iff` and its siblings: what it takes to pass
- `CrossFieldCheck.outcome_erase`: without a mandatory part a check over several fields passes
- `Check.passed_erase`: erasing an optional part keeps a pass
- `Check.erase_fails_open`: the two together, for every kind of check
-/

namespace RecordRules

/-- A part of the configuration of a check. -/
inductive Part where
  | conditionField
  | conditionValue
  | targetField
  | targetCondition
  /-- The kind of a target condition. -/
  | targetKind
  | field1
  | field2
  | comparisonOperator
  | expectedSum
  | dependentField
  | requiredValue
  | businessRule
  | condition
  | functionName
  | pattern
  | dataType
  | min
  | max
  | inclusive
  | required
  | notEmpty
  | minLength
  | scope
  deriving DecidableEq, Repr

/-! ### Checks of one value -/

/-- An outcome that fails with whatever fault there is passes exactly when there is none. -/
theorem Outcome.passed_fault (fault? : Option String) :
    (match fault? with
      | some message => Outcome.fail message
      | none => .pass).passed = true ↔ fault? = none := by
  cases fault? <;> simp

namespace FormatCheck

/-- The check without a part. -/
def erase (c : FormatCheck) : Part → FormatCheck
  | .pattern => { c with pattern := none }
  | .dataType => { c with dataType := none }
  | _ => c

/-- A format check passes when neither the type nor the pattern finds a fault in the value. -/
theorem passed_outcome_iff (c : FormatCheck) (field : Option Value) (patterns : PatternCache) :
    (c.outcome field patterns).passed = true ↔
      ∀ v, present? field = some v →
        (∀ t, c.dataType = some t → typeFault? t v = none) ∧
        (∀ pattern, c.pattern = some pattern → patternFault? patterns pattern v = none) := by
  unfold outcome
  cases present? field with
  | none => simp
  | some v =>
    refine (Outcome.passed_fault _).trans ?_
    simp [Option.bind_eq_none_iff]

/-- A format check that passes still passes without its type or its pattern. -/
theorem passed_erase {c : FormatCheck} {field : Option Value} {patterns : PatternCache}
    (h : (c.outcome field patterns).passed = true) (part : Part) :
    ((c.erase part).outcome field patterns).passed = true := by
  rw [passed_outcome_iff] at h ⊢
  intro v hv
  obtain ⟨htype, hpattern⟩ := h v hv
  -- a part of another kind of check is not there, and erasing it changes nothing
  cases part with
  | pattern => exact ⟨htype, nofun⟩
  | dataType => exact ⟨nofun, hpattern⟩
  | _ => exact ⟨htype, hpattern⟩

end FormatCheck

/-- A number that is not up to a bound is not below it either. -/
theorem Binary64.lt_eq_false_of_le {x y : Binary64} (h : x.le y = false) : x.lt y = false := by
  rw [le, Bool.or_eq_false_iff] at h
  exact h.1

namespace RangeCheck

/-- The check without a part; bounds are inclusive unless they are said not to be. -/
def erase (c : RangeCheck) : Part → RangeCheck
  | .min => { c with min := none }
  | .max => { c with max := none }
  | .inclusive => { c with inclusive := true }
  | _ => c

/-- A range passes when the value is a finite number and neither bound finds a fault in it. -/
theorem passed_outcome_iff (c : RangeCheck) (field : Option Value) :
    (c.outcome field).passed = true ↔
      ∀ v, present? field = some v → (Coercion.ofValue v).isFinite = true ∧
        (∀ min, c.min = some min → minimumFault? c.inclusive min (Coercion.ofValue v) = none) ∧
        (∀ max, c.max = some max → maximumFault? c.inclusive max (Coercion.ofValue v) = none) := by
  unfold outcome
  cases present? field with
  | none => simp
  | some v =>
    -- what is no finite number fails before any bound is looked at
    by_cases hfinite : (Coercion.ofValue v).isFinite = true
    · simp only [hfinite, if_true]
      refine (Outcome.passed_fault _).trans ?_
      simp [fault?, hfinite, Option.bind_eq_none_iff]
    · simp [hfinite]

/-- A number past an exclusive minimum is past the inclusive one. -/
theorem minimumFault?_inclusive {inclusive : Bool} {min number : Binary64}
    (h : minimumFault? inclusive min number = none) : minimumFault? true min number = none := by
  -- the inclusive bound refuses less, as what is below it is also up to it
  cases inclusive with
  | true => exact h
  | false =>
    have hle : number.le min = false := by simpa [minimumFault?] using h
    simp [minimumFault?, Binary64.lt_eq_false_of_le hle]

/-- A number below an exclusive maximum is below the inclusive one. -/
theorem maximumFault?_inclusive {inclusive : Bool} {max number : Binary64}
    (h : maximumFault? inclusive max number = none) : maximumFault? true max number = none := by
  cases inclusive with
  | true => exact h
  | false =>
    have hle : max.le number = false := by simpa [maximumFault?] using h
    simp [maximumFault?, Binary64.lt_eq_false_of_le hle]

/-- A range that passes still passes without a bound, or with inclusive bounds. -/
theorem passed_erase {c : RangeCheck} {field : Option Value}
    (h : (c.outcome field).passed = true) (part : Part) :
    ((c.erase part).outcome field).passed = true := by
  rw [passed_outcome_iff] at h ⊢
  intro v hv
  obtain ⟨hfinite, hmin, hmax⟩ := h v hv
  cases part with
  | min => exact ⟨hfinite, (fun _ h => nomatch h), hmax⟩
  | max => exact ⟨hfinite, hmin, fun _ h => nomatch h⟩
  -- the default of inclusive bounds is the weaker demand
  | inclusive =>
    exact ⟨hfinite, fun min h => minimumFault?_inclusive (hmin min h),
      fun max h => maximumFault?_inclusive (hmax max h)⟩
  | _ => exact ⟨hfinite, hmin, hmax⟩

end RangeCheck

namespace CompletenessCheck

/-- The check without a part. -/
def erase (c : CompletenessCheck) : Part → CompletenessCheck
  | .required => { c with required := false }
  | .notEmpty => { c with notEmpty := false }
  | .minLength => { c with minLength := none }
  | _ => c

/-- A field is complete when none of the three questions finds a fault in it. -/
theorem passed_outcome_iff (c : CompletenessCheck) (field : Option Value) :
    (c.outcome field).passed = true ↔
      missingFault? c.required field = none ∧ emptyFault? c.notEmpty field = none ∧
        lengthFault? c.minLength field = none := by
  refine (Outcome.passed_fault _).trans ?_
  simp

/-- A field that is complete still is when less is asked. -/
theorem passed_erase {c : CompletenessCheck} {field : Option Value}
    (h : (c.outcome field).passed = true) (part : Part) :
    ((c.erase part).outcome field).passed = true := by
  rw [passed_outcome_iff] at h ⊢
  obtain ⟨hmissing, hempty, hlength⟩ := h
  cases part with
  | required => exact ⟨rfl, hempty, hlength⟩
  | notEmpty => exact ⟨hmissing, rfl, hlength⟩
  | minLength => exact ⟨hmissing, hempty, rfl⟩
  | _ => exact ⟨hmissing, hempty, hlength⟩

end CompletenessCheck

namespace UniquenessCheck

/-- The check without a part. -/
def erase (c : UniquenessCheck) : Part → UniquenessCheck
  | .scope => { c with scope := none }
  | _ => c

end UniquenessCheck

/-! ### Checks over several fields -/

namespace TargetCondition

variable {name reason : String} {patterns : PatternCache}

/-- The demand without a part. -/
def erase (t : TargetCondition) : Part → TargetCondition
  | .targetKind => { t with kind := none }
  | .pattern => { t with pattern := none }
  | .min => { t with min := none }
  | .max => { t with max := none }
  | _ => t

/-- Nothing is demanded without a kind. -/
theorem outcome_erase_kind (t : TargetCondition) (field : Option Value) :
    (t.erase .targetKind).outcome name field reason patterns = .pass :=
  rfl

/-- A number meets a demand for a range when it is no NaN and passes neither bound. -/
theorem rangeFault?_eq_none_iff (t : TargetCondition) (number : Binary64) :
    t.rangeFault? number = none ↔ number.isNaN = false ∧
      (∀ min, t.min = some min → number.lt min = false) ∧
      (∀ max, t.max = some max → max.lt number = false) := by
  unfold rangeFault?
  -- the test stops at the first bound that is passed, so the cases follow its order
  by_cases hnan : number.isNaN = true
  · simp [hnan]
  · cases hmin : t.min with
    | none => cases hmax : t.max <;> simp [hnan]
    | some min =>
      by_cases hlow : number.lt min = true
      · simp [hnan, hlow]
      · cases hmax : t.max <;> simp [hnan, hlow]

/-- Without a bound there is less to say about a number. -/
theorem rangeFault?_erase {t : TargetCondition} {number : Binary64}
    (h : t.rangeFault? number = none) {part : Part} (hpart : part ≠ .targetKind) :
    (t.erase part).rangeFault? number = none := by
  rw [rangeFault?_eq_none_iff] at h ⊢
  obtain ⟨hnan, hmin, hmax⟩ := h
  cases part with
  | min => exact ⟨hnan, (fun _ h => nomatch h), hmax⟩
  | max => exact ⟨hnan, hmin, fun _ h => nomatch h⟩
  | targetKind => exact absurd rfl hpart
  | _ => exact ⟨hnan, hmin, hmax⟩

/-- A demand that is met is still met without one of its parts. -/
theorem passed_erase {t : TargetCondition} {field : Option Value}
    (h : (t.outcome name field reason patterns).passed = true) (part : Part) :
    ((t.erase part).outcome name field reason patterns).passed = true := by
  -- without its kind a demand asks for nothing; otherwise the kind stays as it is
  by_cases hpart : part = .targetKind
  · subst hpart
    rw [outcome_erase_kind]
    rfl
  · have hkind : (t.erase part).kind = t.kind := by
      cases part with
      | targetKind => exact absurd rfl hpart
      | _ => rfl
    unfold outcome at h ⊢
    rw [hkind]
    -- which of its parts a demand looks at depends on its kind
    match hk : t.kind with
    | none | some .unsupported => rfl
    | some .required => simpa only [hk] using h
    | some .format =>
      simp only [hk] at h ⊢
      cases part with
      | pattern => rfl
      | _ => exact h
    | some .range =>
      simp only [hk] at h ⊢
      cases hv : present? field with
      | none => rfl
      | some v =>
        simp only [hv] at h ⊢
        -- there was no fault in the number, and none has come up
        have hfault : t.rangeFault? (Coercion.ofValue v) = none := by
          cases hfault : t.rangeFault? (Coercion.ofValue v) with
          | none => rfl
          | some fault => simp [hfault] at h
        simp [rangeFault?_erase hfault hpart]

end TargetCondition

namespace ConditionalCheck

/-- The parts without which nothing is asked. -/
def mandatory : List Part :=
  [.conditionField, .conditionValue, .targetField, .targetCondition, .targetKind]

/-- The parts that a demand may have besides its kind. -/
def optional : List Part :=
  [.pattern, .min, .max]

/-- The check without a part; the parts of the demand count as its own. -/
def erase (c : ConditionalCheck) : Part → ConditionalCheck
  | .conditionField => { c with conditionField := none }
  | .conditionValue => { c with conditionValue := none }
  | .targetField => { c with targetField := none }
  | .targetCondition => { c with targetCondition := none }
  | part => { c with targetCondition := c.targetCondition.map (·.erase part) }

/-- Without a mandatory part a conditional check passes. -/
theorem outcome_erase {part : Part} (h : part ∈ mandatory) (c : ConditionalCheck) (r : Record)
    (patterns : PatternCache) : (c.erase part).outcome r patterns = .pass := by
  obtain ⟨conditionField, conditionValue, o, targetField, demand⟩ := c
  simp only [mandatory, List.mem_cons, List.not_mem_nil, or_false] at h
  -- with one of the first four parts missing the check does not begin
  obtain rfl | rfl | rfl | rfl | rfl := h
  · simp only [erase, outcome]
  · simp only [erase, outcome]
  · simp only [erase, outcome]
  · simp only [erase, outcome]
  · -- the demand is still there, but asks for nothing
    match conditionField, conditionValue, targetField, demand with
    | some field, some v, some target, some demand =>
      simp only [erase, outcome, Option.map_some, TargetCondition.outcome_erase_kind]
      exact ite_self _
    | none, _, _, _ | _, none, _, _ | _, _, none, _ | _, _, _, none =>
      simp only [erase, outcome, Option.map_none]

/-- A conditional check that passes still passes without a part of its demand. -/
theorem passed_erase {part : Part} (hpart : part ∈ optional) {c : ConditionalCheck} {r : Record}
    {patterns : PatternCache} (h : (c.outcome r patterns).passed = true) :
    ((c.erase part).outcome r patterns).passed = true := by
  -- the optional parts all belong to the demand
  have herase : c.erase part =
      { c with targetCondition := c.targetCondition.map (·.erase part) } := by
    simp only [optional, List.mem_cons, List.not_mem_nil, or_false] at hpart
    obtain rfl | rfl | rfl := hpart <;> rfl
  rw [herase]
  obtain ⟨conditionField, conditionValue, o, targetField, demand⟩ := c
  -- only a check with all its parts asks anything, and then only if its condition holds
  match conditionField, conditionValue, targetField, demand with
  | some field, some v, some target, some demand =>
    simp only [outcome, Option.map_some] at h ⊢
    split
    · next hholds =>
      rw [if_pos hholds] at h
      exact TargetCondition.passed_erase h part
    · rfl
  | none, _, _, _ | _, none, _, _ | _, _, none, _ | _, _, _, none =>
    simp only [outcome, Option.map_none, Outcome.passed_pass]

end ConditionalCheck

namespace ComparisonCheck

/-- Whether two fields are added up before anything is compared. -/
def addsUp (c : ComparisonCheck) : Bool :=
  (c.comparisonOperator.bind sum?).isSome

/-- The parts without which nothing is compared; a sum needs something to be compared with. -/
def mandatory (c : ComparisonCheck) : List Part :=
  [.field1, .field2, .comparisonOperator] ++ if c.addsUp then [.expectedSum] else []

/-- The check without a part. -/
def erase (c : ComparisonCheck) : Part → ComparisonCheck
  | .field1 => { c with field1 := none }
  | .field2 => { c with field2 := none }
  | .comparisonOperator => { c with comparisonOperator := none }
  | .expectedSum => { c with expectedSum := none }
  | _ => c

/-- Without a mandatory part a comparison passes. -/
theorem outcome_erase {c : ComparisonCheck} {part : Part} (h : part ∈ c.mandatory) (r : Record) :
    (c.erase part).outcome r = .pass := by
  obtain ⟨field1, field2, o, expectedSum⟩ := c
  rw [mandatory, List.mem_append] at h
  obtain h | h := h
  · simp only [List.mem_cons, List.not_mem_nil, or_false] at h
    obtain rfl | rfl | rfl := h <;> simp only [erase, outcome]
  -- the expected sum is mandatory only for the operators that add up
  · by_cases hsum : addsUp ⟨field1, field2, o, expectedSum⟩ = true
    · rw [if_pos hsum, List.mem_singleton] at h
      subst h
      match field1, field2, o with
      | some field1, some field2, some o =>
        -- without an expected sum the other comparisons are not gone through
        obtain ⟨⟨test, phrase⟩, hsum⟩ := Option.isSome_iff_exists.mp hsum
        simp only [Option.bind_some] at hsum
        simp only [erase, outcome, hsum]
      | none, _, _ | _, none, _ | _, _, none => simp only [erase, outcome]
    · rw [if_neg hsum] at h
      exact nomatch h

end ComparisonCheck

namespace DependencyCheck

/-- The parts without which nothing is required. -/
def mandatory : List Part :=
  [.dependentField, .requiredValue, .targetField]

/-- The check without a part. -/
def erase (c : DependencyCheck) : Part → DependencyCheck
  | .dependentField => { c with dependentField := none }
  | .requiredValue => { c with requiredValue := none }
  | .targetField => { c with targetField := none }
  | _ => c

/-- Without a mandatory part a dependency passes. -/
theorem outcome_erase {part : Part} (h : part ∈ mandatory) (c : DependencyCheck) (r : Record) :
    (c.erase part).outcome r = .pass := by
  obtain ⟨dependentField, requiredValue, targetField⟩ := c
  simp only [mandatory, List.mem_cons, List.not_mem_nil, or_false] at h
  obtain rfl | rfl | rfl := h <;> simp only [erase, outcome]

end DependencyCheck

namespace TextCondition

/-- The parts without which there is no condition. -/
def mandatory : List Part :=
  [.dependentField, .condition]

/-- The check without a part. -/
def erase (c : TextCondition) : Part → TextCondition
  | .dependentField => { c with dependentField := none }
  | .condition => { c with condition := none }
  | _ => c

/-- Without a mandatory part a condition written as text passes. -/
theorem outcome_erase {part : Part} (h : part ∈ mandatory) (c : TextCondition) (r : Record) :
    (c.erase part).outcome r = .pass := by
  obtain ⟨dependentField, condition⟩ := c
  simp only [mandatory, List.mem_cons, List.not_mem_nil, or_false] at h
  obtain rfl | rfl := h <;> simp only [erase, outcome]

end TextCondition

namespace CrossFieldCheck

/-- The parts that a check over several fields cannot do without. -/
def mandatory : CrossFieldCheck → List Part
  | conditional _ => ConditionalCheck.mandatory
  | comparison c => c.mandatory
  | dependency _ => DependencyCheck.mandatory
  | business _ => [.businessRule]
  | textual _ => TextCondition.mandatory

/-- The check without a part. -/
def erase (c : CrossFieldCheck) (part : Part) : CrossFieldCheck :=
  match c with
  | conditional c => conditional (c.erase part)
  | comparison c => comparison (c.erase part)
  | dependency c => dependency (c.erase part)
  | business rule => business (if part = .businessRule then none else rule)
  | textual c => textual (c.erase part)

/-- Without a mandatory part a check over several fields passes. -/
theorem outcome_erase {c : CrossFieldCheck} {part : Part} (h : part ∈ c.mandatory) (r : Record)
    (patterns : PatternCache) : (c.erase part).outcome r patterns = .pass := by
  cases c with
  | conditional c => exact ConditionalCheck.outcome_erase h c r patterns
  | comparison c => exact ComparisonCheck.outcome_erase h r
  | dependency c => exact DependencyCheck.outcome_erase h c r
  | business rule =>
    obtain rfl := List.mem_singleton.mp h
    rfl
  | textual c => exact TextCondition.outcome_erase h c r

end CrossFieldCheck

/-! ### Checks of every kind -/

namespace Check

/-- The parts that a check cannot do without. -/
def mandatory : Check → List Part
  | crossField c => c.mandatory
  | custom _ => [.functionName]
  | _ => []

/-- The parts that a check has besides, each of which may be there or not. -/
def optional : Check → List Part
  | format _ => [.pattern, .dataType]
  | range _ => [.min, .max, .inclusive]
  | completeness _ => [.required, .notEmpty, .minLength]
  | uniqueness _ => [.scope]
  | crossField (.conditional _) => ConditionalCheck.optional
  | _ => []

/-- The check with a part left out, or put back to its default where it has one. -/
def erase (c : Check) (part : Part) : Check :=
  match c with
  | format c => format (c.erase part)
  | range c => range (c.erase part)
  | completeness c => completeness (c.erase part)
  | uniqueness c => uniqueness (c.erase part)
  | crossField c => crossField (c.erase part)
  | custom c => custom (if part = .functionName then { c with functionName := none } else c)
  | unknown ruleType configuration => unknown ruleType configuration

variable {name : String} {r : Record} {patterns : PatternCache} {functions : Registry}

/-- Without a mandatory part a check passes. -/
theorem outcome?_erase {c : Check} {part : Part} (h : part ∈ c.mandatory) :
    (c.erase part).outcome? name r patterns functions = some .pass := by
  -- checks of one field have no mandatory parts
  cases c with
  | crossField c => exact congrArg some (CrossFieldCheck.outcome_erase h r patterns)
  | custom c =>
    obtain rfl := List.mem_singleton.mp h
    rfl
  | format c | range c | completeness c | uniqueness c => exact nomatch h
  | unknown ruleType configuration => exact nomatch h

/-- Without an optional part a check that passes still passes. -/
theorem passed_erase {c : Check} {part : Part} (hpart : part ∈ c.optional)
    (h : (c.outcome? name r patterns functions).any Outcome.passed = true) :
    ((c.erase part).outcome? name r patterns functions).any Outcome.passed = true := by
  cases c with
  | format c => exact FormatCheck.passed_erase h part
  | range c => exact RangeCheck.passed_erase h part
  | completeness c => exact CompletenessCheck.passed_erase h part
  | uniqueness c => exact h -- the scope is never looked at
  | crossField c =>
    cases c with
    | conditional c => exact ConditionalCheck.passed_erase hpart h
    | comparison c | dependency c | business rule | textual c => exact nomatch hpart
  | custom c => exact nomatch hpart
  | unknown ruleType configuration => exact nomatch hpart

/-- Checks fail open: for every field of every record, a check passes once a part that it cannot
    do without is erased, and a pass stays a pass when any of its other parts is. -/
theorem erase_fails_open (c : Check) (name : String) (r : Record) (patterns : PatternCache)
    (functions : Registry) :
    (∀ part ∈ c.mandatory, (c.erase part).outcome? name r patterns functions = some .pass) ∧
    (∀ part ∈ c.optional, (c.outcome? name r patterns functions).any Outcome.passed = true →
      ((c.erase part).outcome? name r patterns functions).any Outcome.passed = true) :=
  ⟨fun _ h => outcome?_erase h, fun _ hpart h => passed_erase hpart h⟩

/-- Members get a discount between 5 and 50. -/
private def discountCheck : Check :=
  .crossField (.conditional
    { conditionField := "member"
      conditionValue := some (.boolean true)
      targetField := "discount"
      targetCondition := some { kind := some .range, min := some 5, max := some 50 } })

/-- The record of a member with a discount. -/
private def memberRecord (discount : Int64) : Record :=
  .ofList [("member", .boolean true), ("discount", .integer discount)]

/-- A discount that is too high passes without the field of the condition, and one that is high
    enough passes without the upper bound. -/
theorem erase_fails_open_discountCheck :
    Part.conditionField ∈ discountCheck.mandatory ∧ Part.max ∈ discountCheck.optional ∧
    discountCheck.outcome? "discount" (memberRecord 60) .empty .empty =
      some (.fail "Field 'discount' must be at most 50 when 'member' equals 'true'") ∧
    (discountCheck.erase .conditionField).outcome? "discount" (memberRecord 60) .empty .empty =
      some .pass ∧
    (discountCheck.outcome? "discount" (memberRecord 20) .empty .empty).any Outcome.passed = true ∧
    ((discountCheck.erase .max).outcome? "discount" (memberRecord 20) .empty .empty).any
      Outcome.passed = true := by
  have hmandatory : Part.conditionField ∈ discountCheck.mandatory := by decide
  have hoptional : Part.max ∈ discountCheck.optional := by decide
  have hpass : (discountCheck.outcome? "discount" (memberRecord 20) .empty .empty).any
      Outcome.passed = true := by
    decide +kernel
  refine ⟨hmandatory, hoptional, by decide +kernel, ?_, hpass, ?_⟩
  · exact (erase_fails_open discountCheck "discount" (memberRecord 60) .empty .empty).1 _ hmandatory
  · exact (erase_fails_open discountCheck "discount" (memberRecord 20) .empty .empty).2 _ hoptional
      hpass

end Check
end RecordRules
