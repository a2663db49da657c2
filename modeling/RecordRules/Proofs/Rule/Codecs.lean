import RecordRules.Proofs.Wire.Structure

/-!
# Configurations are read back as they were written

For every kind of configuration, the slots that it is read through fit the members that it is
written as.  Reals have to be finite, since infinities and NaN are written as null; and a scalar
may not be an explicit null, which is read as no value.  Whatever is read meets this.

## Key results

- `FormatCheck.codec` and its siblings: every configuration of one field is a `Decode.Codec`
- `ConditionalCheck.codec` and its siblings: so is every configuration of several fields
-/

namespace RecordRules

open Decode

/-! ## Configurations of one field -/

namespace FormatCheck

/-- The keys of a configuration. -/
def names : List String := ["pattern", "dataType"]

theorem codec : Codec (fun _ => True) {} slots names members where
  initial := trivial
  keeps := .of_forall fun _ => trivial
  independent := by simp [slots, Slot.optional]
  nodup := by decide
  complete _ := by rfl
  reads c _ := by
    rw [← List.append_nil (members c), members, List.append_assoc]
    refine .optionalMember rfl (optionalOf_text _) rfl ?_
    refine .optionalMember rfl (optionalOf_named DataType.ofName_name _ _) rfl ?_
    exact .nil _ _

end FormatCheck

namespace RangeCheck

/-- The bounds are finite. -/
def IsFinite (c : RangeCheck) : Prop :=
  (∀ x ∈ c.min, x.isFinite) ∧ ∀ x ∈ c.max, x.isFinite

/-- The keys of a configuration. -/
def names : List String := ["min", "max", "inclusive"]

/-- A range is read back if its bounds are finite. -/
theorem codec : Codec IsFinite {} slots names members where
  initial := ⟨by rintro _ ⟨⟩, by rintro _ ⟨⟩⟩
  keeps := by
    -- a bound is finite because its number fits
    refine .cons_of_read (fun j x c hj hx hc => ⟨isFinite_of_real hj hx, hc.2⟩) ?_
    refine .cons_of_read (fun j x c hj hx hc => ⟨hc.1, isFinite_of_real hj hx⟩) ?_
    -- whether the bounds belong to the range has no part in it
    refine .cons_of_set (fun _ _ hc => hc) ?_
    exact .nil
  independent := by simp [slots, Slot.optional]
  nodup := by decide
  complete _ := by rfl
  reads c hc := by
    rw [members, List.append_assoc]
    refine .optionalMember rfl (optionalOf_real hc.1) rfl ?_
    refine .optionalMember rfl (optionalOf_real hc.2) rfl ?_
    refine .member rfl rfl ?_
    exact .nil _ _

end RangeCheck

namespace CompletenessCheck

/-- The keys of a configuration. -/
def names : List String := ["required", "notEmpty", "minLength"]

theorem codec : Codec (fun _ => True) {} slots names members where
  initial := trivial
  keeps := .of_forall fun _ => trivial
  independent := by simp [slots, Slot.optional]
  nodup := by decide
  complete _ := by rfl
  reads c _ := by
    rw [← List.append_nil (members c), members, List.append_assoc]
    refine .member rfl rfl ?_
    refine .member rfl rfl ?_
    refine .optionalMember rfl (optionalOf_size _) rfl ?_
    exact .nil _ _

end CompletenessCheck

namespace UniquenessCheck

/-- The keys of a configuration. -/
def names : List String := ["scope"]

theorem codec : Codec (fun _ => True) {} slots names members where
  initial := trivial
  keeps := .of_forall fun _ => trivial
  independent := List.pairwise_singleton _ _
  nodup := by decide
  complete _ := by rfl
  reads c _ := by
    -- each of the scopes is read by its name
    have hscope : optionalOf (named false scopeNamed)
        (c.scope.map (.text ∘ UniquenessScope.name)) = .ok c.scope := by
      rcases c.scope with _ | _ | _ <;> rfl
    rw [← List.append_nil (members c), members]
    refine .optionalMember rfl hscope rfl ?_
    exact .nil _ _

end UniquenessCheck

namespace CustomCheck

/-- The keys of a configuration. -/
def names : List String := ["functionName", "parameters"]

/-- A custom configuration is read back from its members. -/
theorem codec : Codec (fun _ => True) {} slots names members where
  initial := trivial
  keeps := .of_forall fun _ => trivial
  independent := by simp [slots, Slot.optional]
  nodup := by decide
  complete _ := by rfl
  reads c _ := by
    rw [members]
    refine .optionalMember rfl (optionalOf_text _) rfl ?_
    -- null parameters are left out, and are what is there before any are read
    obtain ⟨functionName, parameters⟩ := c
    split
    · next hnull =>
      obtain rfl : parameters = .null := hnull
      exact (Reads.nil _ _).skip _
    · exact .member rfl rfl (.nil _ _)

end CustomCheck

/-! ## Configurations of several fields -/

namespace TargetCondition

/-- The bounds are finite. -/
def IsFinite (c : TargetCondition) : Prop :=
  (∀ x ∈ c.min, x.isFinite) ∧ ∀ x ∈ c.max, x.isFinite

/-- The keys of a demand. -/
def names : List String := ["type", "pattern", "min", "max"]

/-- A demand is read back if its bounds are finite. -/
theorem codec : Codec IsFinite {} slots names members where
  initial := ⟨by rintro _ ⟨⟩, by rintro _ ⟨⟩⟩
  keeps := by
    refine .cons_of_set (fun _ _ hc => hc) ?_
    refine .cons_of_set (fun _ _ hc => hc) ?_
    -- the kind and the pattern leave the bounds alone
    refine .cons_of_read (fun j x c hj hx hc => ⟨isFinite_of_real hj hx, hc.2⟩) ?_
    refine .cons_of_read (fun j x c hj hx hc => ⟨hc.1, isFinite_of_real hj hx⟩) ?_
    exact .nil
  independent := by simp [slots, Slot.optional]
  nodup := by decide
  complete _ := by rfl
  reads c hc := by
    rw [← List.append_nil (members c)]
    simp only [members, List.append_assoc]
    refine .optionalMember rfl (optionalOf_named TargetKind.ofName_name _ _) rfl ?_
    refine .optionalMember rfl (optionalOf_text _) rfl ?_
    refine .optionalMember rfl (optionalOf_real hc.1) rfl ?_
    refine .optionalMember rfl (optionalOf_real hc.2) rfl ?_
    exact .nil _ _

/-- An optional demand is read back. -/
theorem optionalOf_members {t : Option TargetCondition} (ht : ∀ d ∈ t, d.IsFinite) :
    optionalOf read (t.map fun d => .ofMembers d.members) = .ok t := by
  -- a demand that is there is read by its own codec
  cases t with
  | none => rfl
  | some d => exact congrArg (Except.map some) (codec.read_ofMembers (ht d rfl))

/-- An optional demand that is read is finite. -/
theorem isFinite_of_optional {j : Json} (hj : j.InRange) {t : Option TargetCondition}
    (h : Decode.optional read j = .ok t) : ∀ d ∈ t, d.IsFinite := by
  -- null is read as no demand, and anything else as a demand
  rcases optional_eq_ok h with rfl | ⟨d, hd, rfl⟩
  · rintro _ ⟨⟩
  · rintro _ ⟨⟩
    exact codec.of_read hj hd

end TargetCondition

namespace ConditionalCheck

/-- Numbers are finite, and a condition value is no null. -/
structure IsLegible (c : ConditionalCheck) : Prop where
  value : ∀ v ∈ c.conditionValue, v.IsFinite
  present : present? c.conditionValue = c.conditionValue
  demand : ∀ d ∈ c.targetCondition, d.IsFinite

/-- The keys of a configuration. -/
def names : List String :=
  ["conditionField", "conditionValue", "conditionOperator", "targetField", "targetCondition"]

/-- The configuration with a condition value that is null left out. -/
def withoutNull (c : ConditionalCheck) : ConditionalCheck :=
  { c with conditionValue := present? c.conditionValue }

/-- A null is written, but read as no value. -/
theorem reads_members {c : ConditionalCheck} (hvalue : ∀ v ∈ c.conditionValue, v.IsFinite)
    (hdemand : ∀ d ∈ c.targetCondition, d.IsFinite) :
    Reads slots names (members c) {} c.withoutNull := by
  rw [← List.append_nil (members c)]
  -- one member after the other, in the order of the slots
  simp only [members, List.append_assoc, List.cons_append, List.nil_append]
  refine .optionalMember rfl (optionalOf_text _) rfl ?_
  refine .optionalMember rfl (optionalOf_scalar hvalue) rfl ?_
  refine .member rfl (congrArg Except.ok (ConditionOperator.ofName_name _)) ?_
  refine .optionalMember rfl (optionalOf_text _) rfl ?_
  refine .optionalMember rfl (TargetCondition.optionalOf_members hdemand) rfl ?_
  exact .nil _ _

/-- A conditional configuration is read back if it is legible. -/
theorem codec : Codec IsLegible {} slots names members where
  initial := ⟨by rintro _ ⟨⟩, rfl, by rintro _ ⟨⟩⟩
  keeps := by
    refine .cons_of_set (fun _ _ hc => ⟨hc.value, hc.present, hc.demand⟩) ?_
    -- the reader leaves a null out, so what it puts in is present
    refine .cons_of_read (fun j v c hj hv hc =>
      ⟨(isFinite_of_scalar hj hv).1, (isFinite_of_scalar hj hv).2, hc.demand⟩) ?_
    refine .cons_of_set (fun _ _ hc => ⟨hc.value, hc.present, hc.demand⟩) ?_
    refine .cons_of_set (fun _ _ hc => ⟨hc.value, hc.present, hc.demand⟩) ?_
    refine .cons_of_read (fun j t c hj ht hc =>
      ⟨hc.value, hc.present, TargetCondition.isFinite_of_optional hj ht⟩) ?_
    exact .nil
  independent := by simp [slots, Slot.optional]
  nodup := by decide
  complete _ := by rfl
  reads c hc := by
    -- without a null there is nothing to leave out
    have hreads := reads_members hc.value hc.demand
    rwa [withoutNull, hc.present] at hreads

end ConditionalCheck

namespace ComparisonCheck

/-- The expected sum is finite. -/
def IsFinite (c : ComparisonCheck) : Prop :=
  ∀ x ∈ c.expectedSum, x.isFinite

/-- The keys of a configuration. -/
def names : List String := ["field1", "field2", "comparisonOperator", "expectedSum"]

/-- A comparison is read back if the expected sum is finite. -/
theorem codec : Codec IsFinite {} slots names members where
  initial := by rintro _ ⟨⟩
  keeps := by
    refine .cons_of_set (fun _ _ hc => hc) ?_
    refine .cons_of_set (fun _ _ hc => hc) ?_
    refine .cons_of_set (fun _ _ hc => hc) ?_
    refine .cons_of_read (fun j x c hj hx _ => isFinite_of_real hj hx) ?_
    exact .nil
  independent := by simp [slots, Slot.optional]
  nodup := by decide
  complete _ := by rfl
  reads c hc := by
    rw [← List.append_nil (members c)]
    simp only [members, List.append_assoc]
    refine .optionalMember rfl (optionalOf_text _) rfl ?_
    refine .optionalMember rfl (optionalOf_text _) rfl ?_
    refine .optionalMember rfl (optionalOf_named ComparisonOperator.ofName_name _ _) rfl ?_
    refine .optionalMember rfl (optionalOf_real hc) rfl ?_
    exact .nil _ _

end ComparisonCheck

namespace DependencyCheck

/-- A required value is finite if it is a number, and it is no null. -/
structure IsLegible (c : DependencyCheck) : Prop where
  value : ∀ v ∈ c.requiredValue, v.IsFinite
  present : present? c.requiredValue = c.requiredValue

/-- The keys of a configuration. -/
def names : List String := ["dependentField", "requiredValue", "targetField"]

/-- The configuration with a required value that is null left out. -/
def withoutNull (c : DependencyCheck) : DependencyCheck :=
  { c with requiredValue := present? c.requiredValue }

/-- A null is written, but read as no value. -/
theorem reads_members {c : DependencyCheck} (hvalue : ∀ v ∈ c.requiredValue, v.IsFinite) :
    Reads slots names (members c) {} c.withoutNull := by
  rw [← List.append_nil (members c)]
  -- one member after the other, in the order of the slots
  simp only [members, List.append_assoc]
  refine .optionalMember rfl (optionalOf_text _) rfl ?_
  refine .optionalMember rfl (optionalOf_scalar hvalue) rfl ?_
  refine .optionalMember rfl (optionalOf_text _) rfl ?_
  exact .nil _ _

/-- A dependency is read back if it is legible. -/
theorem codec : Codec IsLegible {} slots names members where
  initial := ⟨by rintro _ ⟨⟩, rfl⟩
  keeps := by
    refine .cons_of_set (fun _ _ hc => ⟨hc.value, hc.present⟩) ?_
    refine .cons_of_read (fun j v c hj hv _ =>
      ⟨(isFinite_of_scalar hj hv).1, (isFinite_of_scalar hj hv).2⟩) ?_
    refine .cons_of_set (fun _ _ hc => ⟨hc.value, hc.present⟩) ?_
    exact .nil
  independent := by simp [slots, Slot.optional]
  nodup := by decide
  complete _ := by rfl
  reads c hc := by
    -- the required value is present, so leaving out nulls leaves it alone
    have hreads := reads_members hc.value
    rwa [withoutNull, hc.present] at hreads

end DependencyCheck

namespace BusinessRule

/-- The keys of a configuration. -/
def names : List String := ["businessRule"]

theorem codec : Codec (fun _ => True) none slots names members where
  initial := trivial
  keeps := .of_forall fun _ => trivial
  independent := List.pairwise_singleton _ _
  nodup := by decide
  complete _ := by rfl
  reads b _ := by
    rw [← List.append_nil (members b), members]
    refine .optionalMember rfl (optionalOf_named BusinessRule.ofName_name _ _) rfl ?_
    exact .nil _ _

end BusinessRule

namespace TextCondition

/-- The keys of a configuration. -/
def names : List String := ["dependentField", "condition"]

theorem codec : Codec (fun _ => True) {} slots names members where
  initial := trivial
  keeps := .of_forall fun _ => trivial
  independent := by simp [slots, Slot.optional]
  nodup := by decide
  complete _ := by rfl
  reads c _ := by
    rw [← List.append_nil (members c), members, List.append_assoc]
    refine .optionalMember rfl (optionalOf_text _) rfl ?_
    refine .optionalMember rfl (optionalOf_text _) rfl ?_
    exact .nil _ _

end TextCondition
end RecordRules
