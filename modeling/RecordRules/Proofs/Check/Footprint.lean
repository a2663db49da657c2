import RecordRules.Check.Dispatch

/-!
# Checks read the fields they name

Every check but a custom one and one for uniqueness looks fields up by name, and the names are
known from its configuration: they are its *footprint*.  On records that agree on the footprint
of a check it has the same outcome, the message included, whatever else the records hold and in
whatever order.  The footprint of a check over several fields does not have the field in it that
the check is applied to.

## Key results

- `CrossFieldCheck.outcome_congr`: a check over several fields depends on its footprint only
- `Check.outcome?_congr`: so does every check that looks fields up by name
- `Rule.outcome?_eq_of_agreeOn`: rules read only the fields that they name
-/

namespace RecordRules

/-- Two records have the same values under the given names, or none. -/
def Record.AgreeOn (names : List String) (r r' : Record) : Prop :=
  ∀ name ∈ names, r.get? name = r'.get? name

instance (names : List String) (r r' : Record) : Decidable (Record.AgreeOn names r r') :=
  inferInstanceAs (Decidable (∀ name ∈ names, r.get? name = r'.get? name))

variable {r r' : Record}

/-- Records agree on two lists of names if they agree on either. -/
theorem Record.agreeOn_append {names names' : List String} :
    AgreeOn (names ++ names') r r' ↔ AgreeOn names r r' ∧ AgreeOn names' r r' :=
  List.forall_mem_append

/-- Records that agree on an optional name have the same value under it. -/
@[simp] theorem Record.agreeOn_toList_some {name : String} :
    AgreeOn (some name).toList r r' ↔ r.get? name = r'.get? name :=
  List.forall_mem_singleton

/-! ### The footprints of checks over several fields -/

namespace ConditionalCheck

/-- The names of the fields that a conditional check looks up. -/
def footprint (c : ConditionalCheck) : List String :=
  c.conditionField.toList ++ c.targetField.toList

/-- A conditional check depends on its condition field and its target field only. -/
theorem outcome_congr {c : ConditionalCheck} (h : Record.AgreeOn c.footprint r r')
    (patterns : PatternCache) : c.outcome r patterns = c.outcome r' patterns := by
  obtain ⟨conditionField, conditionValue, o, targetField, demand⟩ := c
  obtain ⟨hcondition, htarget⟩ := Record.agreeOn_append.mp h
  -- only with all four parts there does the check look at the record
  match conditionField, conditionValue, targetField, demand with
  | some field, some v, some target, some demand =>
    simp only [Record.agreeOn_toList_some] at hcondition htarget
    simp only [outcome, hcondition, htarget]
  | none, _, _, _ | _, none, _, _ | _, _, none, _ | _, _, _, none => simp only [outcome]

end ConditionalCheck

namespace ComparisonCheck

/-- The names of the fields that a comparison looks up. -/
def footprint (c : ComparisonCheck) : List String :=
  c.field1.toList ++ c.field2.toList

/-- A comparison depends on its two fields only. -/
theorem outcome_congr {c : ComparisonCheck} (h : Record.AgreeOn c.footprint r r') :
    c.outcome r = c.outcome r' := by
  obtain ⟨field1, field2, o, expectedSum⟩ := c
  obtain ⟨h1, h2⟩ := Record.agreeOn_append.mp h
  -- a comparison with a missing part passes on every record
  match field1, field2, o with
  | some field1, some field2, some o =>
    simp only [Record.agreeOn_toList_some] at h1 h2
    simp only [outcome, h1, h2]
  | none, _, _ | _, none, _ | _, _, none => simp only [outcome]

end ComparisonCheck

namespace DependencyCheck

/-- The names of the fields that a dependency looks up. -/
def footprint (c : DependencyCheck) : List String :=
  c.dependentField.toList ++ c.targetField.toList

/-- A dependency depends on its two fields only. -/
theorem outcome_congr {c : DependencyCheck} (h : Record.AgreeOn c.footprint r r') :
    c.outcome r = c.outcome r' := by
  obtain ⟨dependentField, requiredValue, targetField⟩ := c
  obtain ⟨hdependent, htarget⟩ := Record.agreeOn_append.mp h
  -- so does a dependency
  match dependentField, requiredValue, targetField with
  | some field, some v, some target =>
    simp only [Record.agreeOn_toList_some] at hdependent htarget
    simp only [outcome, hdependent, htarget]
  | none, _, _ | _, none, _ | _, _, none => simp only [outcome]

end DependencyCheck

namespace BusinessRule

/-- The names of the fields that a business rule is about. -/
def footprint : BusinessRule → List String
  | ageVerification => ["age", "idType", "verificationDocument"]
  | emailPhoneRequired => ["email", "phone"]
  | minorsConsent => ["age", "guardianConsent", "guardianEmail"]
  | salaryVerification => ["salary", "salaryVerification", "employmentStatus"]
  | unknown => []

/-- A business rule depends on the fields that it is about only. -/
theorem outcome_congr {rule : BusinessRule} (h : Record.AgreeOn rule.footprint r r') :
    rule.outcome r = rule.outcome r' := by
  -- a rule may stop before it has looked at all of its fields, but looks at no others
  cases rule with
  | ageVerification =>
    have hage := h "age" (by decide)
    have hid := h "idType" (by decide)
    have hdocument := h "verificationDocument" (by decide)
    simp only [outcome, ageOutcome, hage, hid, hdocument]
  | emailPhoneRequired =>
    have hemail := h "email" (by decide)
    have hphone := h "phone" (by decide)
    simp only [outcome, contactOutcome, hemail, hphone]
  | minorsConsent =>
    have hage := h "age" (by decide)
    have hconsent := h "guardianConsent" (by decide)
    have hemail := h "guardianEmail" (by decide)
    simp only [outcome, consentOutcome, hage, hconsent, hemail]
  | salaryVerification =>
    have hsalary := h "salary" (by decide)
    have hverification := h "salaryVerification" (by decide)
    have hstatus := h "employmentStatus" (by decide)
    simp only [outcome, salaryOutcome, hsalary, hverification, hstatus]
  | unknown => rfl

end BusinessRule

/-- The name of the field that an operand stands for. -/
def Operand.field? : Operand → Option String
  | field name => some name
  | literal _ => none

/-- An operand depends on the field that it stands for, if it stands for one. -/
theorem Operand.value_congr {o : Operand} (h : Record.AgreeOn o.field?.toList r r') :
    o.value r = o.value r' := by
  cases o with
  | field name => exact Record.agreeOn_toList_some.mp h
  | literal v => rfl

namespace TextCondition

/-- The name of the field that stands in the condition, if its text is a condition. -/
def operandField? (c : TextCondition) : Option String := do
  let text ← c.condition
  let condition ← (Condition.parse text).toOption
  condition.operand.field?

/-- The names of the fields that a condition written as text looks up. -/
def footprint (c : TextCondition) : List String :=
  c.dependentField.toList ++ c.operandField?.toList

/-- A condition written as text depends on its field and on the one in its operand only. -/
theorem outcome_congr {c : TextCondition} (h : Record.AgreeOn c.footprint r r') :
    c.outcome r = c.outcome r' := by
  obtain ⟨dependentField, text⟩ := c
  obtain ⟨hdependent, hoperand⟩ := Record.agreeOn_append.mp h
  match dependentField, text with
  | some field, some text =>
    simp only [Record.agreeOn_toList_some] at hdependent
    simp only [outcome]
    -- a text that is no condition fails without a look at the record
    cases hparse : Condition.parse text with
    | error fault => rfl
    | ok condition =>
      -- the text was parsed, so its footprint has the name that the operand refers to
      have hname : operandField? ⟨some field, some text⟩ = condition.operand.field? := by
        simp only [operandField?, Option.bind_eq_bind, Option.bind_some, hparse,
          Except.toOption]
      rw [hname] at hoperand
      simp only [Condition.holds, hdependent, Operand.value_congr hoperand]
  | none, _ | _, none => simp only [outcome]

end TextCondition

namespace CrossFieldCheck

/-- The names of the fields that a check over several fields looks up. -/
def footprint : CrossFieldCheck → List String
  | conditional c => c.footprint
  | comparison c => c.footprint
  | dependency c => c.footprint
  | business none => []
  | business (some rule) => rule.footprint
  | textual c => c.footprint

/-- A check over several fields has the same outcome on records that agree on its footprint. -/
theorem outcome_congr {c : CrossFieldCheck} (h : Record.AgreeOn c.footprint r r')
    (patterns : PatternCache) : c.outcome r patterns = c.outcome r' patterns := by
  match c with
  | conditional c => exact ConditionalCheck.outcome_congr h patterns
  | comparison c => exact ComparisonCheck.outcome_congr h
  | dependency c => exact DependencyCheck.outcome_congr h
  | business none => rfl
  | business (some rule) => exact BusinessRule.outcome_congr h
  | textual c => exact TextCondition.outcome_congr h

end CrossFieldCheck

/-! ### The footprint of a check -/

namespace Check

/-- Whether a check is left to a function. -/
def isCustom : Check → Bool
  | custom _ => true
  | _ => false

/-- Whether a check does no more with a record than look fields up by name.  Values are compared
    with all others for uniqueness, and functions are handed the record. -/
def readsByName : Check → Bool
  | uniqueness _ | custom _ => false
  | _ => true

/-- The names of the fields that a check looks up when it is applied to the field of a name. -/
def footprint (c : Check) (name : String) : List String :=
  match c with
  | crossField c => c.footprint
  | unknown _ _ => []
  | _ => [name]

/-- A check that looks fields up by name has the same outcome on records that agree on its
    footprint. -/
theorem outcome?_congr {c : Check} (hc : c.readsByName = true) {name : String}
    (h : Record.AgreeOn (c.footprint name) r r') (patterns : PatternCache)
    (functions : Registry) :
    c.outcome? name r patterns functions = c.outcome? name r' patterns functions := by
  -- what a check does with the record decides which fields it may depend on
  cases c with
  | format c | range c | completeness c =>
    have hfield : r.get? name = r'.get? name := h name List.mem_cons_self
    simp only [outcome?, hfield]
  | crossField c => exact congrArg some (CrossFieldCheck.outcome_congr h patterns)
  | unknown ruleType j => rfl
  | uniqueness c | custom c => exact nomatch hc

end Check

/-- Rules read only the fields that they name: a rule that is neither custom nor for uniqueness
    has the same outcome on records that agree on the fields that its check refers to, and, unless
    the check spans several fields, on the field that the rule is applied to. -/
theorem Rule.outcome?_eq_of_agreeOn (rule : Rule) (hrule : rule.check.readsByName = true)
    (name : String) (r r' : Record) (h : Record.AgreeOn (rule.check.footprint name) r r')
    (patterns : PatternCache) (functions : Registry) :
    rule.outcome? name r patterns functions = rule.outcome? name r' patterns functions :=
  Check.outcome?_congr hrule h patterns functions

/-- Bills go to the country of the customer. -/
private def billingRule : Rule where
  id := "billing"
  name := "Billing"
  check := .crossField (.textual { dependentField := "billing", condition := "== {country}" })

/-- A bill to another country. -/
private def billedAbroad : Record :=
  .ofList [("name", .text "A"), ("billing", .text "DE"), ("country", .text "FR")]

/-- A bill to another country, for another customer. -/
private def billedAbroadAnew : Record :=
  .ofList [("country", .text "FR"), ("name", .text "B"), ("billing", .text "DE")]

/-- Bills for two customers fail alike, although the rule is applied to the name of the
    customer. -/
theorem Rule.outcome?_billingRule :
    billingRule.check.readsByName = true ∧
    Record.AgreeOn (billingRule.check.footprint "name") billedAbroad billedAbroadAnew ∧
    billedAbroad.get? "name" ≠ billedAbroadAnew.get? "name" ∧
    billingRule.outcome? "name" billedAbroadAnew .empty .empty =
      some (.fail "Condition '== {country}' not satisfied for field 'billing'") := by
  have hagree : Record.AgreeOn (billingRule.check.footprint "name") billedAbroad
      billedAbroadAnew := by
    decide +kernel
  have houtcome : billingRule.outcome? "name" billedAbroad .empty .empty =
      some (.fail "Condition '== {country}' not satisfied for field 'billing'") := by
    decide +kernel
  refine ⟨rfl, hagree, by decide +kernel, ?_⟩
  rw [← Rule.outcome?_eq_of_agreeOn billingRule rfl "name" _ _ hagree, houtcome]

end RecordRules
