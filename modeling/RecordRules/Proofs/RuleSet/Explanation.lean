import RecordRules.Engine
import RecordRules.Proofs.Check.FirstFailure
import RecordRules.Proofs.Report

/-!
# Verdicts explain themselves

Unless it is left to a registered function, a check comes to an outcome for every field, and the
outcome explains itself: if it is a failure there is a message, and else there is none.  Results
have their messages from the outcomes.  So the line that a report has for a failed result ends in a
message that the rule gave, and never in the words that stand for a missing one.

## Key results

- `CrossFieldCheck.explained`, `FormatCheck.explained` and the like: the outcomes of each check
- `Check.explained`: a check that no function decides comes to an outcome that explains itself
- `RuleSet.mem_results`: a result is the outcome of an enabled rule for a field that it is aimed at
- `Engine.verdicts_explain_themselves`: so do the results of a record and the lines of its report
-/

namespace RecordRules

open Outcome

/-! ### Checks of one field -/

/-- A format check explains itself, of a field that is there and of one that is not. -/
theorem FormatCheck.explained (c : FormatCheck) (field : Option Value) (patterns : PatternCache) :
    (c.outcome field patterns).Explained := by
  -- what is absent or null passes
  cases h : present? field with
  | none =>
    rw [outcome_of_absent patterns c h]
    exact explained_pass
  | some v =>
    rw [outcome_of_present patterns c h]
    exact explained_ofFault? _

/-- A range check explains itself, also about what is no finite number. -/
theorem RangeCheck.explained (c : RangeCheck) (field : Option Value) :
    (c.outcome field).Explained := by
  cases h : present? field with
  | none =>
    rw [c.outcome_of_absent h]
    exact explained_pass
  | some v =>
    by_cases hfinite : (Coercion.ofValue v).isFinite = true
    · rw [c.outcome_of_finite h hfinite]
      exact explained_ofFault? _
    · rw [c.outcome_of_not_finite h hfinite]
      exact explained_fail _

theorem CompletenessCheck.explained (c : CompletenessCheck) (field : Option Value) :
    (c.outcome field).Explained := by
  rw [outcome_eq_ofFault?]
  exact explained_ofFault? _

theorem UniquenessCheck.explained (c : UniquenessCheck) (field : Option Value) (r : Record) :
    (c.outcome field r).Explained := by
  unfold outcome
  cases present? field with
  | none => exact explained_pass
  | some v => exact explained_check _ _

/-! ### Checks over several fields -/

/-- A demand explains itself, whatever it asks for. -/
theorem TargetCondition.explained (t : TargetCondition) (name : String) (field : Option Value)
    (reason : String) (patterns : PatternCache) :
    (t.outcome name field reason patterns).Explained := by
  unfold outcome
  split
  · exact explained_check _ _
  · -- a format is asked for: of what is there, and by a pattern that may not compile
    split
    · split
      · exact explained_check _ _
      · exact explained_fail _
    · exact explained_pass
  · -- a range is asked for
    split
    · exact explained_pass
    · split
      · exact explained_fail _
      · exact explained_pass
  · exact explained_pass
  · exact explained_pass

/-- A conditional check explains itself by its demand, or passes. -/
theorem ConditionalCheck.explained (c : ConditionalCheck) (r : Record) (patterns : PatternCache) :
    (c.outcome r patterns).Explained := by
  unfold outcome
  split
  · split
    · exact TargetCondition.explained _ _ _ _ _
    · exact explained_pass
  · exact explained_pass

/-- A comparison explains itself, or passes if a part of it is missing. -/
theorem ComparisonCheck.explained (c : ComparisonCheck) (r : Record) :
    (c.outcome r).Explained := by
  unfold outcome
  split
  · simp only
    split
    · -- a sum is compared with what is expected, if anything is
      split
      · exact explained_pass
      · exact explained_check _ _
    · exact explained_check _ _
    · exact explained_pass
  · exact explained_pass

theorem DependencyCheck.explained (c : DependencyCheck) (r : Record) :
    (c.outcome r).Explained := by
  unfold outcome
  -- nothing is asked unless all parts are there
  split
  · exact explained_check _ _
  · exact explained_pass

theorem BusinessRule.explained (rule : BusinessRule) (r : Record) :
    (rule.outcome r).Explained := by
  cases rule with
  | ageVerification => exact explained_check _ _
  | emailPhoneRequired => exact explained_check _ _
  | minorsConsent =>
    -- each of the nested questions ends in a message or passes
    show (consentOutcome r).Explained
    unfold consentOutcome
    split
    · exact explained_pass
    · split
      · exact explained_fail _
      · split
        · exact explained_fail _
        · exact explained_pass
  | salaryVerification =>
    show (salaryOutcome r).Explained
    unfold salaryOutcome
    split
    · exact explained_pass
    · split
      · exact explained_fail _
      · split
        · exact explained_fail _
        · exact explained_pass
  | unknown => exact explained_pass

/-- A textual condition explains itself, also where the text cannot be read. -/
theorem TextCondition.explained (c : TextCondition) (r : Record) :
    (c.outcome r).Explained := by
  unfold outcome
  -- the text is read or has a fault, and either way there is a message for a failure
  split
  · split
    · exact explained_fail _
    · exact explained_check _ _
  · exact explained_pass

/-- A check over several fields explains itself, whatever its mode. -/
theorem CrossFieldCheck.explained (c : CrossFieldCheck) (r : Record) (patterns : PatternCache) :
    (c.outcome r patterns).Explained := by
  match c with
  | conditional c => exact c.explained r patterns
  | comparison c => exact c.explained r
  | dependency c => exact c.explained r
  | business none => exact explained_pass
  | business (some rule) => exact rule.explained r
  | textual c => exact c.explained r

/-! ### All checks -/

/-- The registered function that a check is left to. -/
def Check.function? (c : Check) (functions : Registry) : Option CustomFunction :=
  match c with
  | custom c => c.functionName.bind functions.get?
  | _ => none

/-- A check that is not left to a function comes to an outcome, which explains itself. -/
theorem Check.explained {c : Check} {functions : Registry} (h : c.function? functions = none)
    (name : String) (r : Record) (patterns : PatternCache) :
    ∃ o, c.outcome? name r patterns functions = some o ∧ o.Explained := by
  cases c with
  | format c => exact ⟨_, rfl, c.explained _ _⟩
  | range c => exact ⟨_, rfl, c.explained _⟩
  | completeness c => exact ⟨_, rfl, c.explained _⟩
  | uniqueness c => exact ⟨_, rfl, c.explained _ _⟩
  | crossField c => exact ⟨_, rfl, c.explained _ _⟩
  | custom c =>
    -- a function that is not named or not registered passes
    have hpass : c.outcome? (r.get? name) r functions = some .pass := by
      rw [CustomCheck.outcome?, show c.functionName.bind functions.get? = none from h]
    exact ⟨.pass, hpass, explained_pass⟩
  | unknown ruleType j => exact ⟨_, rfl, explained_fail _⟩

/-! ### Results -/

namespace Result

/-- The line about a result that has a message of its own. -/
def ownLine? (result : Result) : Option String :=
  result.message.map fun message => "[" ++ result.ruleId ++ "] " ++ result.field ++ ": " ++ message

/-- A result that has a message is described by it. -/
theorem ownLine?_eq_some_describe {result : Result} (h : result.message.isSome = true) :
    result.ownLine? = some result.describe := by
  obtain ⟨message, hmessage⟩ := Option.isSome_iff_exists.mp h
  rw [ownLine?, describe, hmessage]
  rfl

/-- Results that all have messages of their own are described by them. -/
theorem map_some_describe {results : List Result}
    (h : ∀ result ∈ results, result.message.isSome = true) :
    (results.map describe).map some = results.map ownLine? := by
  rw [List.map_map]
  refine List.map_congr_left fun result hresult => ?_
  exact (ownLine?_eq_some_describe (h result hresult)).symm

end Result

/-- A result is the outcome of an enabled rule for one of the fields that it is aimed at. -/
theorem RuleSet.mem_results {s : RuleSet} {functions : Registry} {r : Record} {result : Result} :
    result ∈ s.results functions r ↔
      ∃ aimed ∈ s.enabled, ∃ field ∈ aimed.target.resolve r,
        result? aimed.rule r s.patterns functions field = some result := by
  simp only [results, List.mem_flatMap, List.mem_filterMap]

/-- A result has its verdict and its message from the outcome. -/
theorem RuleSet.result?_eq_some {rule : Rule} {r : Record} {patterns : PatternCache}
    {functions : Registry} {field : String} {result : Result}
    (h : result? rule r patterns functions field = some result) :
    result.field = field ∧
      rule.outcome? field r patterns functions = some ⟨result.passed, result.message⟩ := by
  -- a result is built around the outcome
  obtain ⟨o, houtcome, rfl⟩ := Option.map_eq_some_iff.mp h
  exact ⟨rfl, houtcome⟩

namespace Engine

variable {e : Engine}
  (h : ∀ aimed ∈ e.ruleSet.enabled, aimed.rule.check.function? e.functions = none)

include h

/-- Every result of a record is the outcome of a rule, in its own words, and explains itself. -/
theorem explained_of_mem_validate {r : Record} {result : Result} (hresult : result ∈ e.validate r) :
    Outcome.Explained ⟨result.passed, result.message⟩ ∧
      ∃ aimed ∈ e.ruleSet.enabled,
        RuleSet.result? aimed.rule r e.ruleSet.patterns e.functions result.field = some result ∧
        aimed.rule.outcome? result.field r e.ruleSet.patterns e.functions =
          some ⟨result.passed, result.message⟩ := by
  obtain ⟨aimed, haimed, field, _, hmade⟩ := RuleSet.mem_results.mp hresult
  obtain ⟨rfl, houtcome⟩ := RuleSet.result?_eq_some hmade
  -- the outcome is the one that the result was made from
  obtain ⟨o, ho, hexplained⟩ :=
    Check.explained (h aimed haimed) result.field r e.ruleSet.patterns
  obtain rfl : o = ⟨result.passed, result.message⟩ := Option.some.inj (ho.symm.trans houtcome)
  exact ⟨hexplained, aimed, haimed, hmade, houtcome⟩

/-- A failed result has a message. -/
theorem isSome_message_of_failed {r : Record} {result : Result} (hresult : result ∈ e.validate r)
    (hfailed : result.passed = false) : result.message.isSome = true :=
  (explained_of_mem_validate h hresult).1.mpr hfailed

/-- The lines of a report are made from the messages of its results. -/
theorem map_some_lines (r : Record) :
    (e.report r).errors.map some =
      ((e.report r).results.filter Result.isError).map Result.ownLine? ∧
    (e.report r).warnings.map some =
      ((e.report r).results.filter fun result => !result.passed && !result.isError).map
        Result.ownLine? := by
  -- both lists are selections of failed results, which have their messages
  have hlines (selects : Result → Bool)
      (hselects : ∀ result, selects result = true → (!result.passed) = true) :
      (((e.validate r).filter selects).map Result.describe).map some =
        ((e.validate r).filter selects).map Result.ownLine? := by
    refine Result.map_some_describe fun result hmem => ?_
    obtain ⟨hresult, hselected⟩ := List.mem_filter.mp hmem
    exact isSome_message_of_failed h hresult (Bool.not_eq_true' _ ▸ hselects result hselected)
  constructor
  · show (Report.ofResults (e.validate r) _).errors.map some = _
    rw [Report.errors_ofResults]
    exact hlines _ fun result herror => (Bool.and_eq_true_iff.mp herror).1
  · show (Report.ofResults (e.validate r) _).warnings.map some = _
    rw [Report.warnings_ofResults]
    exact hlines _ fun result hwarning => (Bool.and_eq_true_iff.mp hwarning).1

end Engine

/-- A rule that is not left to a registered function comes to an outcome for every field, with a
    message exactly if it is a failure.  So in a report over such rules every failed result has
    the message that its rule gave, no other result has one, and each line ends in the message of
    its result. -/
theorem Engine.verdicts_explain_themselves :
    (∀ (rule : Rule) (functions : Registry), rule.check.function? functions = none →
      ∀ field r patterns, ∃ o, rule.outcome? field r patterns functions = some o ∧
        (o.message.isSome ↔ o.passed = false)) ∧
    ∀ e : Engine, (∀ aimed ∈ e.ruleSet.enabled, aimed.rule.check.function? e.functions = none) →
      ∀ r : Record,
        (∀ result ∈ (e.report r).results,
          (result.passed = true → result.message = none) ∧
          (result.passed = false → ∃ message, result.message = some message ∧
            ∃ aimed ∈ e.ruleSet.enabled,
              RuleSet.result? aimed.rule r e.ruleSet.patterns e.functions result.field =
                some result ∧
              aimed.rule.outcome? result.field r e.ruleSet.patterns e.functions =
                some (.fail message))) ∧
        (e.report r).errors.map some =
          ((e.report r).results.filter Result.isError).map Result.ownLine? ∧
        (e.report r).warnings.map some =
          ((e.report r).results.filter fun result => !result.passed && !result.isError).map
            Result.ownLine? := by
  refine ⟨fun rule functions h field r patterns => Check.explained h field r patterns,
    fun e h r => ⟨fun result hresult => ?_, map_some_lines h r⟩⟩
  obtain ⟨hexplained, aimed, haimed, hmade, houtcome⟩ := explained_of_mem_validate h hresult
  constructor
  · intro hpassed
    -- an outcome that explains itself is one of two kinds, and the verdict tells which
    rcases explained_iff.mp hexplained with hpass | ⟨message, hfail⟩
    · exact congrArg Outcome.message hpass
    · exact absurd (hpassed.symm.trans (congrArg Outcome.passed hfail)) nofun
  · intro hfailed
    rcases explained_iff.mp hexplained with hpass | ⟨message, hfail⟩
    · exact absurd (hfailed.symm.trans (congrArg Outcome.passed hpass)) nofun
    · exact ⟨message, congrArg Outcome.message hfail, aimed, haimed, hmade, hfail ▸ houtcome⟩

/-- A rule with a name that no function has. -/
private def bankRule : Rule :=
  { id := "bank", name := "Bank", target := "limit"
    check := .custom { functionName := some "bankIsOpen" } }

/-- An engine with a function, and with rules that are decided without it. -/
private def cardEngine : Engine :=
  (Engine.withFunctions (Registry.empty.register "luhn" fun _ _ _ => none)).load
    [{ id := "limit", name := "Limit", target := "limit", check := .range { max := some .zero } },
     bankRule,
     { id := "sum", name := "Sum", target := "holder", check := .unknown "checksum" .null,
       severity := "warning" }]

/-- A card with a limit, and the name of its holder. -/
private def card : Record :=
  .ofList [("limit", .integer 5), ("holder", .text "Ann")]

/-- The function that is not registered is not asked, and the rule of no known type says so. -/
theorem Engine.verdicts_explain_themselves_card :
    (∀ aimed ∈ cardEngine.ruleSet.enabled,
      aimed.rule.check.function? cardEngine.functions = none) ∧
    (∃ o, bankRule.outcome? "limit" card .empty cardEngine.functions = some o ∧
      (o.message.isSome ↔ o.passed = false)) ∧
    (cardEngine.report card).warnings.map some =
      ((cardEngine.report card).results.filter fun result => !result.passed && !result.isError).map
        Result.ownLine? ∧
    (cardEngine.report card).warnings = ["[sum] holder: Unknown rule type: checksum"] := by
  have hnone : ∀ aimed ∈ cardEngine.ruleSet.enabled,
      aimed.rule.check.function? cardEngine.functions = none := by decide +kernel
  have hbank : bankRule.check.function? cardEngine.functions = none := by decide +kernel
  have hall := Engine.verdicts_explain_themselves
  exact ⟨hnone, hall.1 bankRule cardEngine.functions hbank "limit" card .empty,
    (hall.2 cardEngine hnone card).2.2, by decide +kernel⟩

end RecordRules
