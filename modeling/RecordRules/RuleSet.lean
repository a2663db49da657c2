import RecordRules.Check.Dispatch
import RecordRules.Report
import RecordRules.Target

/-! # Rule sets

Rules that are ready to be applied: each with its target, and with the patterns of all of them
compiled.

* `RuleSet.results`   the results for a record, rule by rule and field by field -/

namespace RecordRules

/-- A rule with its target. -/
structure AimedRule where
  rule : Rule
  target : Target

/-- Rules with their targets, and the patterns of all of them. -/
structure RuleSet where
  rules : List AimedRule := []
  patterns : PatternCache := .empty

namespace RuleSet

/-- The rule set without rules. -/
def empty : RuleSet := {}

/-- The rule set of a list of rules, in its order. -/
def ofRules (rules : List Rule) : RuleSet :=
  { rules := rules.map fun rule => ⟨rule, .ofPattern rule.target⟩
    patterns := .ofRules rules }

/-- The rules, in order. -/
def definitions (s : RuleSet) : List Rule :=
  s.rules.map AimedRule.rule

/-- The rules that are enabled, in order. -/
def enabled (s : RuleSet) : List AimedRule :=
  s.rules.filter (·.rule.enabled)

/-- How many rules there are, enabled or not. -/
def size (s : RuleSet) : Nat :=
  s.rules.length

/-- The result of a rule for a field of a record, unless the rule skips it. -/
def result? (rule : Rule) (r : Record) (patterns : PatternCache) (functions : Registry)
    (field : String) : Option Result :=
  (rule.outcome? field r patterns functions).map fun outcome =>
    { ruleId := rule.id
      ruleName := rule.name
      field := field
      value := r.get? field
      severity := rule.severity
      passed := outcome.passed
      message := outcome.message }

/-- The results for a record: the enabled rules in order, and for each the fields that its
    target selects, in the order of the record. -/
def results (s : RuleSet) (functions : Registry) (r : Record) : List Result :=
  s.enabled.flatMap fun aimed =>
    (aimed.target.resolve r).filterMap (result? aimed.rule r s.patterns functions)

/-- The report for a record. -/
def report (s : RuleSet) (functions : Registry) (r : Record) : Report :=
  .ofResults (s.results functions r)
    { rulesEvaluated := s.enabled.length, fieldsChecked := r.size }

end RuleSet
end RecordRules
