import RecordRules.Proofs.Report
import RecordRules.Proofs.RuleSet.Composition

/-!
# Which rules decide on the verdict

A record passes unless some rule condemns it: a rule that is enabled, has the severity of errors,
and fails on one of the fields that it is aimed at.  Rules of other severities may fail as they
like.

## Key results

- `Rule.condemns_iff`: the rules that condemn a record are those with an error among their results
- `Engine.passed_report_load`: a report passes exactly when no rule condemns the record
-/

namespace RecordRules

/-- A rule *condemns* a record if it fails on a field that it is aimed at, and if that counts. -/
structure Rule.Condemns (rule : Rule) (r : Record) (functions : Registry) : Prop where
  enabled : rule.enabled = true
  severity : Result.isErrorSeverity rule.severity = true
  /-- The rule fails on a field. -/
  fails : ∃ field ∈ r.names, (Target.ofPattern rule.target).selects field = true ∧
    ∃ outcome, rule.outcome? field r .empty functions = some outcome ∧ outcome.passed = false

/-- The rules that condemn a record are those with an error among their results. -/
theorem Rule.condemns_iff {rule : Rule} {r : Record} {functions : Registry} :
    rule.Condemns r functions ↔
      ∃ result ∈ rule.results r .empty functions,
        result.passed = false ∧ Result.isErrorSeverity result.severity = true := by
  constructor
  · rintro ⟨henabled, hseverity, field, hfield, hselects, outcome, houtcome, hfailed⟩
    -- a result has its severity from the rule, and whether it passed from the outcome
    have hparts : (RuleSet.result? rule r .empty functions field).map
        (fun result => (result.passed, result.severity)) =
          some (outcome.passed, rule.severity) := by
      rw [RuleSet.result?, houtcome]
      rfl
    obtain ⟨result, hresult, heq⟩ := Option.map_eq_some_iff.mp hparts
    obtain ⟨hpassed, hcopied⟩ := Prod.mk.inj heq
    have hmem : result ∈ rule.results r .empty functions :=
      Rule.mem_results.mpr ⟨henabled, field, hfield, hselects, hresult⟩
    exact ⟨result, hmem, hpassed.trans hfailed, hcopied ▸ hseverity⟩
  · rintro ⟨result, hmem, hfailed, hseverity⟩
    obtain ⟨henabled, field, hfield, hselects, hresult⟩ := Rule.mem_results.mp hmem
    obtain ⟨outcome, houtcome, rfl⟩ := Option.map_eq_some_iff.mp hresult
    exact ⟨henabled, hseverity, field, hfield, hselects, outcome, houtcome, hfailed⟩

/-- A report passes exactly when no rule condemns the record. -/
theorem Engine.passed_report_load (e : Engine) (rules : List Rule) (r : Record) :
    ((e.load rules).report r).passed = true ↔
      ∀ rule ∈ rules, ¬ rule.Condemns r e.functions := by
  have hresults : (RuleSet.ofRules rules).results e.functions r =
      rules.flatMap (·.results r .empty e.functions) :=
    RuleSet.results_ofRules rules e.functions r
  unfold report RuleSet.report
  rw [Report.passed_ofResults]
  -- the rules that were loaded are all that is left of the engine
  show (∀ result ∈ (RuleSet.ofRules rules).results e.functions r, _) ↔ _
  rw [hresults]
  constructor
  · intro hpassed rule hrule hcondemns
    obtain ⟨result, hresult, hfailed, hseverity⟩ := Rule.condemns_iff.mp hcondemns
    have hmem : result ∈ rules.flatMap (·.results r .empty e.functions) :=
      List.mem_flatMap.mpr ⟨rule, hrule, hresult⟩
    exact Bool.false_ne_true ((hpassed result hmem hfailed).symm.trans hseverity)
  · intro hnone result hmem hfailed
    obtain ⟨rule, hrule, hresult⟩ := List.mem_flatMap.mp hmem
    -- an error among the results would come from a rule that condemns the record
    rw [Bool.eq_false_iff]
    exact fun hseverity =>
      hnone rule hrule (Rule.condemns_iff.mpr ⟨result, hresult, hfailed, hseverity⟩)

end RecordRules
