import Mathlib.Data.List.Perm.Basic
import RecordRules.Proofs.Json.Members
import RecordRules.Report.Printer

/-!
# Reports count and split their results

A report sorts each of its results into one of three: passed, an error, or a warning.  So the
three numbers add up to that of the results, the report passes if no result is an error, and the
order of the results decides on nothing but the order of the lines.

## Key results

- `Report.passed_ofResults`: a report passes exactly when none of its results is an error
- `Report.length_results`: every result is counted once
- `Report.tells_toJson`: the JSON value of a report tells this of its results
- `Report.reordered_ofResults`: results in another order make the same report but for its order
-/

namespace RecordRules.Report

variable (results : List Result) (statistics : Statistics)

/-- The errors of a report are the results that are errors. -/
theorem errors_ofResults :
    (ofResults results statistics).errors =
      (results.filter Result.isError).map Result.describe := by
  show ((results.filter fun r => !r.passed).filter Result.isError).map Result.describe = _
  rw [List.filter_filter]
  refine congrArg (List.map Result.describe) (List.filter_congr fun result _ => ?_)
  -- an error has failed in the first place
  cases h : result.passed <;> simp [Result.isError, h]

/-- The warnings of a report are the failed results that are no errors. -/
theorem warnings_ofResults :
    (ofResults results statistics).warnings =
      (results.filter fun r => !r.passed && !r.isError).map Result.describe := by
  show ((results.filter fun r => !r.passed).filter fun r => !r.isError).map Result.describe = _
  rw [List.filter_filter]
  refine congrArg (List.map Result.describe) (List.filter_congr fun result _ => ?_)
  exact Bool.and_comm _ _

/-- A report passes exactly when none of its results is an error. -/
theorem passed_ofResults :
    (ofResults results statistics).passed = true ↔
      ∀ result ∈ results, result.passed = false →
        Result.isErrorSeverity result.severity = false := by
  show (ofResults results statistics).errors.isEmpty = true ↔ _
  -- no line of an error is no error among the results
  rw [errors_ofResults, List.isEmpty_iff, List.map_eq_nil_iff, List.filter_eq_nil_iff]
  refine forall_congr' fun result => forall_congr' fun _ => ?_
  simp [Result.isError]

/-- The failed results are the errors and the warnings. -/
theorem length_errors_add_length_warnings :
    (ofResults results statistics).errors.length + (ofResults results statistics).warnings.length =
      results.countP fun r => !r.passed := by
  simp only [ofResults, List.length_map]
  rw [← List.length_eq_length_filter_add, List.countP_eq_length_filter]

/-- Every result is an error, a warning, or passed. -/
theorem length_results :
    (ofResults results statistics).errors.length + (ofResults results statistics).warnings.length +
      (ofResults results statistics).passedCount = results.length := by
  have hpassed : (ofResults results statistics).passedCount = results.countP Result.passed := rfl
  have hcount := List.length_eq_countP_add_countP Result.passed (l := results)
  simp only [Bool.not_eq_true, Bool.decide_eq_false] at hcount
  rw [length_errors_add_length_warnings, hpassed]
  omega

/-- What a JSON value tells of results: whether all went well, and how many of them ended how. -/
structure Tells (report : Json) (well : Bool) (entries : List Json) : Prop where
  passed : report.get? "passed" = some (.boolean well)
  results : report.get? "results" = some (.array entries)
  /-- Every result is counted once. -/
  counts : ∃ summary, report.get? "summary" = some summary ∧ ∃ errors warnings passed : Nat,
    summary.get? "error_count" = some (.integer errors) ∧
    summary.get? "warning_count" = some (.integer warnings) ∧
    summary.get? "passed_count" = some (.integer passed) ∧
    summary.get? "result_count" = some (.integer entries.length) ∧
    errors + warnings + passed = entries.length

/-- The JSON value of a report tells what became of its results. -/
theorem tells_toJson :
    Tells (ofResults results statistics).toJson (ofResults results statistics).passed
      (results.map fun result => .ofMembers result.members) := by
  -- members are found by their keys, which are distinct
  have hkeys : ["passed", "errors", "warnings", "results", "summary"].Nodup := by decide
  have hcounts : ["rules_evaluated", "fields_checked", "result_count", "passed_count",
      "error_count", "warning_count", "duration_ms"].Nodup := by decide
  have hlength : (results.map fun result => Json.ofMembers result.members).length =
      (ofResults results statistics).results.length := List.length_map _
  refine ⟨Json.get?_ofMembers hkeys (by simp), Json.get?_ofMembers hkeys (by simp [ofResults]),
    (ofResults results statistics).summary, Json.get?_ofMembers hkeys (by simp), ?_⟩
  rw [hlength]
  exact ⟨_, _, _, Json.get?_ofMembers hcounts (by simp), Json.get?_ofMembers hcounts (by simp),
    Json.get?_ofMembers hcounts (by simp), Json.get?_ofMembers hcounts (by simp),
    length_results results statistics⟩

/-- Two reports say the same, though not in the same order. -/
structure Reordered (a b : Report) : Prop where
  passed : a.passed = b.passed
  resultsFailed : a.statistics.resultsFailed = b.statistics.resultsFailed
  errors : a.errors.Perm b.errors
  warnings : a.warnings.Perm b.warnings

variable {results}

/-- Results in another order are reported in another order, and that is all. -/
theorem reordered_ofResults {results' : List Result} (h : results.Perm results')
    (statistics' : Statistics) :
    Reordered (ofResults results statistics) (ofResults results' statistics') := by
  have hfailed := h.filter fun r => !r.passed
  have herrors :
      (ofResults results statistics).errors.Perm (ofResults results' statistics').errors :=
    (hfailed.filter Result.isError).map Result.describe
  have hwarnings :
      (ofResults results statistics).warnings.Perm (ofResults results' statistics').warnings :=
    (hfailed.filter fun r : Result => !r.isError).map Result.describe
  refine ⟨?_, ?_, herrors, hwarnings⟩
  · exact herrors.isEmpty_eq
  · exact congrArg₂ (· + ·) herrors.length_eq hwarnings.length_eq

end RecordRules.Report
