import RecordRules.Json.Printer
import RecordRules.Report.Codec
import RecordRules.Text.Lines

/-! # Writing reports

* `Report.toText`   a report for readers
* `Report.toJson`   a report as a JSON value -/

namespace RecordRules
namespace Report

/-- The line above and below a report. -/
def rule : String :=
  String.ofList (List.replicate 60 '═')

/-- The headline: whether all went well. -/
def verdict (r : Report) : String :=
  if r.passed then "✓ Validation PASSED" else "✗ Validation FAILED"

/-- The lines of a part with a title, which is left out if it has nothing to list. -/
def part (title : String) (entries : List String) : List String :=
  if entries.isEmpty then [] else "" :: title :: entries

/-- The line of a result that passed. -/
def passedLine (r : Result) : String :=
  "  ✓ [" ++ r.ruleId ++ "] " ++ r.field

/-- The lines of the summary.  The time that validation takes is not measured. -/
def summaryLines (r : Report) : List String :=
  [ "",
    "Summary:",
    "  Rules evaluated: " ++ toString r.statistics.rulesEvaluated,
    "  Fields checked:  " ++ toString r.statistics.fieldsChecked,
    "  Results:         " ++ toString r.results.length,
    "  Passed:          " ++ toString r.passedCount,
    "  Total errors:    " ++ toString r.errors.length,
    "  Total warnings:  " ++ toString r.warnings.length,
    "  Duration:        0 ms" ]

/-- A report for readers, with the results that passed only if they are asked for. -/
def toText (r : Report) (showPassed : Bool) : String :=
  let passed := if showPassed then r.results.filter Result.passed else []
  Lines.join <|
    ["", rule, "  VALIDATION REPORT", rule, "", r.verdict] ++
      part "Errors:" (Lines.number r.errors) ++
      part "Warnings:" (Lines.number r.warnings) ++
      part "Passed:" (passed.map passedLine) ++
      r.summaryLines ++ [rule]

/-- The summary as a JSON value. -/
def summary (r : Report) : Json :=
  .ofMembers [
    ("rules_evaluated", .integer r.statistics.rulesEvaluated),
    ("fields_checked", .integer r.statistics.fieldsChecked),
    ("result_count", .integer r.results.length),
    ("passed_count", .integer r.passedCount),
    ("error_count", .integer r.errors.length),
    ("warning_count", .integer r.warnings.length),
    ("duration_ms", .integer 0)]

/-- A report as a JSON value. -/
def toJson (r : Report) : Json :=
  .ofMembers [
    ("passed", .boolean r.passed),
    ("errors", .array (r.errors.map .text)),
    ("warnings", .array (r.warnings.map .text)),
    ("results", .array (r.results.map fun result => .ofMembers result.members)),
    ("summary", r.summary)]

end Report
end RecordRules
