import RecordRules.Value

/-! # Results and reports

A result is the outcome of one rule for one field.  A report splits the failed results by
severity and sums them up.

* `Report.ofResults`   the report of a list of results -/

namespace RecordRules

/-- The outcome of one rule for one field. -/
structure Result where
  ruleId : String := ""
  ruleName : String := ""
  field : String := ""
  value : Option Value := none
  severity : String := ""
  passed : Bool := false
  message : Option String := none
  deriving DecidableEq, Inhabited

namespace Result

/-- The lower-case form of an ASCII letter. -/
def lowerAscii (c : Char) : Char :=
  if 'A' ≤ c ∧ c ≤ 'Z' then Char.ofNat (c.toNat + 32) else c

/-- Whether a severity is that of errors; upper and lower case are alike. -/
def isErrorSeverity (severity : String) : Bool :=
  severity.toList.map lowerAscii == "error".toList

/-- A failed result with the severity of errors. -/
def isError (r : Result) : Bool :=
  !r.passed && isErrorSeverity r.severity

/-- One line about a result. -/
def describe (r : Result) : String :=
  "[" ++ r.ruleId ++ "] " ++ r.field ++ ": " ++ r.message.getD "validation failed"

end Result

/-- What a validation looked at. -/
structure Statistics where
  rulesEvaluated : Nat := 0
  fieldsChecked : Nat := 0
  resultsFailed : Nat := 0
  deriving DecidableEq, Repr, Inhabited

/-- Results, with the failed ones split by severity. -/
structure Report where
  passed : Bool
  errors : List String
  warnings : List String
  results : List Result
  statistics : Statistics
  deriving DecidableEq, Inhabited

namespace Report

/-- The report of a list of results.  The number of failed results is counted here. -/
def ofResults (results : List Result) (statistics : Statistics) : Report :=
  let failed := results.filter fun r => !r.passed
  let errors := (failed.filter Result.isError).map Result.describe
  let warnings := (failed.filter fun r => !r.isError).map Result.describe
  { passed := errors.isEmpty
    errors := errors
    warnings := warnings
    results := results
    statistics := { statistics with resultsFailed := errors.length + warnings.length } }

/-- How many results passed. -/
def passedCount (r : Report) : Nat :=
  r.results.countP Result.passed

end Report
end RecordRules
