import RecordRules.Proofs.Report

/-!
# Reports partition their results

A report has a line for every failed result: among the errors if its severity spells `error` in
letters of either case, and else among the warnings.  The lines stand in the order of the results,
no result is counted twice, and none is lost.  So a report of results behind each other is made of
the reports of the parts.

## Key results

- `Result.isErrorSeverity_iff`: the severities of errors, whatever case their letters have
- `Report.partitions_ofResults`: what a report has of its results
- `Report.Partitions.errors_append` and the like: a report of two lists is made of two reports
- `Report.results_partitioned`: all of this
-/

namespace RecordRules

namespace Result

/-! ### Severities of errors -/

/-- Only the capital letters from `A` to `Z` are lowered, as in the standard library. -/
theorem lowerAscii_eq_toLower (c : Char) : lowerAscii c = c.toLower := by
  unfold lowerAscii
  by_cases hcapital : 'A' ≤ c ∧ c ≤ 'Z'
  · have hsmall : c.toLower = ⟨c.val + ('a'.val - 'A'.val), _⟩ := dif_pos hcapital
    have hbounds : 65 ≤ c.toNat ∧ c.toNat ≤ 90 := hcapital
    have hvalid : (c.toNat + 32).isValidChar := .inl (by omega)
    rw [if_pos hcapital, hsmall, Char.ofNat, dif_pos hvalid]
    -- both are 32 places behind the capital
    refine Char.toNat_inj.mp ?_
    show c.toNat + 32 = (c.val + 32).toNat
    rw [UInt32.toNat_add, Char.toNat_val]
    show c.toNat + 32 = (c.toNat + 32) % 2 ^ 32
    omega
  · have hkept : c.toLower = c := dif_neg hcapital
    rw [if_neg hcapital, hkept]

/-- The severities of errors are the ways to write `error`, upper and lower case being alike. -/
theorem isErrorSeverity_iff {severity : String} :
    isErrorSeverity severity = true ↔ severity.toLower = "error" := by
  -- the lower case is taken letter by letter on both sides
  have hlower : severity.toLower.toList = severity.toList.map lowerAscii := by
    show (severity.map Char.toLower).toList = _
    rw [String.toList_map, funext lowerAscii_eq_toLower]
  rw [isErrorSeverity, beq_iff_eq, ← hlower, String.toList_inj]

/-- The errors are the failed results whose severity is that of errors. -/
theorem isError_iff {result : Result} :
    result.isError = true ↔ result.passed = false ∧ result.severity.toLower = "error" := by
  rw [isError, Bool.and_eq_true, isErrorSeverity_iff, Bool.not_eq_true']

end Result

namespace Report

/-! ### What a report has of its results -/

/-- A report has each of some results in its place, and counts it there. -/
structure Partitions (report : Report) (results : List Result) : Prop where
  kept : report.results = results
  /-- Failed results with the severity of errors, in order. -/
  errors : report.errors =
    (results.filter fun result =>
      result.passed = false ∧ result.severity.toLower = "error").map Result.describe
  /-- Failed results with any other severity, in order. -/
  warnings : report.warnings =
    (results.filter fun result =>
      result.passed = false ∧ result.severity.toLower ≠ "error").map Result.describe
  passed : report.passed = true ↔ report.errors = []
  failedCount :
    report.errors.length + report.warnings.length = report.statistics.resultsFailed
  resultCount : report.statistics.resultsFailed + report.passedCount = results.length

/-- Whatever statistics a report is given, it partitions its results. -/
theorem partitions_ofResults (results : List Result) (statistics : Statistics) :
    (ofResults results statistics).Partitions results where
  kept := rfl
  errors := by
    -- the filters are one if they agree on each result
    rw [errors_ofResults]
    refine congrArg (List.map Result.describe) (List.filter_congr fun result _ => ?_)
    rw [Bool.eq_iff_iff, decide_eq_true_eq, Result.isError_iff]
  warnings := by
    rw [warnings_ofResults]
    refine congrArg (List.map Result.describe) (List.filter_congr fun result _ => ?_)
    rw [Bool.eq_iff_iff, decide_eq_true_eq, Bool.and_eq_true, Bool.not_eq_true',
      Bool.not_eq_true', ← Bool.not_eq_true, ← Bool.not_eq_true, Result.isError_iff]
    -- a result that failed is no error exactly if its severity is another one
    by_cases hfailed : result.passed = false <;> simp [hfailed]
  passed := List.isEmpty_iff
  failedCount := rfl
  resultCount := length_results results statistics

namespace Partitions

variable {a b whole : Report} {results results' : List Result}

/-- Results behind each other have the errors of both, in order. -/
theorem errors_append (ha : a.Partitions results) (hb : b.Partitions results')
    (h : whole.Partitions (results ++ results')) : whole.errors = a.errors ++ b.errors := by
  rw [h.errors, List.filter_append, List.map_append, ← ha.errors, ← hb.errors]

theorem warnings_append (ha : a.Partitions results) (hb : b.Partitions results')
    (h : whole.Partitions (results ++ results')) : whole.warnings = a.warnings ++ b.warnings := by
  rw [h.warnings, List.filter_append, List.map_append, ← ha.warnings, ← hb.warnings]

/-- Results behind each other pass exactly if either part passes. -/
theorem passed_append (ha : a.Partitions results) (hb : b.Partitions results')
    (h : whole.Partitions (results ++ results')) :
    whole.passed = true ↔ a.passed = true ∧ b.passed = true := by
  -- the errors of the whole are those of the parts, so they are none if these are
  rw [h.passed, errors_append ha hb h, List.append_eq_nil_iff, ha.passed, hb.passed]

end Partitions

/-- A report keeps its results, and lists and counts each failed one as an error or as a warning by
    its severity, whatever statistics it is given.  The report of two lists of results behind
    each other has the errors and the warnings of both, and passes exactly if both pass. -/
theorem results_partitioned (results : List Result) (statistics : Statistics) :
    (ofResults results statistics).Partitions results ∧
    ∀ (results' : List Result) (statistics' statistics'' : Statistics),
      (ofResults (results ++ results') statistics'').errors =
        (ofResults results statistics).errors ++ (ofResults results' statistics').errors ∧
      (ofResults (results ++ results') statistics'').warnings =
        (ofResults results statistics).warnings ++ (ofResults results' statistics').warnings ∧
      ((ofResults (results ++ results') statistics'').passed = true ↔
        (ofResults results statistics).passed = true ∧
          (ofResults results' statistics').passed = true) := by
  have hfirst := partitions_ofResults results statistics
  refine ⟨hfirst, fun results' statistics' statistics'' => ?_⟩
  have hsecond := partitions_ofResults results' statistics'
  have hwhole := partitions_ofResults (results ++ results') statistics''
  exact ⟨hfirst.errors_append hsecond hwhole, hfirst.warnings_append hsecond hwhole,
    hfirst.passed_append hsecond hwhole⟩

end Report
end RecordRules
