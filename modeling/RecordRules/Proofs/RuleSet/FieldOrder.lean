import Mathlib.Data.List.Nodup
import RecordRules.Proofs.Report
import RecordRules.Proofs.RuleSet.Grid

/-!
# The order of fields decides nothing

Two records that have the same values under all names hold the same fields, in two orders.  Every
check but a custom one either looks fields up by name or counts them, so it has the same outcome
on both records.  What is left of the order is that in which the results are listed.

## Key results

- `Record.perm_iff_get?`: the fields of a record are known from the values under its names
- `Check.outcome?_of_get?`: checks that are not custom do not see the order of fields
- `Rule.perm_results`: a rule has the same results on both records
- `Engine.validate_load_reordered`: so has a rule set, and its report says the same
-/

namespace RecordRules

/-! ### Records with the same values -/

namespace Record

variable {r r' : Record}

/-- What is found under a name is the value of a field of that name. -/
theorem mem_of_get? {name : String} {v : Value} (h : r.get? name = some v) :
    (name, v) ∈ r.fields :=
  Named.mem_of_lookup h

/-- Looking names up and going through the fields come to the same. -/
theorem get?_eq_some_iff {name : String} {v : Value} :
    r.get? name = some v ↔ (name, v) ∈ r.fields :=
  ⟨mem_of_get?, get?_of_mem⟩

/-- Two records have the same values under all names exactly when they hold the same fields, in
    whatever order. -/
theorem perm_iff_get? : r.fields.Perm r'.fields ↔ ∀ name, r.get? name = r'.get? name := by
  constructor
  · intro h name
    ext v
    rw [get?_eq_some_iff, get?_eq_some_iff, h.mem_iff]
  · intro h
    -- no field is there twice, since no name is
    have hnodup : r.fields.Nodup := List.Nodup.of_map Prod.fst r.nodup
    have hnodup' : r'.fields.Nodup := List.Nodup.of_map Prod.fst r'.nodup
    refine (List.perm_ext_iff_of_nodup hnodup hnodup').mpr fun (name, v) => ?_
    rw [← get?_eq_some_iff, ← get?_eq_some_iff, h name]

end Record

/-! ### What checks make of the order -/

section Checks

variable {r r' : Record}

/-- A value occurs in a record as often as in one with its fields in another order. -/
theorem UniquenessCheck.occurrences_of_perm (h : r.fields.Perm r'.fields) (v : Value) :
    occurrences v r = occurrences v r' :=
  (h.map Prod.snd).countP_eq _

/-- A check that is not custom has the same outcome on records with the same values. -/
theorem Check.outcome?_of_get? {c : Check} (hc : c.isCustom = false)
    (h : ∀ name, r.get? name = r'.get? name) (name : String) (patterns : PatternCache)
    (functions : Registry) :
    c.outcome? name r patterns functions = c.outcome? name r' patterns functions := by
  -- most checks look fields up by name, and these find the same
  cases hreads : c.readsByName with
  | true => exact outcome?_congr hreads (fun name _ => h name) patterns functions
  | false =>
    cases c with
    | uniqueness c =>
      -- this check compares with all fields, and counts them
      have hoccurrences := UniquenessCheck.occurrences_of_perm (Record.perm_iff_get?.mpr h)
      simp only [outcome?, UniquenessCheck.outcome, h name, hoccurrences]
    | custom c => exact absurd hc Bool.false_ne_true.symm
    | format c | range c | completeness c | crossField c =>
      exact absurd hreads Bool.false_ne_true.symm
    | unknown ruleType j => exact absurd hreads Bool.false_ne_true.symm

end Checks

namespace Rule

variable {r r' : Record}

/-- The results of a rule come in the order of the names of the record. -/
theorem sublist_field_results (rule : Rule) (r : Record) (patterns : PatternCache)
    (functions : Registry) :
    ((rule.results r patterns functions).map Result.field).Sublist r.names := by
  -- a result keeps the name that it was made for, so the names are those with a result
  have hfield (name : String) : (rule.resultAt? r patterns functions name).map Result.field =
      Option.guard (fun name => (rule.resultAt? r patterns functions name).isSome) name := by
    cases hresult : rule.resultAt? r patterns functions name with
    | none => simp only [Option.guard, hresult]; rfl
    | some result =>
      have hname : result.field = name := by
        unfold resultAt? at hresult
        split at hresult
        · obtain ⟨outcome, _, rfl⟩ := Option.map_eq_some_iff.mp hresult
          rfl
        · exact nomatch hresult
      simp only [Option.guard, hresult, Option.map_some, hname]
      rfl
  rw [results_eq_filterMap, List.map_filterMap, funext hfield, List.filterMap_eq_filter]
  exact List.filter_sublist

/-- A rule that is not custom has the same results on records with the same values. -/
theorem perm_results {rule : Rule} (hcustom : rule.check.isCustom = false)
    (h : ∀ name, r.get? name = r'.get? name) (patterns : PatternCache) (functions : Registry) :
    (rule.results r patterns functions).Perm (rule.results r' patterns functions) := by
  have hresult : rule.resultAt? r patterns functions = rule.resultAt? r' patterns functions := by
    funext name
    have houtcome : rule.outcome? name r patterns functions =
        rule.outcome? name r' patterns functions :=
      Check.outcome?_of_get? hcustom h name patterns functions
    rw [resultAt?, RuleSet.result?, houtcome, h name, resultAt?, RuleSet.result?]
  -- the same fields have the same names
  have hnames : r.names.Perm r'.names := (Record.perm_iff_get?.mpr h).map Prod.fst
  rw [results_eq_filterMap, results_eq_filterMap, hresult]
  exact hnames.filterMap _

end Rule

/-- The order of fields changes no verdict.  By rules that are not custom, two records with the
    same values are given the same results rule by rule, each record in its own order, and the two
    reports say the same. -/
theorem Engine.validate_load_reordered (e : Engine) (rules : List Rule)
    (hcustom : ∀ rule ∈ rules, rule.check.isCustom = false) (r r' : Record)
    (h : ∀ name, r.get? name = r'.get? name) :
    (e.load rules).validate r = rules.flatMap (·.results r (.ofRules rules) e.functions) ∧
    (e.load rules).validate r' = rules.flatMap (·.results r' (.ofRules rules) e.functions) ∧
    (∀ rule ∈ rules,
      (rule.results r (.ofRules rules) e.functions).Perm
        (rule.results r' (.ofRules rules) e.functions) ∧
      ((rule.results r (.ofRules rules) e.functions).map Result.field).Sublist r.names ∧
      ((rule.results r' (.ofRules rules) e.functions).map Result.field).Sublist r'.names) ∧
    ((e.load rules).report r).Reordered ((e.load rules).report r') := by
  have hvalidate (r : Record) : (e.load rules).validate r =
      rules.flatMap (·.results r (.ofRules rules) e.functions) :=
    RuleSet.results_eq_flatMap rules e.functions r
  have hrule (rule : Rule) (hmem : rule ∈ rules) :
      (rule.results r (.ofRules rules) e.functions).Perm
        (rule.results r' (.ofRules rules) e.functions) :=
    rule.perm_results (hcustom rule hmem) h _ e.functions
  -- rule by rule the results are permuted, and so are all of them
  have hall : ((e.load rules).validate r).Perm ((e.load rules).validate r') := by
    rw [hvalidate, hvalidate]
    exact List.Perm.flatMap_left rules hrule
  refine ⟨hvalidate r, hvalidate r', fun rule hmem => ⟨hrule rule hmem, ?_, ?_⟩, ?_⟩
  · exact rule.sublist_field_results r _ e.functions
  · exact rule.sublist_field_results r' _ e.functions
  · exact Report.reordered_ofResults _ hall _

/-- No number stands twice, and all numbers are there. -/
private def numberRules : List Rule :=
  [{ id := "unique", name := "Unique", check := .uniqueness {} },
   { id := "present", name := "Present", check := .completeness { required := true } }]

/-- A number that is used twice, and one that is missing. -/
private def numbers : Record :=
  .ofList [("home", .text "555-0100"), ("fax", .null), ("work", .text "555-0100")]

/-- The same numbers from the last to the first. -/
private def numbersBackwards : Record :=
  .ofList [("work", .text "555-0100"), ("fax", .null), ("home", .text "555-0100")]

/-- The errors about numbers are the same in either order, though listed differently. -/
theorem Engine.reordered_numbers :
    (∀ rule ∈ numberRules, rule.check.isCustom = false) ∧
    (∀ name, numbers.get? name = numbersBackwards.get? name) ∧
    (((({} : Engine).load numberRules).report numbers).errors).Perm
      ((({} : Engine).load numberRules).report numbersBackwards).errors ∧
    ((({} : Engine).load numberRules).report numbers).errors ≠
      ((({} : Engine).load numberRules).report numbersBackwards).errors := by
  have hcustom : ∀ rule ∈ numberRules, rule.check.isCustom = false := by decide
  have hget : ∀ name, numbers.get? name = numbersBackwards.get? name :=
    Record.perm_iff_get?.mp (by decide +kernel)
  have hreport := (Engine.validate_load_reordered {} numberRules hcustom _ _ hget).2.2.2
  exact ⟨hcustom, hget, hreport.errors, by decide +kernel⟩

end RecordRules
