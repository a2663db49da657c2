import Mathlib.Algebra.GroupWithZero.Nat
import Mathlib.Data.List.Forall2
import RecordRules.Proofs.Check.Footprint
import RecordRules.Proofs.RuleSet.Composition
import RecordRules.Proofs.Target

/-!
# Rules and fields form a grid

Rules and fields have their positions, and a result belongs to one rule and one field.  So the
results of a validation can be laid out in a grid, with a row to every rule and a column to
every field.  A cell is filled when its rule is enabled, the target of the rule selects its
field, and the check does not skip it.  The results of a validation are what the cells are
filled with, row by row: none is lost and none comes twice.

## Key results

- `RuleSet.mem_placed`: the cells that are filled, and what they are filled with
- `RuleSet.map_snd_placed`: going through the cells gives the results of the rule set
- `Engine.validate_load_grid`: the results of a validation are in bijection with the filled
  cells, in their order
-/

namespace RecordRules

/-! ### Checks that may skip a field -/

/-- Only custom checks skip fields. -/
theorem Check.isSome_outcome? {c : Check} (h : c.isCustom = false) (name : String) (r : Record)
    (patterns : PatternCache) (functions : Registry) :
    (c.outcome? name r patterns functions).isSome := by
  cases c with
  | custom c => exact nomatch h
  | format c | range c | completeness c | uniqueness c | crossField c => rfl
  | unknown ruleType j => rfl

namespace Rule

/-- The result of a rule for the field of a name: there is none if the rule is disabled, if its
    target does not select the field, or if the check skips it. -/
def resultAt? (rule : Rule) (r : Record) (patterns : PatternCache) (functions : Registry)
    (field : String) : Option Result :=
  if rule.enabled && (Target.ofPattern rule.target).selects field then
    RuleSet.result? rule r patterns functions field
  else none

/-- The results of a rule are found by going through all names of the record. -/
theorem results_eq_filterMap (rule : Rule) (r : Record) (patterns : PatternCache)
    (functions : Registry) :
    rule.results r patterns functions =
      r.names.filterMap (rule.resultAt? r patterns functions) := by
  rw [results]
  split
  · next henabled =>
    rw [Target.resolve_eq_filter, List.filterMap_filter]
    refine List.filterMap_congr fun field _ => ?_
    simp only [resultAt?, henabled, Bool.true_and]
  · next hdisabled =>
    refine (List.filterMap_eq_nil_iff.mpr fun field _ => ?_).symm
    simp only [resultAt?, hdisabled, Bool.false_and, Bool.false_eq_true, if_false]

/-- An enabled rule that is not custom has a result for every field that it is aimed at. -/
theorem length_results {rule : Rule} (henabled : rule.enabled = true)
    (hcustom : rule.check.isCustom = false) (r : Record) (patterns : PatternCache)
    (functions : Registry) :
    (rule.results r patterns functions).length =
      r.names.countP (Target.ofPattern rule.target).selects := by
  -- no check but a custom one skips a field, so that no name is lost
  have hall : ∀ field ∈ r.names.filter (Target.ofPattern rule.target).selects,
      (RuleSet.result? rule r patterns functions field).isSome = true := by
    intro field _
    rw [RuleSet.result?, Option.isSome_map]
    exact Check.isSome_outcome? hcustom field r patterns functions
  rw [results, if_pos henabled, List.length_filterMap_eq_countP, Target.resolve_eq_filter,
    List.countP_eq_length.mpr hall, List.countP_eq_length_filter]

end Rule

/-! ### The cells of the grid -/

namespace RuleSet

/-- Positions ascend along a list. -/
theorem zipIdx_ascending {α : Type} (l : List α) : l.zipIdx.Pairwise fun a b => a.2 < b.2 := by
  -- the positions alone are the numbers in order
  have hpositions : (l.zipIdx.map Prod.snd).Pairwise (· < ·) := by
    rw [List.zipIdx_map_snd]
    exact List.pairwise_lt_range'
  exact List.pairwise_map.mp hpositions

/-- What the cell of a rule and a field is filled with, rule and field being given by their
    positions. -/
inductive Yields (rules : List Rule) (functions : Registry) (r : Record) :
    Nat × Nat → Result → Prop where
  | cell {i k : Nat} {rule : Rule} {name : String} {value : Value} {outcome : Outcome}
      (hrule : rules[i]? = some rule) (henabled : rule.enabled = true)
      (hfield : r.fields[k]? = some (name, value))
      (hselected : (Target.ofPattern rule.target).selects name = true)
      (houtcome : rule.outcome? name r (.ofRules rules) functions = some outcome) :
      Yields rules functions r (i, k)
        { ruleId := rule.id
          ruleName := rule.name
          field := name
          value := some value
          severity := rule.severity
          passed := outcome.passed
          message := outcome.message }

/-- The filled cells with their results, row by row. -/
def placed (rules : List Rule) (functions : Registry) (r : Record) :
    List ((Nat × Nat) × Result) :=
  rules.zipIdx.flatMap fun row =>
    r.fields.zipIdx.filterMap fun column =>
      (row.1.resultAt? r (.ofRules rules) functions column.1.1).map ((row.2, column.2), ·)

variable (rules : List Rule) (functions : Registry) (r : Record)

/-- A cell is found with a result exactly when it is filled with it. -/
theorem mem_placed (cell : Nat × Nat) (result : Result) :
    (cell, result) ∈ placed rules functions r ↔ Yields rules functions r cell result := by
  obtain ⟨i, k⟩ := cell
  simp only [placed, List.mem_flatMap, List.mem_filterMap, Option.map_eq_some_iff, Prod.exists,
    List.mem_zipIdx_iff_getElem?]
  constructor
  · rintro ⟨rule, i', hrule, name, value, k', hfield, found, hfound, heq⟩
    obtain ⟨⟨rfl, rfl⟩, rfl⟩ := by simpa only [Prod.mk.injEq] using heq
    rw [Rule.resultAt?] at hfound
    split at hfound
    · next hcell =>
      obtain ⟨henabled, hselected⟩ := Bool.and_eq_true_iff.mp hcell
      obtain ⟨outcome, houtcome, rfl⟩ := Option.map_eq_some_iff.mp hfound
      -- under the name of the column stands the value of the column
      rw [Record.get?_of_mem (List.mem_of_getElem? hfield)]
      exact .cell hrule henabled hfield hselected houtcome
    · exact nomatch hfound
  · rintro ⟨hrule, henabled, hfield, hselected, houtcome⟩
    refine ⟨_, i, hrule, _, _, k, hfield, _, ?_, rfl⟩
    rw [Rule.resultAt?, henabled, hselected, result?, houtcome,
      Record.get?_of_mem (List.mem_of_getElem? hfield)]
    rfl

/-- The cells are gone through row by row, and each row from left to right. -/
theorem placed_sorted :
    ((placed rules functions r).map Prod.fst).Pairwise (Prod.Lex (· < ·) (· < ·)) := by
  rw [List.pairwise_map, placed, List.pairwise_flatMap]
  constructor
  · -- within a row the columns ascend
    intro (rule, i) _
    rw [List.pairwise_filterMap]
    refine (zipIdx_ascending r.fields).imp ?_
    intro (field, k) (field', k') hk p hp q hq
    obtain ⟨_, _, rfl⟩ := Option.map_eq_some_iff.mp hp
    obtain ⟨_, _, rfl⟩ := Option.map_eq_some_iff.mp hq
    exact .right i hk
  · -- and the rows ascend
    refine (zipIdx_ascending rules).imp ?_
    intro (rule, i) (rule', i') hi p hp q hq
    obtain ⟨_, _, hp⟩ := List.mem_filterMap.mp hp
    obtain ⟨_, _, hq⟩ := List.mem_filterMap.mp hq
    obtain ⟨_, _, rfl⟩ := Option.map_eq_some_iff.mp hp
    obtain ⟨_, _, rfl⟩ := Option.map_eq_some_iff.mp hq
    exact .left _ _ hi

/-- What the cells of a row are filled with are the results of its rule. -/
theorem map_snd_row (rule : Rule) (patterns : PatternCache) :
    r.fields.zipIdx.filterMap (fun column => rule.resultAt? r patterns functions column.1.1) =
      rule.results r patterns functions := by
  have hnames : r.fields.zipIdx.map (Prod.fst ∘ Prod.fst) = r.names := by
    rw [← List.map_map, List.zipIdx_map_fst, Record.names]
  rw [Rule.results_eq_filterMap, ← hnames, List.filterMap_map]
  rfl

/-- What the cells are filled with are the results of the rule set, in their order. -/
theorem map_snd_placed :
    (placed rules functions r).map Prod.snd = (ofRules rules).results functions r := by
  calc (placed rules functions r).map Prod.snd
    _ = rules.zipIdx.flatMap fun row => row.1.results r (.ofRules rules) functions := by
        rw [placed, List.map_flatMap]
        refine List.flatMap_congr fun row _ => ?_
        rw [List.map_filterMap, ← map_snd_row]
        simp only [Option.map_map, Function.comp_def, Option.map_id']
    _ = (rules.zipIdx.map Prod.fst).flatMap (·.results r (.ofRules rules) functions) := by
        rw [List.flatMap_map]
    _ = (ofRules rules).results functions r := by
        rw [List.zipIdx_map_fst, results_eq_flatMap]

end RuleSet

/-- The results of a validation are in bijection with the filled cells of the grid of rules and
    fields, in lexicographic order of their positions: the filled cells are listed in strictly
    ascending order, and each of the results is what the cell in its place is filled with.  If no
    rule is custom, there are as many results as the enabled rules select fields. -/
theorem Engine.validate_load_grid (e : Engine) (rules : List Rule) (r : Record) :
    (∃ cells : List (Nat × Nat),
      cells.Pairwise (Prod.Lex (· < ·) (· < ·)) ∧
      (∀ cell, cell ∈ cells ↔ ∃ result, RuleSet.Yields rules e.functions r cell result) ∧
      List.Forall₂ (RuleSet.Yields rules e.functions r) cells ((e.load rules).validate r)) ∧
    ((∀ rule ∈ rules, rule.check.isCustom = false) →
      ((e.load rules).validate r).length =
        ((rules.filter (·.enabled)).map fun rule =>
          r.names.countP (Target.ofPattern rule.target).selects).sum) := by
  have hvalidate : (e.load rules).validate r = (RuleSet.ofRules rules).results e.functions r := rfl
  rw [hvalidate]
  constructor
  · refine ⟨(RuleSet.placed rules e.functions r).map Prod.fst,
      RuleSet.placed_sorted rules e.functions r, fun cell => ?_, ?_⟩
    · simp only [List.mem_map, Prod.exists, exists_and_right, exists_eq_right,
        RuleSet.mem_placed]
    · rw [← RuleSet.map_snd_placed, List.forall₂_map_left_iff, List.forall₂_map_right_iff,
        List.forall₂_same]
      exact fun placed hplaced => (RuleSet.mem_placed rules e.functions r _ _).mp hplaced
  · intro hcustom
    rw [RuleSet.results_eq_flatMap, ← Rule.flatMap_results_filter_enabled, List.length_flatMap]
    refine congrArg List.sum (List.map_congr_left fun rule hrule => ?_)
    obtain ⟨hmem, henabled⟩ := List.mem_filter.mp hrule
    -- without custom rules a row has as many filled cells as the rule selects fields
    exact rule.length_results henabled (hcustom rule hmem) r _ e.functions

/-- A rule for every field, a disabled one, one for the fields whose names begin alike, and two
    for fields by their names, of which one is not there. -/
private def contactRules : List Rule :=
  [{ id := "present", name := "Present", check := .completeness { required := true } },
   { id := "unique", name := "Unique", check := .uniqueness {}, enabled := false },
   { id := "present", name := "Number", target := "p*", check := .format {} },
   { id := "phone", name := "Phone", target := "phone", check := .range {} },
   { id := "fax", name := "Fax", target := "fax", check := .range {} }]

/-- A phone number and no pager. -/
private def contactRecord : Record :=
  .ofList [("phone", .text "555-0100"), ("pager", .null)]

/-- Three of the rules have results, two for both fields and one for the phone number. -/
theorem Engine.length_validate_contactRules :
    (∀ rule ∈ contactRules, rule.check.isCustom = false) ∧
    ((({} : Engine).load contactRules).validate contactRecord).length = 5 := by
  have hcustom : ∀ rule ∈ contactRules, rule.check.isCustom = false := by decide
  have hselected : ((contactRules.filter (·.enabled)).map fun rule =>
      contactRecord.names.countP (Target.ofPattern rule.target).selects) = [2, 2, 1, 0] := by
    decide +kernel
  have hlength := (Engine.validate_load_grid {} contactRules contactRecord).2 hcustom
  exact ⟨hcustom, by rw [hlength, hselected]; rfl⟩

end RecordRules
