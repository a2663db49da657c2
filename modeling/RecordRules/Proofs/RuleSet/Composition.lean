import Mathlib.Data.List.Basic
import RecordRules.Engine
import RecordRules.Proofs.PatternCache
import RecordRules.Proofs.Target

/-!
# Rule sets compose

A rule set shares the compiled patterns of all its rules, so that a rule is evaluated with
patterns of its neighbours and of disabled rules at hand.  Since the cache is transparent, every
rule has nevertheless the results that it has on its own, and those of a rule set are the
results of its rules, one after the other.

## Key results

- `Rule.mem_results`: a rule has a result for each field that it is aimed at and does not skip
- `RuleSet.results_withPatterns`: whatever patterns are shared, the results are those of the rules
- `RuleSet.results_eq_flatMap`: so they are with the patterns of the rules themselves
- `RuleSet.results_ofRules`: no rule needs the patterns of the others
- `Engine.validate_load_composes`: loading two lists at once gives the results of both, and
  disabled rules add nothing but patterns
-/

namespace RecordRules

/-! ### The results of one rule -/

namespace Rule

/-- The results of a rule for a record: one for each field that it is aimed at, unless the rule
    is disabled or skips the field. -/
def results (rule : Rule) (r : Record) (patterns : PatternCache) (functions : Registry) :
    List Result :=
  if rule.enabled then
    ((Target.ofPattern rule.target).resolve r).filterMap (RuleSet.result? rule r patterns functions)
  else []

/-- The results of a rule that is enabled are its outcomes for the fields that it is aimed at. -/
theorem mem_results {rule : Rule} {r : Record} {patterns : PatternCache} {functions : Registry}
    {result : Result} :
    result ∈ rule.results r patterns functions ↔
      rule.enabled = true ∧ ∃ field ∈ r.names, (Target.ofPattern rule.target).selects field = true ∧
        RuleSet.result? rule r patterns functions field = some result := by
  -- a disabled rule has no results, and so nothing to be said of them
  unfold results
  split
  · next henabled =>
    simp only [henabled, true_and, List.mem_filterMap, Target.resolve_eq_filter, List.mem_filter,
      and_assoc]
  · next hdisabled =>
    constructor
    · intro h
      exact absurd h List.not_mem_nil
    · rintro ⟨henabled, -⟩
      exact absurd henabled hdisabled

/-- The results of a rule depend on nothing in the cache but the answers to its questions. -/
theorem results_of_answers {a b : PatternCache} {rule : Rule} {r : Record}
    (h : ∀ name, a.AgreeOn b (rule.question? name r)) (functions : Registry) :
    rule.results r a functions = rule.results r b functions := by
  -- the outcome is all that a result has from the cache
  have hresult : RuleSet.result? rule r a functions = RuleSet.result? rule r b functions := by
    funext field
    rw [RuleSet.result?, outcome?_of_answers (h field), RuleSet.result?]
  rw [results, hresult, results]

/-- Rules that are disabled have no results. -/
theorem flatMap_results_filter_enabled (rules : List Rule) (r : Record) (patterns : PatternCache)
    (functions : Registry) :
    (rules.filter (·.enabled)).flatMap (·.results r patterns functions) =
      rules.flatMap (·.results r patterns functions) := by
  induction rules with
  | nil => rfl
  | cons rule rules ih =>
    rw [List.flatMap_cons, ← ih]
    -- a disabled rule is left out on one side, and adds nothing on the other
    by_cases henabled : rule.enabled
    · rw [List.filter_cons_of_pos henabled, List.flatMap_cons]
    · rw [List.filter_cons_of_neg henabled, results, if_neg henabled, List.nil_append]

end Rule

/-! ### The results of a rule set -/

namespace RuleSet

/-- Whatever patterns the rules of a rule set share, its results are those of its rules in order. -/
theorem results_withPatterns (rules : List Rule) (patterns : PatternCache) (functions : Registry)
    (r : Record) :
    { ofRules rules with patterns := patterns }.results functions r =
      rules.flatMap (·.results r patterns functions) := by
  calc { ofRules rules with patterns := patterns }.results functions r
    _ = (rules.filter (·.enabled)).flatMap fun rule =>
          ((Target.ofPattern rule.target).resolve r).filterMap
            (result? rule r patterns functions) := by
        rw [results, enabled, ofRules, List.filter_map, List.flatMap_map]
        rfl
    _ = (rules.filter (·.enabled)).flatMap (·.results r patterns functions) := by
        refine List.flatMap_congr fun rule hrule => ?_
        rw [Rule.results, if_pos (List.mem_filter.mp hrule).2]
    _ = rules.flatMap (·.results r patterns functions) :=
        Rule.flatMap_results_filter_enabled ..

/-- The results of a rule set are those of its rules in order, all with the same patterns. -/
theorem results_eq_flatMap (rules : List Rule) (functions : Registry) (r : Record) :
    (ofRules rules).results functions r =
      rules.flatMap (·.results r (.ofRules rules) functions) :=
  results_withPatterns rules (.ofRules rules) functions r

/-- Every rule of a rule set has the results that it has without any compiled pattern. -/
theorem results_ofRules (rules : List Rule) (functions : Registry) (r : Record) :
    (ofRules rules).results functions r = rules.flatMap (·.results r .empty functions) := by
  -- the shared cache answers like the empty one
  have hagrees : (PatternCache.ofRules rules).Agrees .empty :=
    (PatternCache.faithful_ofRules rules).agrees_empty
  rw [results_eq_flatMap]
  exact List.flatMap_congr fun rule _ =>
    Rule.results_of_answers (fun _ pattern text _ => hagrees pattern text) functions

end RuleSet

/-- Loading two lists of rules one behind the other gives the results of the first, and behind
    them those of the second.  Disabled rules may be left out: they have a part in the compiled
    patterns, which are those of all rules, but none in the results. -/
theorem Engine.validate_load_composes (e : Engine) (rules rules' : List Rule) (r : Record) :
    (e.load (rules ++ rules')).validate r =
      (e.load rules).validate r ++ (e.load rules').validate r ∧
    (e.load (rules.filter (·.enabled))).validate r = (e.load rules).validate r ∧
    ∀ pattern, ((e.load rules).ruleSet.patterns.find? pattern).isSome ↔
      ∃ rule ∈ rules, rule.pattern? = some pattern := by
  -- without the cache the results are those of the rules, each on its own
  have hvalidate (rules : List Rule) :
      (e.load rules).validate r = rules.flatMap (·.results r .empty e.functions) :=
    RuleSet.results_ofRules rules e.functions r
  refine ⟨?_, ?_, PatternCache.isSome_find?_ofRules rules⟩
  · rw [hvalidate, hvalidate, hvalidate, List.flatMap_append]
  · rw [hvalidate, hvalidate, Rule.flatMap_results_filter_enabled]

end RecordRules
