import RecordRules.Proofs.RuleSet.Composition

/-!
# Validation compiles no pattern

The patterns of rules are compiled when the rules are loaded.  A rule asks the cache about its own
pattern only, and the cache holds the patterns of all rules of its rule set.  So no validation gets
to a pattern that is missing, and whatever would be answered about such a pattern does not matter.

## Key results

- `Rule.isSome_find?_of_question?`: a rule of a rule set asks about patterns that its cache holds
- `Engine.validate_load_compiles_nothing`: the answers about missing patterns are never asked for
-/

namespace RecordRules

namespace PatternCache

/-- The cache with another answer about the patterns that it does not hold. -/
def withMiss (cache : PatternCache) (miss : String → String → Except String Bool) : PatternCache :=
  { cache with onMiss := miss }

/-- The answer about a pattern that the cache holds stays the same. -/
theorem isMatch_withMiss {cache : PatternCache} {pattern : String}
    (h : (cache.find? pattern).isSome) (miss : String → String → Except String Bool)
    (text : String) : (cache.withMiss miss).isMatch pattern text = cache.isMatch pattern text := by
  obtain ⟨compiled, hfind⟩ := Option.isSome_iff_exists.mp h
  -- the entries are the same, so the pattern is found in either cache
  have hmiss : (cache.withMiss miss).find? pattern = some compiled := hfind
  simp only [isMatch, hfind, hmiss]

end PatternCache

/-- The engine with another answer about the patterns that its cache does not hold. -/
def Engine.withMiss (e : Engine) (miss : String → String → Except String Bool) : Engine :=
  { e with ruleSet := { e.ruleSet with patterns := e.ruleSet.patterns.withMiss miss } }

namespace Rule

variable {rules : List Rule} {rule : Rule}

/-- Whatever a rule asks its cache about has been compiled with the rules. -/
theorem isSome_find?_of_question? (hrule : rule ∈ rules) {name : String} {r : Record}
    {pattern text : String} (h : rule.question? name r = some (pattern, text)) :
    ((PatternCache.ofRules rules).find? pattern).isSome :=
  (PatternCache.isSome_find?_ofRules rules pattern).mpr ⟨rule, hrule, pattern?_of_question? h⟩

/-- A rule has the same results, whatever would be answered about missing patterns. -/
theorem results_withMiss (hrule : rule ∈ rules) (miss : String → String → Except String Bool)
    (r : Record) (functions : Registry) :
    rule.results r ((PatternCache.ofRules rules).withMiss miss) functions =
      rule.results r (.ofRules rules) functions := by
  refine results_of_answers (fun name pattern text hquestion => ?_) functions
  exact PatternCache.isMatch_withMiss (isSome_find?_of_question? hrule hquestion) miss text

end Rule

/-- Validating a record by the rules that were loaded compiles no pattern.  All that an outcome
    has from the cache is the answer to the question of its rule, the cache holds the pattern of
    every such question, and so the results are the same, whatever would be answered about patterns
    that are missing. -/
theorem Engine.validate_load_compiles_nothing (e : Engine) (rules : List Rule) (r : Record) :
    (∀ (rule : Rule) (name : String) (a b : PatternCache), a.AgreeOn b (rule.question? name r) →
      rule.outcome? name r a e.functions = rule.outcome? name r b e.functions) ∧
    (∀ rule ∈ rules, ∀ name pattern text, rule.question? name r = some (pattern, text) →
      ((e.load rules).ruleSet.patterns.find? pattern).isSome) ∧
    ∀ miss : String → String → Except String Bool,
      ((e.load rules).withMiss miss).validate r = (e.load rules).validate r := by
  refine ⟨fun rule name a b h => Rule.outcome?_of_answers h e.functions, ?_, fun miss => ?_⟩
  · intro rule hrule name pattern text hquestion
    exact Rule.isSome_find?_of_question? hrule hquestion
  -- rule by rule nothing changes, since each asks about patterns that are there
  · calc ((e.load rules).withMiss miss).validate r
      _ = rules.flatMap (·.results r ((PatternCache.ofRules rules).withMiss miss) e.functions) :=
          RuleSet.results_withPatterns rules _ e.functions r
      _ = rules.flatMap (·.results r (.ofRules rules) e.functions) :=
          List.flatMap_congr fun rule hrule => rule.results_withMiss hrule miss r e.functions
      _ = (e.load rules).validate r :=
          (RuleSet.results_eq_flatMap rules e.functions r).symm

end RecordRules
