import RecordRules.Proofs.Check.Question

/-!
# The pattern cache is transparent

A cache is there to save compilations and must not show in any outcome.  The loop that fills a
cache keeps every pattern bound to its own compilation (`Faithful`), so that a pattern that is
found is taken as it would be if it were missing.

## Key results

- `PatternCache.faithful_ofRules`: the cache of any rules is faithful
- `PatternCache.isSome_find?_ofRules`: it holds the patterns of all of the rules
- `PatternCache.Faithful.agrees_empty`: a faithful cache answers as the empty one
- `Rule.outcome?_of_agrees`: outcomes depend on nothing in a cache but its answers
- `Rule.outcome?_ofRules`: the cache of any rules leaves every outcome as it is
-/

namespace RecordRules
namespace PatternCache

/-! ### What the cache holds -/

/-- Every pattern is bound to its own compilation, and a pattern that is missing is compiled. -/
structure Faithful (cache : PatternCache) : Prop where
  bound : ∀ e ∈ cache.entries, e.2 = Regex.compile e.1
  onMiss : ∀ pattern, cache.onMiss pattern = CompiledPattern.answer pattern (Regex.compile pattern)

theorem faithful_empty : empty.Faithful where
  bound _ he := nomatch he
  onMiss _ := rfl

/-- Adding a pattern keeps the cache faithful, whether the pattern compiles or not. -/
theorem Faithful.insert {cache : PatternCache} (h : cache.Faithful) (pattern : String) :
    (cache.insert pattern).Faithful := by
  unfold PatternCache.insert
  split
  · exact h
  · -- the one new entry is a compilation of its own pattern
    refine ⟨fun e he => ?_, h.onMiss⟩
    rcases List.mem_append.mp he with he | he
    · exact h.bound e he
    · rw [List.mem_singleton.mp he]

/-- Adding patterns one after the other keeps the cache faithful. -/
theorem Faithful.foldl_insert {cache : PatternCache} (h : cache.Faithful)
    (patterns : List String) : (patterns.foldl PatternCache.insert cache).Faithful := by
  induction patterns generalizing cache with
  | nil => exact h
  | cons pattern patterns ih => exact ih (h.insert pattern)

/-- The cache of any rules is faithful. -/
theorem faithful_ofRules (rules : List Rule) : (ofRules rules).Faithful :=
  faithful_empty.foldl_insert _

/-- What a faithful cache finds under a pattern is the compilation of that pattern. -/
theorem Faithful.find?_eq {cache : PatternCache} (h : cache.Faithful) {pattern : String}
    {compiled : CompiledPattern} (hfind : cache.find? pattern = some compiled) :
    compiled = Regex.compile pattern := by
  obtain ⟨e, he, rfl⟩ := Option.map_eq_some_iff.mp hfind
  -- the search looks for entries of this pattern only
  have hkey : e.1 = pattern := by simpa using List.find?_some he
  rw [h.bound e (List.mem_of_find?_eq_some he), hkey]

/-- The patterns that a cache holds. -/
def keys (cache : PatternCache) : List String :=
  cache.entries.map Prod.fst

/-- What is found in a cache are its patterns. -/
theorem isSome_find?_iff {cache : PatternCache} {pattern : String} :
    (cache.find? pattern).isSome ↔ pattern ∈ cache.keys := by
  simp [find?, keys, List.mem_map]

/-- A pattern that is there already is passed over, and any other one comes last. -/
theorem keys_insert (cache : PatternCache) (pattern : String) :
    (cache.insert pattern).keys =
      if pattern ∈ cache.keys then cache.keys else cache.keys ++ [pattern] := by
  -- the condition of the insertion is the question whether the pattern is there
  unfold PatternCache.insert
  simp only [isSome_find?_iff]
  split
  · rfl
  · exact List.map_append

/-- Adding a pattern adds no other one, and loses none. -/
theorem isSome_find?_insert (cache : PatternCache) (pattern other : String) :
    ((cache.insert pattern).find? other).isSome ↔ other = pattern ∨ (cache.find? other).isSome := by
  rw [isSome_find?_iff, isSome_find?_iff, keys_insert]
  split
  · next hfound =>
    constructor
    · exact Or.inr
    · rintro (rfl | h)
      · exact hfound
      · exact h
  · rw [List.mem_append, List.mem_singleton, or_comm]

/-- Adding patterns one after the other adds just these. -/
theorem isSome_find?_foldl_insert (cache : PatternCache) (patterns : List String)
    (pattern : String) :
    ((patterns.foldl PatternCache.insert cache).find? pattern).isSome ↔
      pattern ∈ patterns ∨ (cache.find? pattern).isSome := by
  -- the cache grows, so the induction is for all caches
  induction patterns generalizing cache with
  | nil => exact ⟨Or.inr, fun h => h.resolve_left List.not_mem_nil⟩
  | cons first rest ih =>
    rw [List.foldl_cons, ih, isSome_find?_insert, List.mem_cons, or_left_comm, or_assoc]

/-- The cache of rules holds the patterns that the rules ask for, be they enabled or not. -/
theorem isSome_find?_ofRules (rules : List Rule) (pattern : String) :
    ((ofRules rules).find? pattern).isSome ↔ ∃ rule ∈ rules, rule.pattern? = some pattern := by
  rw [ofRules, isSome_find?_foldl_insert, List.mem_filterMap]
  exact or_iff_left nofun

/-! ### What the cache answers -/

/-- Two caches give the same answer about every pattern and every text. -/
def Agrees (a b : PatternCache) : Prop :=
  ∀ pattern text, a.isMatch pattern text = b.isMatch pattern text

/-- A faithful cache answers by the compilation of the pattern, be it in the cache or not. -/
theorem Faithful.isMatch_eq {cache : PatternCache} (h : cache.Faithful) (pattern text : String) :
    cache.isMatch pattern text = CompiledPattern.answer pattern (Regex.compile pattern) text := by
  -- a missing pattern is compiled when it is asked for
  unfold isMatch
  cases hfind : cache.find? pattern with
  | none => simp only [h.onMiss]
  | some compiled => simp only [h.find?_eq hfind]

/-- A faithful cache answers as the empty one. -/
theorem Faithful.agrees_empty {cache : PatternCache} (h : cache.Faithful) :
    cache.Agrees empty := by
  intro pattern text
  rw [h.isMatch_eq, faithful_empty.isMatch_eq]

end PatternCache

/-! ### What outcomes depend on -/

/-- The outcome of a rule depends on nothing in the cache but its answers. -/
theorem Rule.outcome?_of_agrees {a b : PatternCache} (h : a.Agrees b) (rule : Rule) (name : String)
    (r : Record) (functions : Registry) :
    rule.outcome? name r a functions = rule.outcome? name r b functions :=
  Rule.outcome?_of_answers (fun pattern text _ => h pattern text) functions

/-- The cache is transparent: whatever rules it was filled from, every rule has the outcome that
    it has without a cache, messages about patterns that do not compile included. -/
theorem Rule.outcome?_ofRules (rules : List Rule) (rule : Rule) (name : String) (r : Record)
    (functions : Registry) :
    rule.outcome? name r (.ofRules rules) functions = rule.outcome? name r .empty functions :=
  rule.outcome?_of_agrees (PatternCache.faithful_ofRules rules).agrees_empty name r functions

end RecordRules
