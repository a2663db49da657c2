import Mathlib.Data.Finset.Card
import RecordRules.Proofs.PatternCache

/-!
# The contents of a pattern cache

The loop that fills a cache passes over a pattern that it has met before.  So each pattern that one
of the rules asks for stands in the cache once, next to its own compilation, and nothing else stands
there.  How often and in which order the rules ask for it does not matter.

## Key results

- `PatternCache.nodup_keys_ofRules`: no pattern stands in a cache twice
- `PatternCache.mem_entries_ofRules`, `PatternCache.find?_ofRules_eq_some_iff`: what stands there,
  and where it is found
- `PatternCache.sameContents_ofRules`: rules that ask for the same patterns have the same cache
- `PatternCache.holds_each_pattern_once`: all of it
-/

namespace RecordRules.PatternCache

/-! ### No pattern twice -/

/-- Adding a pattern keeps the patterns distinct. -/
theorem nodup_keys_insert {cache : PatternCache} (h : cache.keys.Nodup) (pattern : String) :
    (cache.insert pattern).keys.Nodup := by
  rw [keys_insert]
  split
  · exact h
  · next hmissing => exact List.nodup_append_comm.mp (List.nodup_cons.mpr ⟨hmissing, h⟩)

theorem nodup_keys_foldl_insert {cache : PatternCache} (h : cache.keys.Nodup)
    (patterns : List String) : (patterns.foldl insert cache).keys.Nodup := by
  -- the step is the lemma before, for the cache that has grown so far
  induction patterns generalizing cache with
  | nil => exact h
  | cons pattern patterns ih => exact ih (nodup_keys_insert h pattern)

/-- No pattern stands in the cache of any rules twice. -/
theorem nodup_keys_ofRules (rules : List Rule) : (ofRules rules).keys.Nodup := by
  have hempty : empty.keys.Nodup := List.nodup_nil
  exact nodup_keys_foldl_insert hempty _

/-! ### Which patterns, and with what -/

/-- A faithful cache holds its patterns with their own compilations, and nothing else. -/
theorem Faithful.mem_entries_iff {cache : PatternCache} (h : cache.Faithful) {pattern : String}
    {compiled : CompiledPattern} :
    (pattern, compiled) ∈ cache.entries ↔
      pattern ∈ cache.keys ∧ compiled = Regex.compile pattern := by
  constructor
  · intro hentry
    exact ⟨List.mem_map.mpr ⟨_, hentry, rfl⟩, h.bound _ hentry⟩
  -- the entry of the pattern has some compilation, and it can only be its own
  · rintro ⟨hkey, rfl⟩
    obtain ⟨⟨pattern, compiled⟩, hentry, rfl⟩ := List.mem_map.mp hkey
    obtain rfl : compiled = Regex.compile pattern := h.bound _ hentry
    exact hentry

/-- What is found in a faithful cache is what stands in it. -/
theorem Faithful.find?_eq_some_iff {cache : PatternCache} (h : cache.Faithful) {pattern : String}
    {compiled : CompiledPattern} :
    cache.find? pattern = some compiled ↔
      pattern ∈ cache.keys ∧ compiled = Regex.compile pattern := by
  rw [← isSome_find?_iff]
  constructor
  · intro hfind
    exact ⟨Option.isSome_of_eq_some hfind, h.find?_eq hfind⟩
  · rintro ⟨hsome, rfl⟩
    obtain ⟨compiled, hfind⟩ := Option.isSome_iff_exists.mp hsome
    rw [hfind, h.find?_eq hfind]

variable {rules others : List Rule} {pattern : String} {compiled : CompiledPattern}

/-- The patterns of the cache are those that one of the rules asks for. -/
theorem mem_keys_ofRules :
    pattern ∈ (ofRules rules).keys ↔ ∃ rule ∈ rules, rule.pattern? = some pattern := by
  rw [← isSome_find?_iff, isSome_find?_ofRules]

/-- What stands in the cache of rules. -/
theorem mem_entries_ofRules :
    (pattern, compiled) ∈ (ofRules rules).entries ↔
      (∃ rule ∈ rules, rule.pattern? = some pattern) ∧ compiled = Regex.compile pattern := by
  rw [(faithful_ofRules rules).mem_entries_iff, mem_keys_ofRules]

/-- What is found in the cache of rules. -/
theorem find?_ofRules_eq_some_iff :
    (ofRules rules).find? pattern = some compiled ↔
      (∃ rule ∈ rules, rule.pattern? = some pattern) ∧ compiled = Regex.compile pattern := by
  rw [(faithful_ofRules rules).find?_eq_some_iff, mem_keys_ofRules]

/-- There is a message about a pattern if rules ask for it and it does not compile. -/
theorem faultMessage?_ofRules_eq_some_iff {message : String} :
    (ofRules rules).faultMessage? pattern = some message ↔
      (∃ rule ∈ rules, rule.pattern? = some pattern) ∧
        ∃ refusal, Regex.compile pattern = .error refusal ∧ refusal.message pattern = message := by
  unfold faultMessage?
  -- a message comes from an entry with a refusal, and from no other
  split
  · next refusal hfind =>
    obtain ⟨hasked, hcompile⟩ := find?_ofRules_eq_some_iff.mp hfind
    simp [hasked, ← hcompile]
  · next hother =>
    refine iff_of_false nofun ?_
    rintro ⟨hasked, refusal, hcompile, -⟩
    exact hother refusal (find?_ofRules_eq_some_iff.mpr ⟨hasked, hcompile.symm⟩)

/-- The cache has the size of the set of patterns that the rules ask for. -/
theorem size_ofRules (rules : List Rule) :
    (ofRules rules).size = (rules.filterMap Rule.pattern?).toFinset.card := by
  -- the keys are distinct, so that counting them counts a set
  have hkeys : (ofRules rules).keys.toFinset = (rules.filterMap Rule.pattern?).toFinset := by
    ext pattern
    simp [mem_keys_ofRules]
  rw [← hkeys, List.toFinset_card_of_nodup (nodup_keys_ofRules rules)]
  exact (List.length_map Prod.fst).symm

/-! ### Neither order nor repetition -/

/-- Two caches hold the same patterns with the same compilations, in any order. -/
structure SameContents (a b : PatternCache) : Prop where
  entries : a.entries.Perm b.entries
  find? (pattern : String) : a.find? pattern = b.find? pattern

/-- Rules that ask for the same patterns have the same cache. -/
theorem sameContents_ofRules
    (h : ∀ pattern, (∃ rule ∈ others, rule.pattern? = some pattern) ↔
      ∃ rule ∈ rules, rule.pattern? = some pattern) :
    (ofRules others).SameContents (ofRules rules) where
  entries := by
    -- lists without repetition are permutations when they have the same elements
    have hnodup (rules : List Rule) : (ofRules rules).entries.Nodup :=
      List.Nodup.of_map _ (nodup_keys_ofRules rules)
    rw [List.perm_ext_iff_of_nodup (hnodup others) (hnodup rules)]
    rintro ⟨pattern, compiled⟩
    rw [mem_entries_ofRules, mem_entries_ofRules, h]
  find? pattern := by
    apply Option.ext
    intro compiled
    rw [find?_ofRules_eq_some_iff, find?_ofRules_eq_some_iff, h]

/-- The cache of rules is exact.  It holds each pattern that one of the rules asks for, enabled or
    not, once and with its own compilation, so that it has the size of the set of these patterns.
    It has a message about those of them that do not compile, and about no others.  Rules in another
    order, or given more often, have the same cache. -/
theorem holds_each_pattern_once (rules : List Rule) :
    (ofRules rules).keys.Nodup ∧
    (∀ pattern compiled, (pattern, compiled) ∈ (ofRules rules).entries ↔
      (∃ rule ∈ rules, rule.pattern? = some pattern) ∧ compiled = Regex.compile pattern) ∧
    (ofRules rules).size = (rules.filterMap Rule.pattern?).toFinset.card ∧
    (∀ pattern message, (ofRules rules).faultMessage? pattern = some message ↔
      (∃ rule ∈ rules, rule.pattern? = some pattern) ∧
        ∃ refusal, Regex.compile pattern = .error refusal ∧ refusal.message pattern = message) ∧
    ∀ others : List Rule, (∀ rule, rule ∈ others ↔ rule ∈ rules) →
      (ofRules others).SameContents (ofRules rules) := by
  refine ⟨nodup_keys_ofRules rules, fun _ _ => mem_entries_ofRules, size_ofRules rules,
    fun _ _ => faultMessage?_ofRules_eq_some_iff, fun others hsame => ?_⟩
  refine sameContents_ofRules fun pattern => ?_
  simp only [hsame]

/-- A rule that is not enabled, with a pattern that does not compile. -/
private def openGroup : Rule :=
  { id := "group", name := "Group", check := .format { pattern := "(" }, enabled := false }

private def zipCode : Rule :=
  { id := "zip", name := "Zip", check := .format { pattern := "^[0-9]+$" } }

/-- Two patterns are two entries, also where the one that does not compile is given twice. -/
theorem holds_each_pattern_once_openGroup :
    (∀ rule, rule ∈ [openGroup, zipCode, openGroup] ↔ rule ∈ [zipCode, openGroup]) ∧
      (ofRules [openGroup, zipCode, openGroup]).SameContents (ofRules [zipCode, openGroup]) ∧
      (ofRules [openGroup, zipCode, openGroup]).size = 2 := by
  have hsame (rule : Rule) :
      rule ∈ [openGroup, zipCode, openGroup] ↔ rule ∈ [zipCode, openGroup] := by
    simp only [List.mem_cons, List.not_mem_nil, or_false]
    tauto
  obtain ⟨-, -, -, -, hcontents⟩ := holds_each_pattern_once [zipCode, openGroup]
  obtain ⟨-, -, hsize, -, -⟩ := holds_each_pattern_once [openGroup, zipCode, openGroup]
  exact ⟨hsame, hcontents _ hsame, hsize.trans (by decide)⟩

end RecordRules.PatternCache
