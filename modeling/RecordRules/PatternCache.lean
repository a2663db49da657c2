import RecordRules.Regex.Basic
import RecordRules.Rule.Basic

/-! # The patterns of a rule set

Patterns are compiled once, when a rule set is loaded.  A pattern that does not compile is
kept with its refusal, so that every record meets the same message.

* `PatternCache.ofRules`   the patterns that the rules will ask for
* `PatternCache.isMatch`   whether a pattern matches a text -/

namespace RecordRules

/-- What compiling a pattern gives. -/
abbrev CompiledPattern := Except Regex.Refusal Regex

/-- Whether a compiled pattern matches anywhere in a text, or the message about the pattern. -/
def CompiledPattern.answer (pattern : String) (compiled : CompiledPattern) (text : String) :
    Except String Bool :=
  match compiled with
  | .ok regex => .ok (regex.isMatch text)
  | .error refusal => .error (refusal.message pattern)

/-- Compiled patterns by their text. -/
structure PatternCache where
  entries : List (String × CompiledPattern) := []
  /-- What is answered about a pattern that was not compiled before, and a text. -/
  onMiss : String → String → Except String Bool :=
    fun pattern => CompiledPattern.answer pattern (Regex.compile pattern)

/-- The pattern that a check will ask a cache for. -/
def Check.pattern? : Check → Option String
  | .format c => c.pattern
  | .crossField (.conditional c) =>
    match c.targetCondition with
    | some demand => if demand.kind = some .format then demand.pattern else none
    | none => none
  | _ => none

/-- The pattern that a rule will ask a cache for. -/
def Rule.pattern? (r : Rule) : Option String :=
  r.check.pattern?

namespace PatternCache

/-- A cache without patterns. -/
def empty : PatternCache := {}

/-- The compiled form of a pattern, if the cache holds it. -/
def find? (cache : PatternCache) (pattern : String) : Option CompiledPattern :=
  (cache.entries.find? (·.1 = pattern)).map Prod.snd

/-- Adds a pattern that the cache does not hold yet. -/
def insert (cache : PatternCache) (pattern : String) : PatternCache :=
  if (cache.find? pattern).isSome then cache
  else { cache with entries := cache.entries ++ [(pattern, Regex.compile pattern)] }

/-- The patterns of rules, whether the rules are enabled or not. -/
def ofRules (rules : List Rule) : PatternCache :=
  (rules.filterMap Rule.pattern?).foldl insert empty

/-- How many patterns there are. -/
def size (cache : PatternCache) : Nat :=
  cache.entries.length

/-- The message about a pattern in the cache that does not compile. -/
def faultMessage? (cache : PatternCache) (pattern : String) : Option String :=
  match cache.find? pattern with
  | some (.error refusal) => some (refusal.message pattern)
  | _ => none

/-- Whether a pattern matches anywhere in a text, or the message about the pattern. -/
def isMatch (cache : PatternCache) (pattern text : String) : Except String Bool :=
  match cache.find? pattern with
  | some compiled => compiled.answer pattern text
  | none => cache.onMiss pattern text

end PatternCache
end RecordRules
