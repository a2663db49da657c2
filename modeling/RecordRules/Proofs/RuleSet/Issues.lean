import RecordRules.Engine
import RecordRules.Issue
import RecordRules.Proofs.Check.Message
import RecordRules.Proofs.RuleSet.Composition

/-!
# Rules without issues are sound

Issues of rules are looked for without a record, through the patterns that are known of the rules
and the cache of those.  Rules without issues never come to an outcome that is about themselves
and not about the record: none of their results says that a type of rule is unknown or that a
pattern does not compile, and their targets can be used.

## Key results

- `Issue.ofRules_eq_nil_iff`: rules have no issues exactly when each of them is sound
- `Rule.headedBy_of_isSound`: the messages of a sound rule begin with the headings of its check
- `Engine.validate_load_of_noIssues`: results of rules without issues are not about the rules
-/

namespace RecordRules

/-- A rule that nothing is wrong with. -/
structure Rule.IsSound (rule : Rule) : Prop where
  /-- The type is one of those that there are. -/
  known : ∀ ruleType j, rule.check ≠ .unknown ruleType j
  /-- The pattern compiles, if there is one. -/
  compiles : ∀ pattern, rule.pattern? = some pattern → ∃ regex, Regex.compile pattern = .ok regex
  /-- The target is not too long to be used. -/
  usable : Target.ofPattern rule.target ≠ .invalid

/-! ### What is no issue -/

namespace Flaw

/-- A check has no flawed type exactly if its type is one of those that there are. -/
theorem ofType?_eq_none_iff {c : Check} :
    ofType? c = none ↔ ∀ ruleType j, c ≠ .unknown ruleType j := by
  cases c with
  | unknown ruleType j => exact ⟨nofun, fun h => absurd rfl (h ruleType j)⟩
  | format c | range c | completeness c | uniqueness c | crossField c | custom c =>
    exact ⟨fun _ _ _ => nofun, fun _ => rfl⟩

/-- The cache of rules has a message about the pattern of one of them exactly when the pattern does
    not compile. -/
theorem ofPattern?_eq_none_iff {rules : List Rule} {rule : Rule} (hrule : rule ∈ rules) :
    ofPattern? (.ofRules rules) rule = none ↔
      ∀ pattern, rule.pattern? = some pattern → ∃ regex, Regex.compile pattern = .ok regex := by
  unfold ofPattern?
  rw [Option.map_eq_none_iff, Option.bind_eq_none_iff]
  refine forall₂_congr fun pattern hpattern => ?_
  -- the cache holds the compilation of the pattern
  obtain ⟨compiled, hfind⟩ := Option.isSome_iff_exists.mp
    ((PatternCache.isSome_find?_ofRules rules pattern).mpr ⟨rule, hrule, hpattern⟩)
  obtain rfl := (PatternCache.faithful_ofRules rules).find?_eq hfind
  unfold PatternCache.faultMessage?
  rw [hfind]
  cases Regex.compile pattern with
  | ok regex => exact ⟨fun _ => ⟨regex, rfl⟩, fun _ => rfl⟩
  | error refusal => exact ⟨nofun, fun ⟨_, h⟩ => nomatch h⟩

/-- A rule has no flawed target exactly if its target can be used. -/
theorem ofTarget?_eq_none_iff {rule : Rule} :
    ofTarget? rule = none ↔ Target.ofPattern rule.target ≠ .invalid := by
  unfold ofTarget?
  split
  · next h => exact ⟨nofun, fun hne => absurd h hne⟩
  · next h => exact ⟨fun _ => h, fun _ => rfl⟩

/-- Among the rules of a rule set, those without flaws are the sound ones. -/
theorem ofRule_eq_nil_iff {rules : List Rule} {rule : Rule} (hrule : rule ∈ rules) :
    ofRule (.ofRules rules) rule = [] ↔ rule.IsSound := by
  -- there are three places to look for a flaw
  have hnone : ofRule (.ofRules rules) rule = [] ↔
      ofType? rule.check = none ∧ ofPattern? (.ofRules rules) rule = none ∧
        ofTarget? rule = none := by
    simp [ofRule, List.filterMap_eq_nil_iff]
  rw [hnone, ofType?_eq_none_iff, ofPattern?_eq_none_iff hrule, ofTarget?_eq_none_iff]
  exact ⟨fun ⟨known, compiles, usable⟩ => ⟨known, compiles, usable⟩,
    fun ⟨known, compiles, usable⟩ => ⟨known, compiles, usable⟩⟩

end Flaw

/-- Rules have no issues exactly when nothing is wrong with any of them. -/
theorem Issue.ofRules_eq_nil_iff (rules : List Rule) :
    ofRules rules = [] ↔ ∀ rule ∈ rules, rule.IsSound := by
  show (rules.flatMap fun rule => (Flaw.ofRule (.ofRules rules) rule).map _) = [] ↔ _
  rw [List.flatMap_eq_nil_iff]
  -- a rule has no issues if it has no flaws
  refine forall₂_congr fun rule hrule => ?_
  rw [List.map_eq_nil_iff, Flaw.ofRule_eq_nil_iff hrule]

/-! ### What sound rules say -/

/-- How messages about flaws of rules begin. -/
def Flaw.headings : List String := ["Unknown rule type: ", "Invalid format pattern "]

/-- Whether no message can begin both with a heading and as one about a flaw. -/
def Flaw.isApart (heading : String) : Bool :=
  headings.all fun flaw => !Text.startsWith heading flaw && !Text.startsWith flaw heading

/-- The headings of checks of known types are apart from those of messages about flaws. -/
theorem Check.headings_apart {c : Check} (h : ∀ ruleType j, c ≠ .unknown ruleType j) :
    ∀ heading ∈ c.headings, Flaw.isApart heading = true := by
  -- the headings are few and fixed, so each is compared with those about flaws
  have hvalue : ∀ heading ∈ ["Value '", "Value "], Flaw.isApart heading = true := by decide
  have hfields : ∀ heading ∈ CompletenessCheck.headings ++ BusinessRule.headings,
      Flaw.isApart heading = true := by decide
  have hcross : ∀ heading ∈ ["Field '", "Comparison '", "Condition "],
      Flaw.isApart heading = true := by decide
  intro heading hmem
  match c with
  | format _ | uniqueness _ | range _ => exact hvalue heading (by simp_all [headings])
  | completeness _ => exact hfields heading (List.mem_append_left _ hmem)
  | crossField (.business _) => exact hfields heading (List.mem_append_right _ hmem)
  | crossField (.conditional _) | crossField (.dependency _) | crossField (.comparison _)
  | crossField (.textual _) => exact hcross heading (by simp_all [headings])
  | custom _ => exact nomatch hmem
  | unknown ruleType j => exact absurd rfl (h ruleType j)

namespace Rule

variable {rule : Rule}

/-- The cache of rules has an answer about the pattern of a sound rule. -/
theorem IsSound.answers (h : rule.IsSound) (rules : List Rule) :
    (PatternCache.ofRules rules).Answers rule.pattern? := by
  intro pattern hpattern text
  obtain ⟨regex, hcompile⟩ := h.compiles pattern hpattern
  refine ⟨regex.isMatch text, ?_⟩
  rw [(PatternCache.faithful_ofRules rules).isMatch_eq, hcompile]
  rfl

/-- The messages of a sound rule that is not custom begin with the headings of its check. -/
theorem headedBy_of_isSound (h : rule.IsSound) (hcustom : rule.check.isCustom = false)
    {rules : List Rule} {r : Record} {functions : Registry} {result : Result}
    (hresult : result ∈ rule.results r (.ofRules rules) functions) :
    HeadedBy rule.check.headings result.message := by
  obtain ⟨_, field, _, _, hfield⟩ := mem_results.mp hresult
  -- the message of a result is that of an outcome
  obtain ⟨outcome, houtcome, rfl⟩ := Option.map_eq_some_iff.mp hfield
  exact Check.headedBy_headings hcustom (h.answers rules) houtcome

/-- No message of a sound rule begins as one about a flaw. -/
theorem startsWith_flaw_of_isSound (h : rule.IsSound) (hcustom : rule.check.isCustom = false)
    {rules : List Rule} {r : Record} {functions : Registry} {result : Result}
    (hresult : result ∈ rule.results r (.ofRules rules) functions) {message flaw : String}
    (hmessage : result.message = some message) (hflaw : flaw ∈ Flaw.headings) :
    Text.startsWith message flaw = false := by
  obtain ⟨heading, hmem, hstart⟩ := headedBy_of_isSound h hcustom hresult message hmessage
  have hapart := List.all_eq_true.mp (Check.headings_apart h.known heading hmem) flaw hflaw
  simp only [Bool.and_eq_true, Bool.not_eq_true'] at hapart
  by_contra hnot
  -- one of two beginnings of a text begins with the other
  rcases Text.startsWith_or_startsWith hstart ((Bool.not_eq_false _).mp hnot) with hs | hs
  · exact Bool.false_ne_true (hapart.1.symm.trans hs)
  · exact Bool.false_ne_true (hapart.2.symm.trans hs)

end Rule

/-- Results by rules without issues are about the record.  Every rule has a known type, a pattern
    that compiles if it has one, and a target that can be used; and of the results of the rules that
    are not custom none has a message about an unknown type of rule or about a faulty pattern. -/
theorem Engine.validate_load_of_noIssues (e : Engine) (rules : List Rule)
    (h : Issue.ofRules rules = []) (r : Record) :
    (∀ rule ∈ rules, rule.IsSound) ∧
    (e.load rules).validate r = rules.flatMap (·.results r (.ofRules rules) e.functions) ∧
    ∀ rule ∈ rules, rule.check.isCustom = false →
      ∀ result ∈ rule.results r (.ofRules rules) e.functions,
      ∀ message, result.message = some message →
        Text.startsWith message "Unknown rule type: " = false ∧
        Text.startsWith message "Invalid format pattern " = false := by
  have hsound : ∀ rule ∈ rules, rule.IsSound := (Issue.ofRules_eq_nil_iff rules).mp h
  refine ⟨hsound, RuleSet.results_eq_flatMap rules e.functions r, ?_⟩
  intro rule hrule hcustom result hresult message hmessage
  -- every heading about a flaw is excluded in the same way
  have hstart {flaw : String} (hflaw : flaw ∈ Flaw.headings) :
      Text.startsWith message flaw = false :=
    Rule.startsWith_flaw_of_isSound (hsound rule hrule) hcustom hresult hmessage hflaw
  exact ⟨hstart (by decide), hstart (by decide)⟩

/-- Codes are numbers, and so are those of deliveries that are made abroad. -/
private def codeRules : List Rule :=
  [{ id := "code", name := "Code", target := "zip code"
     check := .format { pattern := "^[0-9]+$" } },
   { id := "abroad", name := "Abroad", target := "country", check := .crossField <| .conditional
      { conditionField := "country", conditionOperator := .notEquals
        conditionValue := some (.text "FR"), targetField := "zip code"
        targetCondition := some { kind := some .format, pattern := "^[0-9]+$" } } }]

/-- A delivery abroad with a code that is no number. -/
private def codeRecord : Record :=
  .ofList [("country", .text "NL"), ("zip code", .text "1017 XN")]

/-- Both patterns are tried on the code, and both results are about the code. -/
theorem Engine.validate_load_codeRules :
    Issue.ofRules codeRules = [] ∧ (∀ rule ∈ codeRules, rule.IsSound) ∧
    ((({} : Engine).load codeRules).validate codeRecord).map (·.message) =
      [some "Value '1017 XN' does not match required format pattern",
       some "Field 'zip code' does not match required format when 'country' notEquals 'FR'"] := by
  have hissues : Issue.ofRules codeRules = [] := by decide +kernel
  exact ⟨hissues, (Engine.validate_load_of_noIssues {} codeRules hissues codeRecord).1,
    by decide +kernel⟩

end RecordRules
