import RecordRules.Proofs.Check.OperatorSearch
import RecordRules.Proofs.RuleSet.Issues

/-!
# Conditions that cannot be read

A condition that is written as text is read again for every record.  What may be wrong with the
text is said here without reading it: it is without an operator, nothing follows the operator that
is found, or what follows is a reference that does not end or has no name.  A check with such a
text fails on every field of every record, while the search for issues does not look at conditions
at all: rules without issues may fail in this way, and then on everything that they are aimed at.

## Key results

- `Condition.parse_eq_error_iff`: what is wrong with texts that are no conditions
- `Rule.results_of_isBroken`: a rule with such a text fails on every field that it is aimed at
- `Issue.ofRules_mapCondition`: issues do not depend on conditions
- `Engine.validate_load_conditionErrors`: which results of rules without issues are about a text
  that is no condition
- `Engine.noIssues_with_conditionErrors`: there are such results
-/

namespace RecordRules

/-! ### Where a text is cut -/

namespace Text

variable {token cs before after front back : List Char}

/-- What begins earlier than another occurrence ends before that one does. -/
theorem infix_of_earlier (hcs : cs = front ++ token ++ back)
    (hother : cs = before ++ token ++ after) (hearlier : front.length < before.length) :
    token <:+: before ++ token.dropLast := by
  have hfront : front ++ token <+: cs := ⟨back, hcs.symm⟩
  have hbefore : before ++ token.dropLast <+: cs := by
    rw [hother, List.append_assoc]
    refine (List.prefix_append_right_inj before).mpr ?_
    exact (List.dropLast_prefix token).trans (List.prefix_append token after)
  -- the later occurrence begins at least one character behind
  have hlength : (front ++ token).length ≤ (before ++ token.dropLast).length := by
    simp only [List.length_append, List.length_dropLast]
    omega
  obtain ⟨rest, hrest⟩ := List.prefix_of_prefix_length_le hfront hbefore hlength
  exact ⟨front, rest, hrest⟩

/-- A text is cut at the first occurrence, and nowhere else. -/
theorem splitAt?_eq_some_iff (hne : token ≠ []) :
    splitAt? token cs = some (before, after) ↔
      cs = before ++ token ++ after ∧ ¬ token <:+: before ++ token.dropLast := by
  constructor
  · intro h
    exact ⟨eq_of_splitAt? h, not_infix_of_splitAt? hne h⟩
  · rintro ⟨hcs, hfirst⟩
    cases hsplit : splitAt? token cs with
    | none => exact absurd ⟨before, after, hcs.symm⟩ (splitAt?_eq_none_iff.mp hsplit)
    | some parts =>
      obtain ⟨front, back⟩ := parts
      have hcs' : cs = front ++ token ++ back := eq_of_splitAt? hsplit
      -- of two occurrences that are not at one place, the later one is not the first
      have hlength : front.length = before.length := by
        rcases Nat.lt_trichotomy front.length before.length with hlt | heq | hgt
        · exact absurd (infix_of_earlier hcs' hcs hlt) hfirst
        · exact heq
        · exact absurd (infix_of_earlier hcs hcs' hgt) (not_infix_of_splitAt? hne hsplit)
      have hparts : front ++ (token ++ back) = before ++ (token ++ after) := by
        rw [← List.append_assoc, ← List.append_assoc, ← hcs', ← hcs]
      obtain ⟨rfl, hrest⟩ := List.append_inj hparts hlength
      obtain rfl := List.append_cancel_left hrest
      rfl

end Text

namespace Condition

/-- A text is cut at the first occurrence of an operator if none of those that are looked for
    before it occurs anywhere. -/
structure CutAt (text : String) (o : Relation) (after : List Char) : Prop where
  chosen : ∀ p ∈ o.before, ¬ p.token.toList <:+: text.toList
  first : ∃ before, text.toList = before ++ o.token.toList ++ after ∧
    ¬ o.token.toList <:+: before ++ o.token.toList.dropLast

/-- The operator that is found is the one at which the text is cut. -/
theorem splitOperator?_eq_some_iff_cutAt {text : String} {o : Relation} {after : List Char} :
    splitOperator? text.toList = some (o, after) ↔ CutAt text o after := by
  rw [splitOperator?_eq_some_iff]
  simp only [Text.splitAt?_eq_some_iff o.token_ne_nil]
  exact ⟨fun ⟨chosen, first⟩ => ⟨chosen, first⟩, fun ⟨chosen, first⟩ => ⟨chosen, first⟩⟩

/-- No operator is found exactly when none occurs. -/
theorem splitOperator?_eq_none_iff {cs : List Char} :
    splitOperator? cs = none ↔ ∀ o : Relation, ¬ o.token.toList <:+: cs := by
  -- every operator is among those that are looked for
  have hall : ∀ o : Relation, o ∈ Relation.inOrder := by
    intro o
    cases o <;> decide
  simp only [splitOperator?, List.findSome?_eq_none_iff, Option.map_eq_none_iff,
    Text.splitAt?_eq_none_iff]
  exact ⟨fun h o => h o (hall o), fun h o _ => h o⟩

end Condition

/-! ### What is wrong with a text -/

/-- What is wrong with a text that is no condition, said without reading the text. -/
inductive ConditionFault.InText (text : String) : ConditionFault → Prop where
  | missingOperator (hnone : ∀ o : Relation, ¬ o.token.toList <:+: text.toList) :
      InText text (.missingOperator text)
  | missingOperand {o : Relation} {after : List Char} (hcut : Condition.CutAt text o after)
      (hblank : ∀ c ∈ after, isBlank c = true) : InText text (.missingOperand text)
  | unterminatedReference {o : Relation} {after inner : List Char}
      (hcut : Condition.CutAt text o after) (hbrace : trimBlanks after = '{' :: inner)
      (hopen : inner.getLast? ≠ some '}') :
      InText text (.unterminatedReference (String.ofList ('{' :: inner)))
  | emptyReference {o : Relation} {after blanks : List Char}
      (hcut : Condition.CutAt text o after) (hbrace : trimBlanks after = '{' :: (blanks ++ ['}']))
      (hblank : ∀ c ∈ blanks, isBlank c = true) : InText text (.emptyReference text)

/-- An operand is not read exactly if it is a reference that does not end or that has no name. -/
theorem Operand.parse_eq_error_iff {cs : List Char} {whole : String} {fault : ConditionFault} :
    parse cs whole = .error fault ↔
      ∃ inner, cs = '{' :: inner ∧
        (inner.getLast? ≠ some '}' ∧ fault = .unterminatedReference (String.ofList cs) ∨
          (∃ blanks, inner = blanks ++ ['}'] ∧ ∀ c ∈ blanks, isBlank c = true) ∧
            fault = .emptyReference whole) := by
  unfold parse
  -- only what begins with a brace can be refused
  split
  · next inner =>
    -- the reference ends, and then its name decides, or it does not end
    by_cases hlast : inner.getLast? = some '}'
    · obtain ⟨name, rfl⟩ := List.getLast?_eq_some_iff.mp hlast
      rw [if_pos hlast, List.dropLast_concat]
      have hblanks : (trimBlanks name).isEmpty = true ↔ ∀ c ∈ name, isBlank c = true := by
        rw [List.isEmpty_iff, trimBlanks_eq_nil_iff]
      constructor
      · intro h
        dsimp only at h
        split at h
        · next hempty =>
          exact ⟨_, rfl, .inr ⟨⟨name, rfl, hblanks.mp hempty⟩, (Except.error.inj h).symm⟩⟩
        · cases h
      · rintro ⟨inner, heq, ⟨hopen, -⟩ | ⟨⟨blanks, rfl, hblank⟩, rfl⟩⟩
        · exact absurd ((List.cons.inj heq).2 ▸ hlast) hopen
        · obtain rfl : name = blanks := List.append_cancel_right (List.cons.inj heq).2
          exact if_pos (hblanks.mpr hblank)
    · rw [if_neg hlast]
      constructor
      · intro h
        exact ⟨inner, rfl, .inl ⟨hlast, (Except.error.inj h).symm⟩⟩
      · rintro ⟨other, heq, ⟨-, rfl⟩ | ⟨⟨blanks, rfl, -⟩, -⟩⟩
        · rfl
        · rw [(List.cons.inj heq).2, List.getLast?_concat] at hlast
          exact absurd rfl hlast
  · next hbrace =>
    have hread : ¬ ∃ inner, cs = '{' :: inner := fun ⟨inner, h⟩ => hbrace inner h
    constructor
    · intro h
      split at h <;> cases h
    · rintro ⟨inner, h, -⟩
      exact absurd ⟨inner, h⟩ hread

namespace Condition

/-- A text is no condition exactly if one of four things is wrong with it, and the first of them is
    reported. -/
theorem parse_eq_error_iff {text : String} {fault : ConditionFault} :
    parse text = .error fault ↔ fault.InText text := by
  constructor
  · intro h
    rw [parse] at h
    split at h
    · next hnone =>
      obtain rfl := Except.error.inj h
      exact .missingOperator (splitOperator?_eq_none_iff.mp hnone)
    · next o after hsplit =>
      have hcut : CutAt text o after := splitOperator?_eq_some_iff_cutAt.mp hsplit
      dsimp only at h
      split at h
      · next hempty =>
        obtain rfl := Except.error.inj h
        exact .missingOperand hcut (trimBlanks_eq_nil_iff.mp (List.isEmpty_iff.mp hempty))
      · have hoperand : Operand.parse (trimBlanks after) text = .error fault := by
          cases hparse : Operand.parse (trimBlanks after) text with
          | ok operand =>
            rw [hparse] at h
            cases h
          | error other =>
            rw [hparse] at h
            rw [Except.error.inj h]
        obtain ⟨inner, hbrace, ⟨hopen, rfl⟩ | ⟨⟨blanks, rfl, hblank⟩, rfl⟩⟩ :=
          Operand.parse_eq_error_iff.mp hoperand
        · rw [hbrace]
          exact .unterminatedReference hcut hbrace hopen
        · exact .emptyReference hcut hbrace hblank
  · -- each fault says at which operator the text is cut, so the reader can be followed
    have hoperand {o : Relation} {after inner : List Char} (hcut : CutAt text o after)
        (hbrace : trimBlanks after = '{' :: inner) :
        parse text = (Operand.parse ('{' :: inner) text).map (⟨o, ·⟩) := by
      rw [parse, splitOperator?_eq_some_iff_cutAt.mpr hcut]
      dsimp only
      rw [hbrace]
      rfl
    intro h
    cases h with
    | missingOperator hnone => rw [parse, splitOperator?_eq_none_iff.mpr hnone]
    | missingOperand hcut hblank =>
      rw [parse, splitOperator?_eq_some_iff_cutAt.mpr hcut]
      dsimp only
      rw [trimBlanks_eq_nil_iff.mpr hblank]
      rfl
    | unterminatedReference hcut hbrace hopen =>
      rw [hoperand hcut hbrace, Operand.parse_eq_error_iff.mpr ⟨_, rfl, .inl ⟨hopen, rfl⟩⟩]
      rfl
    | emptyReference hcut hbrace hblank =>
      rw [hoperand hcut hbrace,
        Operand.parse_eq_error_iff.mpr ⟨_, rfl, .inr ⟨⟨_, rfl, hblank⟩, rfl⟩⟩]
      rfl

end Condition

/-! ### Checks with such a text -/

namespace TextCondition

/-- How messages about texts that are no conditions begin. -/
def errorHeading : String := "Condition evaluation error: "

/-- Both parts of a check are there, and something is wrong with its text. -/
def IsBroken (c : TextCondition) (fault : ConditionFault) : Prop :=
  ∃ field text, c = ⟨some field, some text⟩ ∧ fault.InText text

variable {c : TextCondition} {fault : ConditionFault}

/-- A check whose text is no condition fails for every record, with what is wrong with the text. -/
theorem outcome_of_isBroken (h : c.IsBroken fault) (r : Record) :
    c.outcome r = .fail (errorHeading ++ fault.message) := by
  obtain ⟨field, text, rfl, hfault⟩ := h
  unfold outcome
  simp only [Condition.parse_eq_error_iff.mpr hfault]
  rfl

/-- Only what is wrong with the text is reported as such. -/
theorem isBroken_of_startsWith {r : Record} {message : String}
    (hmessage : (c.outcome r).message = some message)
    (hstart : Text.startsWith message errorHeading = true) :
    ∃ fault, c.IsBroken fault ∧ message = errorHeading ++ fault.message := by
  obtain ⟨field?, condition?⟩ := c
  -- a check without both of its parts passes, and says nothing
  match field?, condition? with
  | none, _ => exact nomatch hmessage
  | some field, none => exact nomatch hmessage
  | some field, some text =>
    cases hparse : Condition.parse text with
    | error fault =>
      have hbroken : IsBroken ⟨some field, some text⟩ fault :=
        ⟨field, text, rfl, Condition.parse_eq_error_iff.mp hparse⟩
      refine ⟨fault, hbroken, ?_⟩
      rw [outcome_of_isBroken hbroken r] at hmessage
      exact (Option.some.inj hmessage).symm
    | ok condition =>
      -- then a message would be about the record, and begin with the text in quotes
      exfalso
      have hquoted : HeadedBy ["Condition '"] (outcome ⟨some field, some text⟩ r).message := by
        unfold outcome
        simp only [hparse]
        exact .check _ List.mem_cons_self (by simp [String.append_assoc]) _
      obtain ⟨heading, hmem, hheading⟩ := hquoted message hmessage
      rw [List.mem_singleton.mp hmem] at hheading
      rcases Text.startsWith_or_startsWith hstart hheading with h | h <;> exact absurd h (by decide)

end TextCondition

/-- Of checks over several fields, those with a text begin no message like the others. -/
theorem CrossFieldCheck.isTextual_of_startsWith {c : CrossFieldCheck} {message : String}
    (hheaded : HeadedBy (Check.crossField c).headings (some message))
    (hstart : Text.startsWith message TextCondition.errorHeading = true) : ∃ t, c = .textual t := by
  -- a message that began with two headings would have one of them begin with the other
  have hapart : ∀ heading ∈ "Field '" :: "Comparison '" :: BusinessRule.headings,
      Text.startsWith TextCondition.errorHeading heading = false ∧
        Text.startsWith heading TextCondition.errorHeading = false := by
    decide
  obtain ⟨heading, hmem, hheading⟩ := hheaded message rfl
  have hnone {P : Prop} (hother : heading ∈ "Field '" :: "Comparison '" :: BusinessRule.headings) :
      P := by
    obtain ⟨h, h'⟩ := hapart heading hother
    rcases Text.startsWith_or_startsWith hstart hheading with hs | hs
    · exact absurd (h.symm.trans hs) Bool.false_ne_true
    · exact absurd (h'.symm.trans hs) Bool.false_ne_true
  match c with
  | textual t => exact ⟨t, rfl⟩
  | conditional _ | dependency _ | comparison _ | business _ =>
    exact hnone (by simp_all [Check.headings])

/-! ### Rules with such a text -/

namespace Rule

variable {rule : Rule}

/-- A cross-field rule that is sound reports what is wrong with a text exactly when something is. -/
theorem startsWith_errorHeading_iff (h : rule.IsSound) {c : CrossFieldCheck}
    (hcheck : rule.check = .crossField c) {rules : List Rule} {r : Record} {functions : Registry}
    {result : Result} (hresult : result ∈ rule.results r (.ofRules rules) functions)
    {message : String} (hmessage : result.message = some message) :
    Text.startsWith message TextCondition.errorHeading = true ↔
      ∃ t fault, c = .textual t ∧ t.IsBroken fault ∧
        message = TextCondition.errorHeading ++ fault.message := by
  constructor
  · intro hstart
    have hheaded := headedBy_of_isSound h (by rw [hcheck]; rfl) hresult
    rw [hcheck, hmessage] at hheaded
    -- the heading tells the mode, and in that mode only a fault has it
    obtain ⟨t, rfl⟩ := CrossFieldCheck.isTextual_of_startsWith hheaded hstart
    -- the result is the outcome of the textual condition for some field
    obtain ⟨_, name, _, _, hname⟩ := mem_results.mp hresult
    obtain ⟨outcome, houtcome, rfl⟩ := Option.map_eq_some_iff.mp hname
    rw [Rule.outcome?, hcheck] at houtcome
    obtain rfl : t.outcome r = outcome := Option.some.inj houtcome
    obtain ⟨fault, hbroken, heq⟩ := TextCondition.isBroken_of_startsWith hmessage hstart
    exact ⟨t, fault, rfl, hbroken, heq⟩
  · rintro ⟨t, fault, -, -, rfl⟩
    exact Text.startsWith_append_self _ _

/-- A rule whose text is no condition fails on every field that it is aimed at, and always says the
    same. -/
theorem results_of_isBroken {t : TextCondition} {fault : ConditionFault}
    (hcheck : rule.check = .crossField (.textual t)) (hbroken : t.IsBroken fault) (r : Record)
    (patterns : PatternCache) (functions : Registry) :
    rule.results r patterns functions =
      if rule.enabled then
        (r.names.filter (Target.ofPattern rule.target).selects).map fun name =>
          { ruleId := rule.id
            ruleName := rule.name
            field := name
            value := r.get? name
            severity := rule.severity
            passed := false
            message := some (TextCondition.errorHeading ++ fault.message) }
      else [] := by
  -- the outcome depends neither on the record nor on the field
  have hresult : ∀ name, RuleSet.result? rule r patterns functions name = some
      { ruleId := rule.id
        ruleName := rule.name
        field := name
        value := r.get? name
        severity := rule.severity
        passed := false
        message := some (TextCondition.errorHeading ++ fault.message) } := by
    intro name
    have houtcome : rule.outcome? name r patterns functions =
        some (.fail (TextCondition.errorHeading ++ fault.message)) := by
      rw [Rule.outcome?, hcheck]
      exact congrArg some (TextCondition.outcome_of_isBroken hbroken r)
    rw [RuleSet.result?, houtcome]
    rfl
  rw [results, Target.resolve_eq_filter]
  refine if_congr Iff.rfl ?_ rfl
  rw [funext hresult]
  exact congrFun List.filterMap_eq_map' _

/-- The rule with another condition, if it has one that is written as text. -/
def mapCondition (change : TextCondition → TextCondition) (rule : Rule) : Rule :=
  match rule.check with
  | .crossField (.textual t) => { rule with check := .crossField (.textual (change t)) }
  | _ => rule

variable (change : TextCondition → TextCondition)

/-- A rule asks for the same pattern with another condition. -/
theorem pattern?_mapCondition (rule : Rule) :
    (rule.mapCondition change).pattern? = rule.pattern? := by
  unfold mapCondition
  split
  · next t hcheck => rw [pattern?, pattern?, hcheck]; rfl
  · rfl

theorem ofType?_mapCondition (rule : Rule) :
    Flaw.ofType? (rule.mapCondition change).check = Flaw.ofType? rule.check := by
  unfold mapCondition
  split
  · next t hcheck => rw [hcheck]; rfl
  · rfl

theorem target_mapCondition (rule : Rule) : (rule.mapCondition change).target = rule.target := by
  unfold mapCondition
  split <;> rfl

theorem id_mapCondition (rule : Rule) : (rule.mapCondition change).id = rule.id := by
  unfold mapCondition
  split <;> rfl

end Rule

/-- Issues are looked for without a look at the conditions that are written as text. -/
theorem Issue.ofRules_mapCondition (change : TextCondition → TextCondition) (rules : List Rule) :
    Issue.ofRules (rules.map (Rule.mapCondition change)) = Issue.ofRules rules := by
  -- issues are found from the type, the pattern, the target and the id of a rule
  have hpatterns : PatternCache.ofRules (rules.map (Rule.mapCondition change)) =
      PatternCache.ofRules rules := by
    unfold PatternCache.ofRules
    rw [List.filterMap_map]
    exact congrArg (fun f => (rules.filterMap f).foldl PatternCache.insert .empty)
      (funext (Rule.pattern?_mapCondition change))
  -- each flaw is looked for in one of these parts
  have hflaws : ∀ patterns rule,
      Flaw.ofRule patterns (rule.mapCondition change) = Flaw.ofRule patterns rule := by
    intro patterns rule
    unfold Flaw.ofRule Flaw.ofPattern? Flaw.ofTarget?
    rw [Rule.ofType?_mapCondition, Rule.pattern?_mapCondition, Rule.target_mapCondition]
  simp only [Issue.ofRules, hpatterns, List.flatMap_map, hflaws, Rule.id_mapCondition]

/-- Rules without issues may have texts that are no conditions.  A result of a cross-field rule
    begins as an error of a condition exactly if the rule has a text with something wrong; such a
    rule fails on every field that it is aimed at, in every record; and the rules have no issues
    whatever their conditions are. -/
theorem Engine.validate_load_conditionErrors (e : Engine) (rules : List Rule)
    (h : Issue.ofRules rules = []) (r : Record) :
    (e.load rules).validate r = rules.flatMap (·.results r (.ofRules rules) e.functions) ∧
    (∀ rule ∈ rules, ∀ c, rule.check = .crossField c →
      ∀ result ∈ rule.results r (.ofRules rules) e.functions,
      ∀ message, result.message = some message →
        (Text.startsWith message "Condition evaluation error: " = true ↔
          ∃ t fault, c = .textual t ∧ t.IsBroken fault ∧
            message = "Condition evaluation error: " ++ fault.message)) ∧
    (∀ rule ∈ rules, ∀ t fault, rule.check = .crossField (.textual t) → t.IsBroken fault →
      rule.enabled = true →
      (rule.results r (.ofRules rules) e.functions).map
          (fun result => (result.field, result.passed, result.message)) =
        (r.names.filter (Target.ofPattern rule.target).selects).map fun name =>
          (name, false, some ("Condition evaluation error: " ++ fault.message))) ∧
    ∀ change, Issue.ofRules (rules.map (Rule.mapCondition change)) = [] := by
  refine ⟨RuleSet.results_eq_flatMap rules e.functions r, ?reported, ?failed, ?unseen⟩
  case reported =>
    intro rule hrule c hcheck result hresult message hmessage
    -- without issues the rule is sound, so its messages have known headings
    have hsound : rule.IsSound := (Issue.ofRules_eq_nil_iff rules).mp h rule hrule
    exact Rule.startsWith_errorHeading_iff hsound hcheck hresult hmessage
  case failed =>
    intro rule _ t fault hcheck hbroken henabled
    rw [Rule.results_of_isBroken hcheck hbroken, if_pos henabled, List.map_map]
    rfl
  case unseen =>
    intro change
    rw [Issue.ofRules_mapCondition, h]

/-- Whoever signs is an adult, which is spelled out where a number is asked for. -/
private def adultRule : Rule :=
  { id := "adult", name := "Adult", target := "*"
    check := .crossField (.textual { dependentField := "age", condition := "age is adult" }) }

/-- Somebody who signs. -/
private def signer : Record :=
  .ofList [("age", .integer 34), ("name", .text "Ada")]

/-- The rule has no issues and fails on both fields. -/
theorem Engine.validate_load_adultRule :
    Issue.ofRules [adultRule] = [] ∧
    ((({} : Engine).load [adultRule]).validate signer).map
        (fun result => (result.field, result.passed, result.message)) =
      ["age", "name"].map fun name =>
        (name, false,
          some "Condition evaluation error: no supported operator in 'age is adult'") := by
  have hissues : Issue.ofRules [adultRule] = [] := by decide +kernel
  refine ⟨hissues, ?_⟩
  obtain ⟨hresults, -, hfailed, -⟩ :=
    Engine.validate_load_conditionErrors {} [adultRule] hissues signer
  have hbroken : TextCondition.IsBroken { dependentField := "age", condition := "age is adult" }
      (.missingOperator "age is adult") :=
    ⟨"age", "age is adult", rfl, Condition.parse_eq_error_iff.mp rfl⟩
  rw [hresults, List.flatMap_singleton,
    hfailed adultRule List.mem_cons_self _ _ rfl hbroken rfl]
  rfl

/-- Rules without issues may still fail because a condition cannot be read. -/
theorem Engine.noIssues_with_conditionErrors :
    ¬ ∀ (e : Engine) (rules : List Rule), Issue.ofRules rules = [] →
      ∀ r : Record, ∀ rule ∈ rules, ∀ c, rule.check = .crossField c →
      ∀ result ∈ rule.results r (.ofRules rules) e.functions,
        result ∈ (e.load rules).validate r →
        ∀ message, result.message = some message →
          Text.startsWith message "Condition evaluation error: " = false := by
  intro h
  have hissues : Issue.ofRules [adultRule] = [] := by decide +kernel
  have hmem : (({} : Engine).load [adultRule]).validate signer =
      adultRule.results signer (.ofRules [adultRule]) {} := by
    decide +kernel
  -- the result on the first field is about the condition
  obtain ⟨result, hresult, message, hmessage, hstart⟩ :
      ∃ result ∈ adultRule.results signer (.ofRules [adultRule]) {},
        ∃ message, result.message = some message ∧
          Text.startsWith message "Condition evaluation error: " = true := by
    refine ⟨⟨"adult", "Adult", "age", some (.integer 34), adultRule.severity, false,
      some "Condition evaluation error: no supported operator in 'age is adult'"⟩,
      by decide +kernel, _, rfl, by decide +kernel⟩
  exact absurd hstart (by
    rw [h {} [adultRule] hissues signer adultRule List.mem_cons_self _ rfl result hresult
      (hmem ▸ hresult) message hmessage]
    exact Bool.false_ne_true)

end RecordRules
