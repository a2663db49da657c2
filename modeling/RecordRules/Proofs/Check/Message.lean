import Mathlib.Data.Option.Basic
import RecordRules.Proofs.Check.Footprint

/-!
# How messages begin

The messages of a check have the same few beginnings, whatever its configuration and the record
are.  A message about a pattern that does not compile begins in a way of its own, and it comes up
only where the cache has such an answer.

## Key results

- `Check.headedBy_headings`: how the messages of a check begin if its pattern compiles
-/

namespace RecordRules

/-- A message, if there is one, begins with one of some headings. -/
def HeadedBy (headings : List String) (message? : Option String) : Prop :=
  ∀ message, message? = some message →
    ∃ heading ∈ headings, Text.startsWith message heading = true

/-- A pattern, if there is one, gets no answer but whether it matches. -/
def PatternCache.Answers (patterns : PatternCache) (pattern? : Option String) : Prop :=
  ∀ pattern, pattern? = some pattern →
    ∀ text, ∃ matched, patterns.isMatch pattern text = .ok matched

/-! ### Headings of messages that are put together -/

namespace HeadedBy

variable {headings : List String} {message : String} {x y : Option String}

protected theorem none : HeadedBy headings none :=
  fun _ h => nomatch h

/-- A message that begins with one of the headings. -/
protected theorem some (heading : String) (hmem : heading ∈ headings)
    (h : Text.startsWith message heading = true) : HeadedBy headings (some message) := by
  intro m hm
  obtain rfl := Option.some.inj hm
  exact ⟨heading, hmem, h⟩

/-- Either of two messages, whichever the condition chooses. -/
protected theorem ite {p : Prop} [Decidable p] (hx : HeadedBy headings x)
    (hy : HeadedBy headings y) : HeadedBy headings (if p then x else y) := by
  split
  · exact hx
  · exact hy

/-- A message about a part that may be missing. -/
protected theorem bind {α : Type} {o : Option α} {f : α → Option String}
    (h : ∀ a, o = some a → HeadedBy headings (f a)) : HeadedBy headings (o.bind f) := by
  intro m hm
  obtain ⟨a, ha, hfa⟩ := Option.bind_eq_some_iff.mp hm
  exact h a ha m hfa

/-- The first of two messages. -/
protected theorem orElse (hx : HeadedBy headings x) (hy : HeadedBy headings y) :
    HeadedBy headings (x <|> y) := by
  intro m hm
  rcases (Option.orElse_eq_some x y m).mp hm with h | ⟨_, h⟩
  · exact hx m h
  · exact hy m h

/-- A check that fails with what there is to say, if there is anything. -/
protected theorem outcome (h : HeadedBy headings x) :
    HeadedBy headings (match x with
      | some message => Outcome.fail message
      | none => Outcome.pass).message := by
  cases x with
  | none => exact HeadedBy.none
  | some message => exact h

/-- A check with one message for its failure. -/
protected theorem check (heading : String) (hmem : heading ∈ headings)
    (h : Text.startsWith message heading = true) (passed : Bool) :
    HeadedBy headings (Outcome.check passed message).message := by
  cases passed with
  | true => exact HeadedBy.none
  | false => exact HeadedBy.some heading hmem h

end HeadedBy

open Text

/-! ### Checks of one field -/

namespace FormatCheck

/-- Messages about formats begin with the value, be it the type or the pattern that refuses it. -/
theorem headedBy {c : FormatCheck} {patterns : PatternCache} (h : patterns.Answers c.pattern)
    (field : Option Value) : HeadedBy ["Value '"] (c.outcome field patterns).message := by
  have htype (t : DataType) (v : Value) : HeadedBy ["Value '"] (typeFault? t v) := by
    refine .ite .none (.some _ List.mem_cons_self ?_)
    simp [String.append_assoc]
  -- the pattern compiles, so the only message left is that it does not match
  have hpattern (pattern : String) (hp : c.pattern = some pattern) (v : Value) :
      HeadedBy ["Value '"] (patternFault? patterns pattern v) := by
    obtain ⟨matched, hmatched⟩ := h pattern hp v.display
    unfold patternFault?
    rw [hmatched]
    cases matched with
    | true => exact .none
    | false => exact .some _ List.mem_cons_self (by simp [String.append_assoc])
  unfold outcome
  cases present? field with
  | none => exact .none
  | some v =>
    -- the message is that of the type if it has one, else that of the pattern
    exact .outcome (.orElse (.bind fun t _ => htype t v) (.bind fun p hp => hpattern p hp v))

end FormatCheck

namespace RangeCheck

/-- Messages about ranges name the value or say that it is past a bound. -/
theorem headedBy (c : RangeCheck) (field : Option Value) :
    HeadedBy ["Value "] (c.outcome field).message := by
  -- inclusive and exclusive bounds are worded differently behind the heading
  have hmin (min number : Binary64) :
      HeadedBy ["Value "] (minimumFault? c.inclusive min number) := by
    refine .ite (.ite ?_ .none) (.ite ?_ .none) <;>
      exact .some _ List.mem_cons_self (by simp [String.append_assoc])
  have hmax (max number : Binary64) :
      HeadedBy ["Value "] (maximumFault? c.inclusive max number) := by
    refine .ite (.ite ?_ .none) (.ite ?_ .none) <;>
      exact .some _ List.mem_cons_self (by simp [String.append_assoc])
  unfold outcome
  cases present? field with
  | none => exact .none
  | some v =>
    simp only
    split
    · exact .outcome (.orElse (.bind fun min _ => hmin min _) (.bind fun max _ => hmax max _))
    · refine .some _ List.mem_cons_self ?_
      -- what is no number is quoted, which the shorter heading covers
      have hquote : startsWith "Value '" "Value " = true := startsWith_ofList rfl
      simp [String.append_assoc, startsWith_append hquote]

end RangeCheck

namespace CompletenessCheck

/-- How the messages begin, in the order of the tests. -/
def headings : List String := ["Required field ", "Field must ", "Field length "]

/-- Each question about completeness has a beginning of its own. -/
theorem headedBy (c : CompletenessCheck) (field : Option Value) :
    HeadedBy headings (c.outcome field).message := by
  have hmissing : HeadedBy headings (missingFault? c.required field) :=
    .ite (.some "Required field " (by decide) (startsWith_ofList rfl)) .none
  have hempty : HeadedBy headings (emptyFault? c.notEmpty field) :=
    .ite (.some "Field must " (by decide) (startsWith_ofList rfl)) .none
  have hlength : HeadedBy headings (lengthFault? c.minLength field) := by
    unfold lengthFault?
    split
    · exact .ite (.some "Field length " (by decide) (by simp [String.append_assoc])) .none
    · exact .none
  -- the three messages are tried in order
  exact .outcome (.orElse hmissing (.orElse hempty hlength))

end CompletenessCheck

/-- Messages about uniqueness begin with the value. -/
theorem UniquenessCheck.headedBy (c : UniquenessCheck) (field : Option Value) (r : Record) :
    HeadedBy ["Value '"] (c.outcome field r).message := by
  unfold outcome
  cases present? field with
  | none => exact .none
  | some v => exact .check _ List.mem_cons_self (by simp [String.append_assoc]) _

/-! ### Checks over several fields -/

/-- Messages about the target of a conditional check begin with its name. -/
theorem TargetCondition.headedBy {t : TargetCondition} {patterns : PatternCache}
    (h : t.kind = some .format → patterns.Answers t.pattern) (name : String)
    (field : Option Value) (reason : String) :
    HeadedBy ["Field '"] (t.outcome name field reason patterns).message := by
  obtain ⟨kind, pattern?, min, max⟩ := t
  -- the kind decides what is asked, and without a pattern or a value nothing is
  match kind, pattern?, hvalue : present? field with
  | some .required, _, _ =>
    exact .check _ List.mem_cons_self (by simp [String.append_assoc]) _
  | some .format, some pattern, some v =>
    obtain ⟨matched, hmatched⟩ := h rfl pattern rfl v.display
    simp only [outcome, hvalue, hmatched]
    exact .check _ List.mem_cons_self (by simp [String.append_assoc]) _
  | some .format, some pattern, none =>
    simp only [outcome, hvalue]
    exact .none
  | some .format, none, _ => exact .none
  | some .range, _, some v =>
    simp only [outcome, hvalue]
    split
    · exact .some _ List.mem_cons_self (by simp [String.append_assoc])
    · exact .none
  | some .range, _, none =>
    simp only [outcome, hvalue]
    exact .none
  | some .unsupported, _, _ | none, _, _ => exact .none

/-- So do all messages of conditional checks. -/
theorem ConditionalCheck.headedBy {c : ConditionalCheck} {patterns : PatternCache}
    (h : ∀ demand, c.targetCondition = some demand → demand.kind = some .format →
      patterns.Answers demand.pattern) (r : Record) :
    HeadedBy ["Field '"] (c.outcome r patterns).message := by
  unfold outcome
  split
  -- only with all four parts is anything asked, and only if the condition holds
  · next demand _ _ _ hdemand =>
    split
    · exact TargetCondition.headedBy (h _ hdemand) _ _ _
    · exact .none
  · exact .none

namespace ComparisonCheck

/-- The heading that comparisons share begins with their name. -/
theorem startsWith_heading (field1 : String) (o : ComparisonOperator) (field2 : String) :
    startsWith (heading field1 o field2) "Comparison '" = true := by
  -- what follows the heading depends on the fields and the operator, the heading does not
  show startsWith ("Comparison '" ++ field1 ++ " " ++ o.name ++ " " ++ field2 ++ "' failed: ") _ = _
  simp only [String.append_assoc, startsWith_append_self]

/-- Messages of comparisons begin with their heading, those about sums included. -/
theorem headedBy (c : ComparisonCheck) (r : Record) :
    HeadedBy ["Comparison '"] (c.outcome r).message := by
  unfold outcome
  -- a missing part passes; so does a sum without an expected one
  split
  · simp only
    split
    · split
      · exact .none
      · refine .check _ List.mem_cons_self ?_ _
        simp only [String.append_assoc, startsWith_append (startsWith_heading _ _ _)]
    · refine .check _ List.mem_cons_self ?_ _
      simp only [String.append_assoc, startsWith_append (startsWith_heading _ _ _)]
    · exact .none
  · exact .none

end ComparisonCheck

/-- Messages of dependencies begin with the name of the field. -/
theorem DependencyCheck.headedBy (c : DependencyCheck) (r : Record) :
    HeadedBy ["Field '"] (c.outcome r).message := by
  unfold outcome
  split
  · exact .check _ List.mem_cons_self (by simp [String.append_assoc]) _
  · exact .none

namespace BusinessRule

/-- How the messages of business rules begin. -/
def headings : List String :=
  ["ID type ", "Either email ", "Guardian ", "Salary verification ", "Employment status "]

/-- The messages of each business rule have beginnings of their own. -/
theorem headedBy (rule : BusinessRule) (r : Record) :
    HeadedBy headings (rule.outcome r).message := by
  cases rule with
  | ageVerification => exact .check "ID type " (by decide) (startsWith_ofList rfl) _
  | emailPhoneRequired => exact .check "Either email " (by decide) (startsWith_ofList rfl) _
  | minorsConsent =>
    show HeadedBy headings (consentOutcome r).message
    -- no minor, no consent, no guardian: three guards, of which two speak
    unfold consentOutcome
    split
    · exact .none
    · split
      · exact .some "Guardian " (by decide) (startsWith_ofList rfl)
      · split
        · exact .some "Guardian " (by decide) (startsWith_ofList rfl)
        · exact .none
  | salaryVerification =>
    show HeadedBy headings (salaryOutcome r).message
    -- no salary, no verification, no employment: again two guards speak
    unfold salaryOutcome
    split
    · exact .none
    · split
      · exact .some "Salary verification " (by decide) (startsWith_ofList rfl)
      · split
        · exact .some "Employment status " (by decide) (startsWith_append (startsWith_ofList rfl) _)
        · exact .none
  | unknown => exact .none

end BusinessRule

/-- A condition written as text is either not satisfied or not evaluated; both are told as
    conditions. -/
theorem TextCondition.headedBy (c : TextCondition) (r : Record) :
    HeadedBy ["Condition "] (c.outcome r).message := by
  unfold outcome
  split
  · split
    -- a text that is no condition is reported with the fault of its parser
    · have hfault : startsWith "Condition evaluation error: " "Condition " = true := by decide
      exact .some _ List.mem_cons_self (startsWith_append hfault _)
    · have hcondition : startsWith "Condition '" "Condition " = true := by decide
      exact .check _ List.mem_cons_self (by
        simp [String.append_assoc, startsWith_append hcondition]) _
  · exact .none

/-! ### All checks -/

namespace Check

/-- How the messages of a check begin, those about its pattern apart.  What functions say is up to
    them. -/
def headings : Check → List String
  | format _ | uniqueness _ => ["Value '"]
  | range _ => ["Value "]
  | completeness _ => CompletenessCheck.headings
  | crossField (.conditional _) | crossField (.dependency _) => ["Field '"]
  | crossField (.comparison _) => ["Comparison '"]
  | crossField (.business _) => BusinessRule.headings
  | crossField (.textual _) => ["Condition "]
  | custom _ => []
  | unknown _ _ => ["Unknown rule type: "]

/-- The messages of a check that is not custom begin with its headings, if the cache has an answer
    about its pattern. -/
theorem headedBy_headings {c : Check} (hcustom : c.isCustom = false) {patterns : PatternCache}
    (h : patterns.Answers c.pattern?) {name : String} {r : Record} {functions : Registry}
    {o : Outcome} (ho : c.outcome? name r patterns functions = some o) :
    HeadedBy c.headings o.message := by
  -- one case for each kind of check; the headings are those of its lemma
  match c with
  | custom c => exact nomatch hcustom
  | format c =>
    obtain rfl := Option.some.inj ho
    exact FormatCheck.headedBy h _
  | range c =>
    obtain rfl := Option.some.inj ho
    exact c.headedBy _
  | completeness c =>
    obtain rfl := Option.some.inj ho
    exact c.headedBy _
  | uniqueness c =>
    obtain rfl := Option.some.inj ho
    exact c.headedBy _ r
  | crossField (.conditional c) =>
    obtain rfl := Option.some.inj ho
    refine ConditionalCheck.headedBy (fun demand hdemand hkind => ?_) r
    simpa only [pattern?, hdemand, hkind, if_true] using h
  | crossField (.comparison c) =>
    obtain rfl := Option.some.inj ho
    exact c.headedBy r
  | crossField (.dependency c) =>
    obtain rfl := Option.some.inj ho
    exact c.headedBy r
  | crossField (.business none) =>
    obtain rfl := Option.some.inj ho
    exact .none
  | crossField (.business (some rule)) =>
    obtain rfl := Option.some.inj ho
    exact rule.headedBy r
  | crossField (.textual c) =>
    obtain rfl := Option.some.inj ho
    exact c.headedBy r
  | unknown ruleType j =>
    obtain rfl := Option.some.inj ho
    exact .some _ List.mem_cons_self (startsWith_append_self _ _)

end Check
end RecordRules
