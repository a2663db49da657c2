import RecordRules.Check.Dispatch

/-!
# What checks ask the pattern cache

A check puts at most one *question* to the cache: whether a pattern matches a text.  Whether it
asks, and about which text, is settled by the record alone, and the answer to the question is all
that its outcome has from the cache.  The pattern in the question is the one that is known of the
rule before there is a record, so that it can be compiled beforehand.

## Key results

- `Rule.outcome?_of_answers`: outcomes depend on nothing in a cache but the answer to the question
- `Rule.pattern?_of_question?`: a rule asks about its own pattern and about no other one
-/

namespace RecordRules

/-- Two caches have the same answer to a question, if there is one. -/
def PatternCache.AgreeOn (a b : PatternCache) (question? : Option (String × String)) : Prop :=
  ∀ pattern text, question? = some (pattern, text) →
    a.isMatch pattern text = b.isMatch pattern text

variable {a b : PatternCache}

/-! ### Questions about the shape of a value -/

namespace FormatCheck

/-- The question of a check about the value of a field.  A field without a value and a value that
    is not of the type asked for raise none. -/
def question? (c : FormatCheck) (field : Option Value) : Option (String × String) :=
  match present? field with
  | none => none
  | some v =>
    if (c.dataType.bind (typeFault? · v)).isSome then none else c.pattern.map (·, v.display)

/-- The outcome of a format check depends on the answer to its question only. -/
theorem outcome_of_answers {c : FormatCheck} {field : Option Value}
    (h : a.AgreeOn b (c.question? field)) : c.outcome field a = c.outcome field b := by
  unfold question? at h
  unfold outcome
  -- a question is raised by a value of the right type, if there is a pattern
  cases hvalue : present? field with
  | none => rfl
  | some v =>
    rw [hvalue] at h
    cases htype : c.dataType.bind (typeFault? · v) with
    | some fault =>
      -- the type has settled the matter
      simp only [htype]
      rfl
    | none =>
      cases hpattern : c.pattern with
      | none => rfl
      | some pattern =>
        have hanswer : a.isMatch pattern v.display = b.isMatch pattern v.display :=
          h pattern v.display (by simp only [htype, hpattern]; rfl)
        simp only [Option.bind_some, patternFault?, hanswer]

/-- It asks about its own pattern. -/
theorem pattern_of_question? {c : FormatCheck} {field : Option Value} {pattern text : String}
    (h : c.question? field = some (pattern, text)) : c.pattern = some pattern := by
  unfold question? at h
  -- a question has been raised, so there was a value and no fault in its type
  split at h
  · exact nomatch h
  · split at h
    · exact nomatch h
    · obtain ⟨p, hp, heq⟩ := Option.map_eq_some_iff.mp h
      rw [hp, (Prod.mk.inj heq).1]

end FormatCheck

/-! ### Questions about the field that a condition is about -/

namespace TargetCondition

/-- The question of a demand on a field.  Only a demand on the format asks one. -/
def question? (t : TargetCondition) (field : Option Value) : Option (String × String) :=
  match t.kind, t.pattern, present? field with
  | some .format, some pattern, some v => some (pattern, v.display)
  | _, _, _ => none

/-- The outcome of a demand depends on the answer to its question only. -/
theorem outcome_of_answers {t : TargetCondition} {field : Option Value}
    (h : a.AgreeOn b (t.question? field)) (name reason : String) :
    t.outcome name field reason a = t.outcome name field reason b := by
  obtain ⟨kind, pattern?, min, max⟩ := t
  -- each other kind of demand, and each missing part, is settled without the cache
  match kind, pattern?, hvalue : present? field with
  | some .format, some pattern, some v =>
    have hanswer : a.isMatch pattern v.display = b.isMatch pattern v.display :=
      h pattern v.display (by simp only [question?, hvalue])
    simp only [outcome, hvalue, hanswer]
  | some .format, none, _ => rfl
  | some .format, some _, none => simp only [outcome, hvalue]
  | some .required, _, _ | some .range, _, _ | some .unsupported, _, _ | none, _, _ => rfl

/-- It asks about its own pattern, and only if it is about a format. -/
theorem pattern_of_question? {t : TargetCondition} {field : Option Value} {pattern text : String}
    (h : t.question? field = some (pattern, text)) :
    t.kind = some .format ∧ t.pattern = some pattern := by
  unfold question? at h
  split at h
  · next hkind hpattern _ =>
    obtain ⟨rfl, _⟩ := Prod.mk.inj (Option.some.inj h)
    exact ⟨hkind, hpattern⟩
  · exact nomatch h

end TargetCondition

namespace ConditionalCheck

/-- The question of a check about a record: that of its demand, if the condition holds. -/
def question? (c : ConditionalCheck) (r : Record) : Option (String × String) :=
  match c.conditionField, c.conditionValue, c.targetField, c.targetCondition with
  | some field, some v, some target, some demand =>
    if c.conditionOperator.holds (r.get? field) v then demand.question? (r.get? target) else none
  | _, _, _, _ => none

/-- The outcome of a conditional check depends on the answer to its question only. -/
theorem outcome_of_answers {c : ConditionalCheck} {r : Record}
    (h : a.AgreeOn b (c.question? r)) : c.outcome r a = c.outcome r b := by
  obtain ⟨conditionField, conditionValue, o, targetField, demand⟩ := c
  match conditionField, conditionValue, targetField, demand with
  | some field, some v, some target, some demand =>
    simp only [question?] at h
    simp only [outcome]
    -- the demand is looked at only if the condition holds, which the cache has no part in
    split
    · next hholds =>
      rw [if_pos hholds] at h
      exact TargetCondition.outcome_of_answers h _ _
    · rfl
  | none, _, _, _ | _, none, _, _ | _, _, none, _ | _, _, _, none => simp only [outcome]

/-- It asks about the pattern of its demand. -/
theorem pattern_of_question? {c : ConditionalCheck} {r : Record} {pattern text : String}
    (h : c.question? r = some (pattern, text)) :
    ∃ demand, c.targetCondition = some demand ∧ demand.kind = some .format ∧
      demand.pattern = some pattern := by
  unfold question? at h
  split at h
  · next demand _ _ _ hdemand =>
    split at h
    · exact ⟨_, hdemand, TargetCondition.pattern_of_question? h⟩
    · exact nomatch h
  · exact nomatch h

end ConditionalCheck

/-! ### The question of a check -/

namespace Check

/-- The question of a check about the named field of a record. -/
def question? (c : Check) (name : String) (r : Record) : Option (String × String) :=
  match c with
  | format c => c.question? (r.get? name)
  | crossField (.conditional c) => c.question? r
  | _ => none

/-- What a check asks about is the pattern that is known of it beforehand. -/
theorem pattern?_of_question? {c : Check} {name : String} {r : Record} {pattern text : String}
    (h : c.question? name r = some (pattern, text)) : c.pattern? = some pattern := by
  -- only format checks and conditional checks raise questions
  match c with
  | format c => exact FormatCheck.pattern_of_question? h
  | crossField (.conditional c) =>
    obtain ⟨demand, hdemand, hkind, hpattern⟩ := ConditionalCheck.pattern_of_question? h
    simp only [pattern?, hdemand, hkind, if_true, hpattern]
  | crossField (.comparison _) | crossField (.dependency _) | crossField (.business _)
  | crossField (.textual _) | range _ | completeness _ | uniqueness _ | custom _
  | unknown _ _ => exact nomatch h

end Check

namespace Rule

/-- The question of a rule about the named field of a record. -/
def question? (rule : Rule) (name : String) (r : Record) : Option (String × String) :=
  rule.check.question? name r

/-- The outcome of a rule depends on nothing in the cache but the answer to its question. -/
theorem outcome?_of_answers {rule : Rule} {name : String} {r : Record}
    (h : a.AgreeOn b (rule.question? name r)) (functions : Registry) :
    rule.outcome? name r a functions = rule.outcome? name r b functions := by
  unfold Rule.question? at h
  unfold Rule.outcome? Check.outcome?
  -- checks without a question are the same whatever the cache is
  match hcheck : rule.check with
  | .format c =>
    rw [hcheck] at h
    exact congrArg some (FormatCheck.outcome_of_answers h)
  | .crossField (.conditional c) =>
    rw [hcheck] at h
    exact congrArg some (ConditionalCheck.outcome_of_answers h)
  | .crossField (.business rule) => cases rule <;> rfl
  | .crossField (.comparison _) | .crossField (.dependency _) | .crossField (.textual _)
  | .range _ | .completeness _ | .uniqueness _ | .custom _ | .unknown _ _ => rfl

/-- What a rule asks about is the pattern that is known of it beforehand. -/
theorem pattern?_of_question? {rule : Rule} {name : String} {r : Record} {pattern text : String}
    (h : rule.question? name r = some (pattern, text)) : rule.pattern? = some pattern :=
  Check.pattern?_of_question? h

end Rule
end RecordRules
