import RecordRules.Check.Dispatch
import RecordRules.Proofs.Rule.CheckRoundTrip

/-!
# What a check does after it was written and read

Not every check that can be put together is read back as it was.  A conditional check may
compare its field with null, and a dependency may too; this null is written, but a null under
an optional key is read as no value at all.  What comes back is the check without the null.

The proof has two halves that meet at the check without the null: it is what is read, and it
passes where a null was lost, while all else is unchanged.

## Key results

- `Check.read_write_withoutNull`: what is read is the check without the null
- `Check.outcome?_withoutNull`: without its null a check passes, and else does what it did
- `Check.outcome?_reload`: a check with finite numbers is read back; it does for every field of
  every record what it did, but passes if it compared with null
-/

namespace RecordRules

open Decode

/-! ### Leaving out a null -/

/-- Of the optional values only null is taken for no value. -/
theorem present?_of_ne {v : Option Value} (h : v ≠ some .null) : present? v = v := by
  unfold present?
  split
  · exact absurd rfl h
  · rfl

namespace ConditionalCheck

/-- Nothing is asked without a value for the condition. -/
theorem outcome_of_noValue {c : ConditionalCheck} (h : c.conditionValue = none) (r : Record)
    (patterns : PatternCache) : c.outcome r patterns = .pass := by
  -- the check goes on only if it has all of its parts
  unfold outcome
  split
  · next hvalue _ _ => exact nomatch h.symm.trans hvalue
  · rfl

/-- Without its null a conditional check passes, and without one to lose it does what it did. -/
theorem outcome_withoutNull (c : ConditionalCheck) (r : Record) (patterns : PatternCache) :
    c.withoutNull.outcome r patterns =
      if c.conditionValue = some .null then .pass else c.outcome r patterns := by
  split
  · next hnull =>
    -- with the null the check loses a part that it needs
    have hnone : c.withoutNull.conditionValue = none := by rw [withoutNull, hnull]; rfl
    exact outcome_of_noValue hnone r patterns
  · next hnull => rw [withoutNull, present?_of_ne hnull]

end ConditionalCheck

namespace DependencyCheck

/-- Nothing is asked without a required value. -/
theorem outcome_of_noValue {c : DependencyCheck} (h : c.requiredValue = none) (r : Record) :
    c.outcome r = .pass := by
  unfold outcome
  split
  · next hvalue _ => exact nomatch h.symm.trans hvalue
  · rfl

theorem outcome_withoutNull (c : DependencyCheck) (r : Record) :
    c.withoutNull.outcome r =
      if c.requiredValue = some .null then .pass else c.outcome r := by
  split
  · next hnull =>
    have hnone : c.withoutNull.requiredValue = none := by rw [withoutNull, hnull]; rfl
    exact outcome_of_noValue hnone r
  · next hnull => rw [withoutNull, present?_of_ne hnull]

end DependencyCheck

namespace CrossFieldCheck

/-- All numbers are finite. -/
def IsFinite : CrossFieldCheck → Prop
  | conditional c =>
    (∀ v ∈ c.conditionValue, v.IsFinite) ∧ ∀ demand ∈ c.targetCondition, demand.IsFinite
  | comparison c => c.IsFinite
  | dependency c => ∀ v ∈ c.requiredValue, v.IsFinite
  | business _ | textual _ => True

/-- Whether the check compares a field with null. -/
def comparesWithNull : CrossFieldCheck → Bool
  | conditional c => c.conditionValue = some .null
  | dependency c => c.requiredValue = some .null
  | _ => false

/-- The check with the null that it compares with left out. -/
def withoutNull : CrossFieldCheck → CrossFieldCheck
  | conditional c => conditional c.withoutNull
  | dependency c => dependency c.withoutNull
  | c => c

/-- Without its null a cross-field check passes, and without one to lose it does what it did. -/
theorem outcome_withoutNull (c : CrossFieldCheck) (r : Record) (patterns : PatternCache) :
    c.withoutNull.outcome r patterns =
      if c.comparesWithNull then .pass else c.outcome r patterns := by
  cases c with
  | conditional c =>
    simpa only [withoutNull, outcome, comparesWithNull, decide_eq_true_eq] using
      c.outcome_withoutNull r patterns
  | dependency c =>
    simpa only [withoutNull, outcome, comparesWithNull, decide_eq_true_eq] using
      c.outcome_withoutNull r
  | comparison c | business b | textual c => rfl

/-- A check over several fields is read back without the null that it compares with. -/
theorem read_ofMembers_withoutNull {c : CrossFieldCheck} (hc : c.IsFinite) :
    read (.ofMembers c.members) = .ok c.withoutNull := by
  cases c with
  | conditional c =>
    have hreads := ConditionalCheck.reads_members hc.1 hc.2
    exact read_mode .conditional (fun _ => rfl) ConditionalCheck.codec hreads (by decide)
  | dependency c =>
    have hreads := DependencyCheck.reads_members hc
    exact read_mode .dependency (fun _ => rfl) DependencyCheck.codec hreads (by decide)
  -- the other modes have no optional value that could be null
  | comparison c => exact read_ofMembers (c := comparison c) hc
  | business b => exact read_ofMembers (c := business b) trivial
  | textual c => exact read_ofMembers (c := textual c) trivial

end CrossFieldCheck

/-! ### Reloading a check -/

namespace Check

/-- All numbers are finite, and a check of an unknown type has an object for configuration. -/
def IsStorable : Check → Prop
  | format _ | completeness _ | uniqueness _ | custom _ => True
  | range c => c.IsFinite
  | crossField c => c.IsFinite
  | unknown ruleType j => ruleType ∉ ruleTypes ∧ ∃ ms, j = .object ms

/-- Whether the check compares a field with null. -/
def comparesWithNull : Check → Bool
  | crossField c => c.comparesWithNull
  | _ => false

/-- The check with the null that it compares with left out. -/
def withoutNull : Check → Check
  | crossField c => crossField c.withoutNull
  | c => c

/-- What is read from what a check is written as is the check without the null that it compares
    with. -/
theorem read_write_withoutNull {c : Check} (hc : c.IsStorable) :
    read c.write.1 c.write.2 = .ok c.withoutNull := by
  cases c with
  | crossField c =>
    -- the configuration is read in its mode, and the mode leaves the null out
    have hread := CrossFieldCheck.read_ofMembers_withoutNull hc
    exact Except.mapError_eq_ok.mpr (congrArg (Except.map crossField) hread)
  | range c => exact read_write (c := range c) hc
  | unknown ruleType j =>
    -- an object is no null, for which an empty object would be read
    obtain ⟨htype, ms, rfl⟩ := hc
    exact read_write (c := unknown ruleType (.object ms)) ⟨htype, nofun⟩
  | format c => exact read_write (c := format c) trivial
  | completeness c => exact read_write (c := completeness c) trivial
  | uniqueness c => exact read_write (c := uniqueness c) trivial
  | custom c => exact read_write (c := custom c) trivial

/-- Without the null that it compares with a check passes. -/
theorem outcome?_withoutNull (c : Check) (name : String) (r : Record) (patterns : PatternCache)
    (functions : Registry) :
    c.withoutNull.outcome? name r patterns functions =
      if c.comparesWithNull then some .pass else c.outcome? name r patterns functions := by
  -- only checks over several fields compare with null
  cases c with
  | crossField c =>
    rw [withoutNull, outcome?, CrossFieldCheck.outcome_withoutNull, comparesWithNull]
    split <;> rfl
  | format c | range c | completeness c | uniqueness c | custom c => rfl
  | unknown ruleType j => rfl

/-- A check whose numbers are finite is read back after it is written.  What comes back has the
    same outcome for every field of every record, unless the check compares a field with null;
    then it passes always. -/
theorem outcome?_reload (c : Check) (hc : c.IsStorable) :
    ∃ c', read c.write.1 c.write.2 = .ok c' ∧
      ∀ (name : String) (r : Record) (patterns : PatternCache) (functions : Registry),
        c'.outcome? name r patterns functions =
          if c.comparesWithNull then some .pass else c.outcome? name r patterns functions :=
  ⟨c.withoutNull, read_write_withoutNull hc, c.outcome?_withoutNull⟩

/-- A reason has to be given when the status is null. -/
private def reasonCheck : Check :=
  .crossField (.conditional
    { conditionField := "status"
      conditionValue := some .null
      targetField := "reason"
      targetCondition := some { kind := some .required } })

/-- A null status without a reason. -/
private def statusRecord : Record :=
  .ofList [("status", .null)]

/-- The check has no numbers, so it can be stored. -/
private theorem isStorable_reasonCheck : reasonCheck.IsStorable := by
  refine ⟨?_, ?_⟩
  · rintro _ ⟨⟩
    trivial
  · rintro _ ⟨⟩
    exact ⟨by rintro _ ⟨⟩, by rintro _ ⟨⟩⟩

/-- The check fails the record, since the reason is missing. -/
private theorem outcome?_reasonCheck :
    reasonCheck.outcome? "reason" statusRecord .empty .empty =
      some (.fail "Field 'reason' is required when 'status' equals 'null'") := by
  decide +kernel

/-- The missing reason is found before the check is reloaded, and not after it is. -/
theorem outcome?_reload_reasonCheck :
    reasonCheck.IsStorable ∧
    reasonCheck.outcome? "reason" statusRecord .empty .empty =
      some (.fail "Field 'reason' is required when 'status' equals 'null'") ∧
    ∃ c', read reasonCheck.write.1 reasonCheck.write.2 = .ok c' ∧
      c'.outcome? "reason" statusRecord .empty .empty = some .pass := by
  obtain ⟨c', hread, houtcome⟩ := outcome?_reload reasonCheck isStorable_reasonCheck
  exact ⟨isStorable_reasonCheck, outcome?_reasonCheck, c', hread,
    houtcome "reason" statusRecord .empty .empty⟩

/-- Not every check with finite numbers does after it is reloaded what it did before. -/
theorem reload_may_change_outcome :
    ¬ ∀ c : Check, c.IsStorable →
      ∃ c', read c.write.1 c.write.2 = .ok c' ∧
        ∀ (name : String) (r : Record) (patterns : PatternCache) (functions : Registry),
          c'.outcome? name r patterns functions = c.outcome? name r patterns functions := by
  intro h
  obtain ⟨c', hread, hsame⟩ := h reasonCheck isStorable_reasonCheck
  -- what is read is the check without the null, which passes
  have hreload := read_write_withoutNull isStorable_reasonCheck
  obtain rfl : reasonCheck.withoutNull = c' := Except.ok.inj (hreload.symm.trans hread)
  have hpass : reasonCheck.withoutNull.outcome? "reason" statusRecord .empty .empty =
      some .pass := reasonCheck.outcome?_withoutNull _ _ _ _
  have hfail := hsame "reason" statusRecord .empty .empty
  rw [hpass, outcome?_reasonCheck] at hfail
  exact absurd (Option.some.inj hfail) (by decide)

end Check
end RecordRules
