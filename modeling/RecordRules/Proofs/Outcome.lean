import RecordRules.Outcome

/-!
# Outcomes that explain themselves

An outcome has two parts that could be set at will.  An outcome *explains itself* if its parts fit:
there is a message if it failed, and none if it passed.  This is what outcomes are like that are
built from `pass`, `fail` and `check`, or from a fault that may have been found.

## Key results

- `Outcome.explained_iff`: such an outcome is a success without a message or a failure with one
- `Outcome.failed_ite_iff`: what fails step by step fails at one of the steps
- `Outcome.explained_ofFault?`: an outcome for a fault, if there is one, explains itself
- `Outcome.ofFault?_orElse`: looking for a second fault is making a second check
-/

namespace RecordRules.Outcome

/-- There is a message exactly if the check did not pass. -/
def Explained (o : Outcome) : Prop :=
  o.message.isSome ↔ o.passed = false

/-- Fails with what there is to say, if there is anything. -/
def ofFault? : Option String → Outcome
  | some message => fail message
  | none => pass

/-- The outcome of two checks of which the second is made if the first has passed. -/
def andThen (first second : Outcome) : Outcome :=
  if first.passed then second else first

/-- The first outcome that failed.  If there is none, all is well. -/
def firstFailure (outcomes : List Outcome) : Outcome :=
  (outcomes.find? fun o => !o.passed).getD pass

theorem explained_pass : pass.Explained :=
  iff_of_false nofun nofun

theorem explained_fail (message : String) : (fail message).Explained :=
  iff_of_true rfl rfl

theorem explained_check (passed : Bool) (message : String) : (check passed message).Explained := by
  cases passed with
  | true => exact explained_pass
  | false => exact explained_fail message

/-- A check that looks for one fault before it goes on fails for that fault, or later. -/
theorem failed_ite_iff {fault : Prop} [Decidable fault] {message : String} {later : Outcome} :
    (if fault then fail message else later).passed = false ↔ fault ∨ later.passed = false := by
  split <;> simp [*]

theorem ofFault?_none : ofFault? none = pass :=
  rfl

theorem explained_ofFault? (fault? : Option String) : (ofFault? fault?).Explained := by
  cases fault? with
  | none => exact explained_pass
  | some message => exact explained_fail message

/-- An outcome that explains itself is a success without a message, or a failure with one. -/
theorem explained_iff {o : Outcome} : o.Explained ↔ o = pass ∨ ∃ message, o = fail message := by
  constructor
  · intro h
    obtain ⟨passed, message?⟩ := o
    -- the two other combinations are those that do not explain themselves
    match passed, message? with
    | true, none => exact .inl rfl
    | false, some message => exact .inr ⟨message, rfl⟩
    | true, some _ => exact absurd (h.mp rfl) nofun
    | false, none => exact absurd (h.mpr rfl) nofun
  · rintro (rfl | ⟨message, rfl⟩)
    · exact explained_pass
    · exact explained_fail message

/-- Looking for a second fault where there is no first one is making a second check. -/
theorem ofFault?_orElse (first second : Option String) :
    ofFault? (first <|> second) = (ofFault? first).andThen (ofFault? second) := by
  cases first <;> rfl

theorem pass_andThen (o : Outcome) : pass.andThen o = o :=
  rfl

theorem fail_andThen (message : String) (o : Outcome) : (fail message).andThen o = fail message :=
  rfl

theorem firstFailure_nil : firstFailure [] = pass :=
  rfl

/-- The first failure is found by making the checks one after the other. -/
theorem firstFailure_cons (o : Outcome) (outcomes : List Outcome) :
    firstFailure (o :: outcomes) = o.andThen (firstFailure outcomes) := by
  unfold firstFailure andThen
  cases h : o.passed <;> simp [h]

/-- Nothing is lost by stopping at what there is to say last. -/
theorem ofFault?_andThen_pass (fault? : Option String) :
    (ofFault? fault?).andThen pass = ofFault? fault? := by
  cases fault? <;> rfl

end RecordRules.Outcome
