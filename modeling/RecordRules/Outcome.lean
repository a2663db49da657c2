/-! # The outcome of a check

* `Outcome.check`   passes or fails with a message -/

namespace RecordRules

/-- Whether a check passed, and what to say about it. -/
structure Outcome where
  passed : Bool
  message : Option String
  deriving DecidableEq, Repr, Inhabited

namespace Outcome

/-- The check passed. -/
def pass : Outcome := ⟨true, none⟩

/-- The check failed for the reason given. -/
def fail (message : String) : Outcome := ⟨false, some message⟩

/-- Passes if a condition holds, and fails with the message otherwise. -/
def check (passed : Bool) (message : String) : Outcome :=
  if passed then pass else fail message

@[simp] theorem passed_pass : pass.passed = true := rfl

@[simp] theorem passed_fail (message : String) : (fail message).passed = false := rfl

@[simp] theorem passed_check (passed : Bool) (message : String) :
    (check passed message).passed = passed := by
  cases passed <;> rfl

end Outcome
end RecordRules
