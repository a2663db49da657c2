import RecordRules.Check.Business
import RecordRules.Check.Comparison
import RecordRules.Check.Condition
import RecordRules.Check.Conditional
import RecordRules.Check.Dependency

/-! # Checks over several fields

Every kind of check passes when a part of its configuration is missing. -/

namespace RecordRules

/-- The outcome for a record; a text that is no condition fails. -/
def TextCondition.outcome (c : TextCondition) (r : Record) : Outcome :=
  match c.dependentField, c.condition with
  | some field, some text =>
    match Condition.parse text with
    | .error fault => .fail ("Condition evaluation error: " ++ fault.message)
    | .ok condition =>
      .check (condition.holds (r.get? field) r)
        ("Condition '" ++ text ++ "' not satisfied for field '" ++ field ++ "'")
  | _, _ => .pass

/-- The outcome for a record. -/
def CrossFieldCheck.outcome (c : CrossFieldCheck) (r : Record) (patterns : PatternCache) :
    Outcome :=
  match c with
  | conditional c => c.outcome r patterns
  | comparison c => c.outcome r
  | dependency c => c.outcome r
  | business none => .pass
  | business (some rule) => rule.outcome r
  | textual c => c.outcome r

end RecordRules
