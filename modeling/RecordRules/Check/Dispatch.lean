import RecordRules.Check.Completeness
import RecordRules.Check.CrossField
import RecordRules.Check.Format
import RecordRules.Check.Uniqueness
import RecordRules.Registry

/-! # Applying a check to a field

* `Check.outcome?`   the outcome of a check for a field of a record, unless it is skipped -/

namespace RecordRules

/-- The outcome of a custom check; a function that is not named or not registered passes. -/
def CustomCheck.outcome? (c : CustomCheck) (field : Option Value) (r : Record)
    (functions : Registry) : Option Outcome :=
  match c.functionName.bind functions.get? with
  | some function => function field r c.parameters
  | none => some .pass

/-- The outcome of a check for the named field of a record; only custom functions skip. -/
def Check.outcome? (c : Check) (name : String) (r : Record) (patterns : PatternCache)
    (functions : Registry) : Option Outcome :=
  let field := r.get? name
  match c with
  | format c => some (c.outcome field patterns)
  | range c => some (c.outcome field)
  | completeness c => some (c.outcome field)
  | uniqueness c => some (c.outcome field r)
  | crossField c => some (c.outcome r patterns)
  | custom c => c.outcome? field r functions
  | unknown ruleType _ => some (.fail ("Unknown rule type: " ++ ruleType))

/-- The outcome of a rule for the named field of a record. -/
def Rule.outcome? (rule : Rule) (name : String) (r : Record) (patterns : PatternCache)
    (functions : Registry) : Option Outcome :=
  rule.check.outcome? name r patterns functions

end RecordRules
