import RecordRules.PatternCache
import RecordRules.Target

/-! # What is wrong with rules

An issue is a flaw of a rule that can be told without a record.

* `Issue.ofRules`   the issues of rules, in the order of the rules -/

namespace RecordRules

/-- A flaw of a rule. -/
inductive Flaw where
  | unknownType (name : String)
  /-- The pattern does not compile. -/
  | badPattern (message : String)
  /-- The target is too long to be used. -/
  | badTarget (pattern : String)
  deriving DecidableEq, Repr

namespace Flaw

/-- The wording. -/
def message : Flaw → String
  | unknownType name => "Unknown rule type: " ++ name
  | badPattern message => "Invalid regex pattern: " ++ message
  | badTarget pattern => "Invalid target pattern: " ++ pattern

/-- The flaw of a check whose type is not known. -/
def ofType? : Check → Option Flaw
  | .unknown name _ => some (unknownType name)
  | _ => none

/-- The flaw of a rule whose pattern does not compile. -/
def ofPattern? (patterns : PatternCache) (r : Rule) : Option Flaw :=
  (r.pattern?.bind patterns.faultMessage?).map badPattern

/-- The flaw of a rule whose target cannot be used. -/
def ofTarget? (r : Rule) : Option Flaw :=
  if Target.ofPattern r.target = .invalid then some (badTarget r.target) else none

/-- The flaws of a rule, with the patterns of the rule set. -/
def ofRule (patterns : PatternCache) (r : Rule) : List Flaw :=
  [ofType? r.check, ofPattern? patterns r, ofTarget? r].filterMap id

end Flaw

/-- A flaw of the rule with an identifier. -/
structure Issue where
  ruleId : String
  flaw : Flaw
  deriving DecidableEq, Repr

namespace Issue

/-- The wording. -/
def message (i : Issue) : String :=
  "[" ++ i.ruleId ++ "] " ++ i.flaw.message

/-- The issues of rules. -/
def ofRules (rules : List Rule) : List Issue :=
  let patterns := PatternCache.ofRules rules
  rules.flatMap fun r => (Flaw.ofRule patterns r).map (⟨r.id, ·⟩)

end Issue
end RecordRules
