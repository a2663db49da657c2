import RecordRules.Rule.Basic

/-! # Rules in the making

An outline has the parts of a rule that are settled so far.  All of them but the check may be
left to their defaults.

* `RuleOutline.toRule`   the rule of an outline -/

namespace RecordRules

/-- The settled parts of a rule. -/
structure RuleOutline where
  id : String
  name : String
  description : Option String := none
  target : Option String := none
  check : Option Check := none
  severity : Option String := none
  enabled : Option Bool := none
  deriving Inhabited

/-- What an outline misses. -/
inductive OutlineFault where
  | noCheck
  deriving DecidableEq, Repr

/-- The wording. -/
def OutlineFault.message : OutlineFault → String
  | noCheck => "config is required"

/-- The rule of an outline: without a target it is aimed at every field, its severity is that of
    errors, and it is enabled. -/
def RuleOutline.toRule (o : RuleOutline) : Except OutlineFault Rule :=
  match o.check with
  | none => .error .noCheck
  | some check => .ok
    { id := o.id
      name := o.name
      description := o.description
      target := o.target.getD "*"
      check := check
      severity := o.severity.getD "error"
      enabled := o.enabled.getD true }

end RecordRules
