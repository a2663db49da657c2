import RecordRules.RuleSet

/-! # The engine

An engine holds the rule set that was loaded last and the functions registered so far. -/

namespace RecordRules

/-- The rules in force and the functions they may name. -/
structure Engine where
  ruleSet : RuleSet := .empty
  functions : Registry := .empty

namespace Engine

/-- An engine without rules, with some functions. -/
def withFunctions (functions : Registry) : Engine :=
  { functions }

/-- Loads rules in place of those loaded before. -/
def load (e : Engine) (rules : List Rule) : Engine :=
  { e with ruleSet := .ofRules rules }

/-- Registers a function in place of one of that name. -/
def register (e : Engine) (name : String) (function : CustomFunction) : Engine :=
  { e with functions := e.functions.register name function }

/-- The engine with one more function, in place of one of that name. -/
def withFunction (e : Engine) (name : String) (function : CustomFunction) : Engine :=
  e.register name function

/-- The rules in force, in order. -/
def rules (e : Engine) : List Rule :=
  e.ruleSet.definitions

/-- The results for a record. -/
def validate (e : Engine) (r : Record) : List Result :=
  e.ruleSet.results e.functions r

/-- The report for a record. -/
def report (e : Engine) (r : Record) : Report :=
  e.ruleSet.report e.functions r

end Engine
end RecordRules
