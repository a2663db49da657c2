import RecordRules.Named
import RecordRules.Outcome
import RecordRules.Record
import RecordRules.Text.Quoted

/-! # Custom functions

Custom rules name a function.  A registry holds at most one function under a name. -/

namespace RecordRules

/-- A function that a custom rule can name: it is given the value of the field, the record and
    the parameters of the rule, and skips the field by giving no outcome. -/
abbrev CustomFunction := Option Value → Record → Json → Option Outcome

/-- Functions by name. -/
structure Registry where
  functions : List (String × CustomFunction) := []

namespace Registry

/-- The registry without functions. -/
def empty : Registry := {}

/-- The function of a name. -/
def get? (r : Registry) (name : String) : Option CustomFunction :=
  r.functions.lookup name

/-- Registers a function, in place of one of that name. -/
def register (r : Registry) (name : String) (function : CustomFunction) : Registry :=
  ⟨Named.put name function r.functions⟩

/-- How many functions there are. -/
def size (r : Registry) : Nat :=
  r.functions.length

/-- A registered function stands for its name and leaves the other names alone. -/
theorem get?_register (r : Registry) (name other : String) (function : CustomFunction) :
    (r.register name function).get? other =
      if other = name then some function else r.get? other :=
  Named.lookup_put name other function r.functions

/-- The names in order, for diagnostics. -/
def describe (r : Registry) : String :=
  let names := (r.functions.map Prod.fst).mergeSort fun a b => a ≤ b
  "CustomFunctionRegistry \x7b functions: [" ++ ", ".intercalate (names.map quoted) ++ "] \x7d"

end Registry

end RecordRules
