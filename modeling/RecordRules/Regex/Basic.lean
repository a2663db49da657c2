import RecordRules.Regex.Parser
import RecordRules.Regex.Program

/-! # Regular expressions

* `Regex.compile`   the expression of a pattern
* `Regex.isMatch`   whether it matches anywhere in a text -/

namespace RecordRules

/-- A compiled pattern. -/
structure Regex where
  program : Regex.Program

namespace Regex

/-- Why a pattern is refused. -/
inductive Refusal where
  | faulty (fault : Fault)
  | tooLarge
  deriving DecidableEq, Repr

/-- The wording of a refusal of a pattern. -/
def Refusal.message (pattern : String) : Refusal → String
  | faulty fault => fault.report pattern
  | tooLarge =>
    "Compiled regex exceeds size limit of " ++ toString Tree.sizeLimit ++ " bytes."

/-- Reads and translates a pattern. -/
def treeOf (pattern : String) : Except Fault Tree := do
  Tree.ofAst (← parse pattern)

/-- The expression of a pattern. -/
def compile (pattern : String) : Except Refusal Regex :=
  match treeOf pattern with
  | .error fault => .error (.faulty fault)
  | .ok tree => if tree.fits then .ok ⟨.ofTree tree⟩ else .error .tooLarge

/-- Whether an expression matches anywhere in a text. -/
def isMatch (r : Regex) (text : String) : Bool :=
  r.program.isMatch text

end Regex
end RecordRules
