import RecordRules.Coercion
import RecordRules.Record
import RecordRules.Text.Find

/-! # Conditions written as text

A condition is an operator and what stands to its right, such as `>= 18`, `== {country}` or
`includes "@"`.  The field to its left is named elsewhere; whatever stands before the operator
does not count.

* `Condition.parse`   the condition of a text
* `Condition.holds`   whether a field of a record satisfies it -/

namespace RecordRules

/-- Why a text is no condition. -/
inductive ConditionFault where
  | missingOperator (text : String)
  | missingOperand (text : String)
  | unterminatedReference (operand : String)
  | emptyReference (text : String)
  deriving DecidableEq, Repr

/-- The wording of a fault. -/
def ConditionFault.message : ConditionFault → String
  | missingOperator text => "no supported operator in '" ++ text ++ "'"
  | missingOperand text => "missing right-hand operand in '" ++ text ++ "'"
  | unterminatedReference operand => "unterminated field reference '" ++ operand ++ "'"
  | emptyReference text => "empty field reference in '" ++ text ++ "'"

/-- An operator. -/
inductive Relation where
  | eq
  | ne
  | ge
  | le
  | gt
  | lt
  | includes
  deriving DecidableEq, Repr, Inhabited

namespace Relation

/-- How an operator is written. -/
def token : Relation → String
  | eq => "=="
  | ne => "!="
  | ge => ">="
  | le => "<="
  | gt => ">"
  | lt => "<"
  | includes => "includes"

/-- The operators, in the order in which they are looked for. -/
def inOrder : List Relation := [eq, ne, ge, le, gt, lt, includes]

end Relation

/-- What stands to the right of an operator. -/
inductive Operand where
  /-- The value of another field. -/
  | field (name : String)
  | literal (v : Value)
  deriving DecidableEq, Inhabited

namespace Operand

/-- The value that a text without quotes or braces stands for. -/
def bareValue (cs : List Char) : Value :=
  match String.ofList cs with
  | "true" => .boolean true
  | "false" => .boolean false
  | "null" => .null
  | text =>
    match Numeral.integer? cs with
    | some n => .integer n
    | none =>
      let number := Numeral.number text
      if number.isFinite then .real number else .text text

/-- What stands between two quotes of the given kind that enclose a text. -/
def unquote? (quote : Char) : List Char → Option (List Char)
  | c :: d :: rest =>
    if c = quote ∧ (d :: rest).getLast? = some quote then some ((d :: rest).dropLast) else none
  | _ => none

/-- The operand of a text without blanks around it; `whole` is the condition it is part of. -/
def parse (cs : List Char) (whole : String) : Except ConditionFault Operand :=
  match cs with
  | '{' :: inner =>
    if inner.getLast? = some '}' then
      let name := trimBlanks inner.dropLast
      if name.isEmpty then .error (.emptyReference whole) else .ok (.field (String.ofList name))
    else .error (.unterminatedReference (String.ofList cs))
  | _ =>
    match unquote? '"' cs <|> unquote? '\'' cs with
    | some inner => .ok (.literal (.text (String.ofList inner)))
    | none => .ok (.literal (bareValue cs))

/-- The value of an operand, given a record. -/
def value (o : Operand) (r : Record) : Option Value :=
  match o with
  | field name => r.get? name
  | literal v => some v

end Operand

/-- A condition. -/
structure Condition where
  relation : Relation
  operand : Operand
  deriving DecidableEq, Inhabited

namespace Condition

/-- The operator of a text, and what stands behind it. -/
def splitOperator? (cs : List Char) : Option (Relation × List Char) :=
  Relation.inOrder.findSome? fun o =>
    (Text.splitAt? o.token.toList cs).map fun (_, after) => (o, after)

/-- The condition of a text. -/
def parse (text : String) : Except ConditionFault Condition :=
  match splitOperator? text.toList with
  | none => .error (.missingOperator text)
  | some (o, after) =>
    let operand := trimBlanks after
    if operand.isEmpty then .error (.missingOperand text)
    else (Operand.parse operand text).map (⟨o, ·⟩)

/-- How two fields are ordered: dates as moments, two texts as texts, all else as numbers. -/
def order? (a b : Option Value) : Option Ordering :=
  let byKind : Option Ordering := match a, b with
    | some (.text x), some (.text y) => some (compare x y)
    | _, _ => (Coercion.toNumber a).compare? (Coercion.toNumber b)
  if Coercion.isDateLike a && Coercion.isDateLike b then
    match Coercion.millis? a, Coercion.millis? b with
    | some x, some y => x.compare? y
    | _, _ => byKind
  else byKind

/-- Whether the text of a present field contains the text of another. -/
def includes (subject operand : Option Value) : Bool :=
  match subject with
  | none | some .null => false
  | some v => Text.contains v.display (Coercion.display operand)

/-- Whether two fields stand in a relation. -/
def relates (o : Relation) (subject operand : Option Value) : Bool :=
  match o with
  | .eq => Coercion.looseEq subject operand
  | .ne => !Coercion.looseEq subject operand
  | .ge => order? subject operand == some .gt || order? subject operand == some .eq
  | .le => order? subject operand == some .lt || order? subject operand == some .eq
  | .gt => order? subject operand == some .gt
  | .lt => order? subject operand == some .lt
  | .includes => includes subject operand

/-- Whether a field satisfies a condition, the other fields being those of a record. -/
def holds (c : Condition) (subject : Option Value) (r : Record) : Bool :=
  relates c.relation subject (c.operand.value r)

end Condition
end RecordRules
