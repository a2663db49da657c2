import RecordRules.Coercion
import RecordRules.Outcome
import RecordRules.Rule.Basic

/-! # Checking numbers against bounds

A field that is absent or null passes.  The minimum is checked before the maximum. -/

namespace RecordRules

/-- The value of a field that is present and not null. -/
def present? : Option Value → Option Value
  | some .null => none
  | v => v

namespace RangeCheck

/-- What there is to say about a number below the minimum. -/
def minimumFault? (inclusive : Bool) (min number : Binary64) : Option String :=
  if inclusive then
    if number.lt min then some ("Value " ++ number.toMessage ++
      " is below the inclusive minimum of " ++ min.toMessage)
    else none
  else if number.le min then some ("Value " ++ number.toMessage ++
    " must be greater than the exclusive minimum of " ++ min.toMessage)
  else none

/-- What there is to say about a number above the maximum. -/
def maximumFault? (inclusive : Bool) (max number : Binary64) : Option String :=
  if inclusive then
    if max.lt number then some ("Value " ++ number.toMessage ++
      " is above the inclusive maximum of " ++ max.toMessage)
    else none
  else if max.le number then some ("Value " ++ number.toMessage ++
    " must be less than the exclusive maximum of " ++ max.toMessage)
  else none

/-- What there is to say about a number outside the bounds. -/
def fault? (c : RangeCheck) (number : Binary64) : Option String :=
  c.min.bind (minimumFault? c.inclusive · number) <|>
    c.max.bind (maximumFault? c.inclusive · number)

/-- The outcome for the value of a field. -/
def outcome (c : RangeCheck) (field : Option Value) : Outcome :=
  match present? field with
  | none => .pass
  | some v =>
    let number := Coercion.ofValue v
    if number.isFinite then
      match c.fault? number with
      | some message => .fail message
      | none => .pass
    else .fail ("Value '" ++ v.display ++ "' is not a valid number for range validation")

end RangeCheck
end RecordRules
