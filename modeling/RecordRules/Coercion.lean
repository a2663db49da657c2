import RecordRules.Moment.Reader
import RecordRules.Numeral
import RecordRules.Value

/-! # Coercion of values

Rules compare loosely: numeric text compares as a number, date text as a moment, and an
absent field is not an explicit null.  Every check goes through these functions, so the same
value is read the same way everywhere.  A field is given as `Option Value`; `none` is an
absent field. -/

namespace RecordRules.Coercion

/-- The number that a present value is worth. -/
def ofValue : Value → Binary64
  | .null => .zero
  | .boolean b => if b then .ofNat 1 else .zero
  | .integer n => .ofInt n.toInt
  | .real x => x
  | .text s => Numeral.number s

/-- The number that a field is worth.  An absent field is NaN, null is zero. -/
def toNumber : Option Value → Binary64
  | none => .nan
  | some v => ofValue v

/-- Absent or null. -/
def isNullish : Option Value → Bool
  | none | some .null => true
  | _ => false

/-- The number of a field that is present, not null, and not NaN. -/
def numeric? (v : Option Value) : Option Binary64 :=
  if isNullish v || (toNumber v).isNaN then none else some (toNumber v)

/-- The moment that a text value names. -/
def moment? : Option Value → Option Moment
  | some (.text s) => Moment.ofText? s
  | _ => none

/-- Only text that reads as a date or a date with a time is date-like. -/
def isDateLike (v : Option Value) : Bool :=
  (moment? v).isSome

/-- Milliseconds since the epoch: of date text, or a finite number as it is. -/
def millis? : Option Value → Option Binary64
  | some (.text s) => (Moment.ofText? s).map fun t => .ofInt t.millis
  | some (.integer n) => some (.ofInt n.toInt)
  | some (.real x) => if x.isFinite then some x else none
  | _ => none

/-- Loose equality: null and absent equal only each other, values of one kind compare as
    they are, and every other mix compares as numbers. -/
def looseEq (a b : Option Value) : Bool :=
  if isNullish a || isNullish b then isNullish a && isNullish b
  else match a, b with
    | some (.text x), some (.text y) => x == y
    | some (.boolean x), some (.boolean y) => x == y
    | some (.integer x), some (.integer y) => x == y
    | _, _ => (toNumber a).eq (toNumber b)

/-- Strict equality: the same kind and equal.  Integers and reals are one kind, and NaN
    equals nothing. -/
def strictEq : Option Value → Option Value → Bool
  | none, none => true
  | some .null, some .null => true
  | some (.boolean x), some (.boolean y) => x == y
  | some (.text x), some (.text y) => x == y
  | some (.integer x), some (.integer y) => x == y
  | some x, some y =>
    match x.real?, y.real? with
    | some p, some q => p.eq q
    | _, _ => false
  | _, _ => false

/-- Absent, null, false, zero, NaN and the empty text are not truthy. -/
def isTruthy : Option Value → Bool
  | none | some .null => false
  | some (.boolean b) => b
  | some (.integer n) => n != 0
  | some (.real x) => !x.isZero && !x.isNaN
  | some (.text s) => s != ""

/-- Absent, null, or the empty text. -/
def isBlankField : Option Value → Bool
  | none | some .null => true
  | some (.text s) => s == ""
  | some _ => false

/-- The text of a field in messages and text comparisons. -/
def display : Option Value → String
  | none => "undefined"
  | some v => v.display

end RecordRules.Coercion
