import RecordRules.Json.Error
import RecordRules.Numeral

/-! # Numbers in JSON text

A number without point and exponent is an integer as long as a 64-bit word holds it.  Any
other is real: its digits are gathered into a 64-bit significand, digits past that are
dropped, and the significand, as a real, is multiplied or divided by the power of ten.  Two
roundings may happen on the way, so the result can be one place off the nearest number. -/

namespace RecordRules.JsonNumber

/-- A number of the text: an integer of a 64-bit word, or a real. -/
inductive Parsed where
  | integer (n : Int)
  | real (x : Binary64)

/-- Multiplies or divides a magnitude by a power of ten, in steps of at most `10 ^ 308`. -/
def scale : Nat → Binary64 → Int → Except JsonFault Binary64
  | 0, x, _ => .ok x
  | fuel + 1, x, e =>
    if e.natAbs ≤ 308 then
      let power := Binary64.ofDecimal false 1 e.natAbs
      if 0 ≤ e then
        let y := x.mul power
        if y.isFinite then .ok y else .error .numberOutOfRange
      else .ok (x.div power)
    else if x.isZero then .ok x
    else if 0 ≤ e then .error .numberOutOfRange
    else scale fuel (x.div (.ofDecimal false 1 308)) (e + 308)

/-- The real of a sign, a significand and a power of ten. -/
def toReal (negative : Bool) (significand : Nat) (e : Int) : Except JsonFault Binary64 := do
  let x ← scale 6 (.ofNat significand) e
  return if negative then x.negate else x

/-- Takes digits into a significand as long as it stays below `2 ^ 64`: the significand, how
    many digits it took, and the rest. -/
def takeDigits : Nat → Nat → List Char → Nat × Nat × List Char
  | n, count, [] => (n, count, [])
  | n, count, c :: rest =>
    if c.isDigit then
      let next := 10 * n + (c.toNat - '0'.toNat)
      if isUnsigned64 next then takeDigits next (count + 1) rest else (n, count, c :: rest)
    else (n, count, c :: rest)

/-- The exponent of a number, after its `e`; it saturates at 32 bits. -/
def exponent (negative : Bool) (significand : Nat) (start : Int) (cs : List Char) :
    Except JsonFault (Binary64 × List Char) :=
  let (down, digits) := Numeral.splitSign cs
  match digits with
  | [] => .error .endInValue
  | c :: _ =>
    if !c.isDigit then .error .invalidNumber
    else
      let ds := digits.takeWhile Char.isDigit
      let rest := digits.dropWhile Char.isDigit
      let e := (Numeral.natural? 10 ds).getD 0
      if twoTo 31 ≤ e then
        if significand ≠ 0 ∧ ¬ down then .error .numberOutOfRange
        else .ok (.zeroOf negative, rest)
      else do
        let x ← toReal negative significand (start + if down then -(e : Int) else e)
        return (x, rest)

/-- What may follow the digits of a real: its exponent, or nothing. -/
def optionalExponent (negative : Bool) (significand : Nat) (start : Int) (cs : List Char) :
    Except JsonFault (Binary64 × List Char) :=
  match cs with
  | 'e' :: rest | 'E' :: rest => exponent negative significand start rest
  | rest => (toReal negative significand start).map (·, rest)

/-- The digits after the point and what follows; `dropped` digits before the point are not
    in the significand. -/
def fraction (negative : Bool) (significand dropped : Nat) (cs : List Char) :
    Except JsonFault (Binary64 × List Char) :=
  let (n, count, rest) := takeDigits significand 0 cs
  match count, rest with
  | 0, [] => .error .endInValue
  | 0, c :: _ =>
    if c.isDigit then optionalExponent negative n dropped (rest.dropWhile Char.isDigit)
    else .error .invalidNumber
  | _, _ =>
    optionalExponent negative n ((dropped : Int) - count) (rest.dropWhile Char.isDigit)

/-- What follows the digits before the point. -/
def afterWhole (negative : Bool) (significand dropped : Nat) (cs : List Char) :
    Except JsonFault (Parsed × List Char) :=
  match cs with
  | '.' :: rest => (fraction negative significand dropped rest).map fun (x, r) => (.real x, r)
  | 'e' :: rest | 'E' :: rest =>
    (exponent negative significand dropped rest).map fun (x, r) => (.real x, r)
  | rest =>
    if dropped = 0 ∧ ¬ negative then .ok (.integer significand, rest)
    else if dropped = 0 ∧ 0 < significand ∧ significand ≤ twoTo 63 then
      .ok (.integer (-(significand : Int)), rest)
    else (toReal negative significand dropped).map fun x => (.real x, rest)

/-- A number after its sign. -/
def unsigned (negative : Bool) (cs : List Char) : Except JsonFault (Parsed × List Char) :=
  match cs with
  | [] => .error .endInValue
  | '0' :: rest =>
    match rest with
    | c :: _ => if c.isDigit then .error .invalidNumber else afterWhole negative 0 0 rest
    | [] => afterWhole negative 0 0 rest
  | c :: _ =>
    if c.isDigit then
      let (n, _, rest) := takeDigits 0 0 cs
      afterWhole negative n (rest.takeWhile Char.isDigit).length (rest.dropWhile Char.isDigit)
    else .error .invalidNumber

/-- A number. -/
def read (cs : List Char) : Except JsonFault (Parsed × List Char) :=
  match cs with
  | '-' :: rest => unsigned true rest
  | _ => unsigned false cs

end RecordRules.JsonNumber
