import RecordRules.Binary64.Basic
import RecordRules.Text.Blank

/-! # Numbers written in text

Decimal literals, radix literals and the spelled infinity, as record values and conditions
write them.

* `Numeral.decimal?`   a decimal literal, rounded to the nearest number
* `Numeral.integer?`   a 64-bit integer
* `Numeral.number`     any numeral; what is none of them is NaN -/

namespace RecordRules.Numeral

/-- The worth of a character as a digit of radix at most 36. -/
def digitValue? (radix : Nat) (c : Char) : Option Nat :=
  let v :=
    if '0' ≤ c ∧ c ≤ '9' then c.toNat - '0'.toNat
    else if 'a' ≤ c ∧ c ≤ 'z' then c.toNat - 'a'.toNat + 10
    else if 'A' ≤ c ∧ c ≤ 'Z' then c.toNat - 'A'.toNat + 10
    else radix
  if v < radix then some v else none

/-- The natural that a list of digits is worth; `none` when a character is no digit. -/
def digitsFrom? (radix : Nat) : Nat → List Char → Option Nat
  | acc, [] => some acc
  | acc, c :: rest => do digitsFrom? radix (acc * radix + (← digitValue? radix c)) rest

/-- The natural that a list of one or more digits is worth. -/
def natural? (radix : Nat) (cs : List Char) : Option Nat :=
  if cs.isEmpty then none else digitsFrom? radix 0 cs

/-- An optional sign, and the rest. -/
def splitSign : List Char → Bool × List Char
  | '-' :: rest => (true, rest)
  | '+' :: rest => (false, rest)
  | cs => (false, cs)

/-- A 64-bit integer: an optional sign and one or more digits. -/
def integer? (cs : List Char) : Option Int64 := do
  let (negative, digits) := splitSign cs
  let n ← natural? 10 digits
  let i : Int := if negative then -(n : Int) else n
  if isSigned64 i then some (Int64.ofInt i) else none

/-- An unsigned 64-bit integer in a radix; a plus sign may stand in front. -/
def unsigned? (radix : Nat) (cs : List Char) : Option Nat := do
  let digits := match cs with
    | '+' :: rest => rest
    | _ => cs
  let n ← natural? radix digits
  if isUnsigned64 n then some n else none

/-- The exponent part of a decimal literal: nothing, or `e` with an optional sign and at
    least one digit. -/
def exponent? : List Char → Option Int
  | [] => some 0
  | c :: rest =>
    if c = 'e' ∨ c = 'E' then do
      let (negative, digits) := splitSign rest
      let n ← natural? 10 digits
      some (if negative then -(n : Int) else n)
    else none

/-- A decimal literal: an optional sign, digits with an optional point (at least one digit
    in all), an optional exponent. -/
def decimal? (cs : List Char) : Option Binary64 := do
  let (negative, body) := splitSign cs
  let whole := body.takeWhile Char.isDigit
  let afterWhole := body.dropWhile Char.isDigit
  let (fraction, tail) := match afterWhole with
    | '.' :: rest => (rest.takeWhile Char.isDigit, rest.dropWhile Char.isDigit)
    | rest => ([], rest)
  let digits ← natural? 10 (whole ++ fraction)
  let e ← exponent? tail
  some (.ofDecimal negative digits (e - fraction.length))

/-- The radix that a prefix such as `0x` selects, and the digits after it. -/
def radixLiteral? : List Char → Option (Nat × List Char)
  | '0' :: 'x' :: ds | '0' :: 'X' :: ds => some (16, ds)
  | '0' :: 'o' :: ds | '0' :: 'O' :: ds => some (8, ds)
  | '0' :: 'b' :: ds | '0' :: 'B' :: ds => some (2, ds)
  | _ => none

/-- The infinity that a text spells. -/
def infinity? (s : String) : Option Binary64 :=
  if s = "Infinity" ∨ s = "+Infinity" then some (.infinity false)
  else if s = "-Infinity" then some (.infinity true)
  else none

/-- The number that a text without surrounding blanks is worth. -/
def ofTrimmed (cs : List Char) : Binary64 :=
  if cs.isEmpty then .zero
  else match infinity? (String.ofList cs) with
    | some x => x
    | none => match radixLiteral? cs with
      | some (radix, digits) => ((unsigned? radix digits).map .ofNat).getD .nan
      | none => (decimal? cs).getD .nan

/-- The number that a text is worth.  Blank text is zero, and a text that is no numeral is
    NaN. -/
def number (s : String) : Binary64 :=
  ofTrimmed (trimBlanks s.toList)

end RecordRules.Numeral
