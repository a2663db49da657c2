import RecordRules.Moment.Basic
import RecordRules.Numeral

/-! # Scalars of TOML texts

Truth values, numbers and dates as they stand in a text, without white space.

* `Scalar.ofWord?`   the scalar that a word spells -/

namespace RecordRules.Toml

/-- A scalar of a text.  A date or a time is kept in its canonical spelling. -/
inductive Scalar where
  | text (s : String)
  | integer (n : Int)
  | real (x : Binary64)
  | boolean (b : Bool)
  | moment (s : String)
  deriving DecidableEq, Inhabited

namespace Scalar

/-- Digits without the underscores between them; an underscore stands between two digits. -/
def ungroup? (isDigit : Char → Bool) : List Char → Option (List Char)
  | [] => none
  | [c] => if isDigit c then some [c] else none
  | c :: '_' :: rest =>
    if isDigit c then (ungroup? isDigit rest).map (c :: ·) else none
  | c :: rest => if isDigit c then (ungroup? isDigit rest).map (c :: ·) else none

/-- Decimal digits without underscores, and without a leading zero unless there is only one. -/
def whole? (cs : List Char) : Option (List Char) :=
  match ungroup? Char.isDigit cs with
  | some ('0' :: _ :: _) => none
  | digits => digits

/-- The natural that the digits of a radix spell. -/
def radixed? (radix : Nat) (cs : List Char) : Option Nat := do
  Numeral.natural? radix (← ungroup? (fun c => (Numeral.digitValue? radix c).isSome) cs)

/-- An integer: decimal with an optional sign, or without one in another radix. -/
def integer? (cs : List Char) : Option Int :=
  match cs with
  | '0' :: 'x' :: digits => (radixed? 16 digits).map Int.ofNat
  | '0' :: 'o' :: digits => (radixed? 8 digits).map Int.ofNat
  | '0' :: 'b' :: digits => (radixed? 2 digits).map Int.ofNat
  | _ => do
    let (negative, body) := Numeral.splitSign cs
    let n ← Numeral.natural? 10 (← whole? body)
    return if negative then -(n : Int) else n

/-- The exponent of a real, which may be missing. -/
def exponent? : List Char → Option (List Char)
  | [] => some []
  | c :: rest =>
    if c = 'e' || c = 'E' then
      let sign := rest.takeWhile fun d => d = '+' || d = '-'
      if sign.length ≤ 1 then
        (ungroup? Char.isDigit (rest.drop sign.length)).map fun digits => 'e' :: sign ++ digits
      else none
    else none

/-- The point of a real, which may be missing, and the digits behind it. -/
def fraction? : List Char → Option (List Char)
  | [] => some []
  | c :: rest =>
    if c = '.' then (ungroup? Char.isDigit rest).map ('.' :: ·) else none

/-- Whether a character begins an exponent. -/
def isExponent (c : Char) : Bool :=
  c = 'e' || c = 'E'

/-- A real in digits; one that is too large is refused. -/
def decimal? (cs : List Char) : Option Binary64 := do
  let (_, body) := Numeral.splitSign cs
  let sign := cs.take (cs.length - body.length)
  let whole ← whole? (body.takeWhile fun c => c ≠ '.' && !isExponent c)
  let rest := body.dropWhile fun c => c ≠ '.' && !isExponent c
  let fraction ← fraction? (rest.takeWhile (!isExponent ·))
  let exponent ← exponent? (rest.dropWhile (!isExponent ·))
  (Numeral.decimal? (sign ++ whole ++ fraction ++ exponent)).filter Binary64.isFinite

/-- A real. -/
def real? (cs : List Char) : Option Binary64 :=
  match String.ofList cs with
  | "inf" | "+inf" => some (.infinity false)
  | "-inf" => some (.infinity true)
  | "nan" | "+nan" | "-nan" => some .nan
  | _ => decimal? cs

/-- A number of a given count of digits, in some range, and what follows. -/
def digits? (count low high : Nat) (cs : List Char) : Option (List Char × List Char) := do
  let ds := cs.takeWhile Char.isDigit
  let n ← Numeral.natural? 10 ds
  guard (ds.length = count ∧ low ≤ n ∧ n ≤ high)
  return (ds, cs.drop ds.length)

/-- The rest after a character. -/
def after? (c : Char) : List Char → Option (List Char)
  | d :: rest => if c = d then some rest else none
  | [] => none

/-- The value of digits. -/
def valueOf (digits : List Char) : Nat :=
  (Numeral.natural? 10 digits).getD 0

/-- A date, and what follows. -/
def date? (cs : List Char) : Option (List Char × List Char) := do
  let (year, cs) ← digits? 4 0 9999 cs
  let cs ← after? '-' cs
  let (month, cs) ← digits? 2 1 12 cs
  let cs ← after? '-' cs
  let (day, cs) ← digits? 2 1 (daysInMonth (valueOf year) (valueOf month)) cs
  return (year ++ '-' :: month ++ '-' :: day, cs)

/-- The fraction of a second in its canonical spelling: nine digits at most, no zeros last. -/
def canonicalFraction (digits : List Char) : List Char :=
  match ((digits.take 9).reverse.dropWhile (· = '0')).reverse with
  | [] => []
  | ds => '.' :: ds

/-- The seconds of a time and their fraction, which may be missing, and what follows. -/
def seconds? : List Char → Option (List Char × List Char)
  | ':' :: cs => do
    let (second, cs) ← digits? 2 0 60 cs
    match cs with
    | '.' :: cs =>
      let fraction := cs.takeWhile Char.isDigit
      guard (!fraction.isEmpty)
      return (':' :: second ++ canonicalFraction fraction, cs.drop fraction.length)
    | _ => return (':' :: second, cs)
  | cs => some ([':', '0', '0'], cs)

/-- A time of day, and what follows. -/
def time? (cs : List Char) : Option (List Char × List Char) := do
  let (hour, cs) ← digits? 2 0 23 cs
  let cs ← after? ':' cs
  let (minute, cs) ← digits? 2 0 59 cs
  let (second, cs) ← seconds? cs
  return (hour ++ ':' :: minute ++ second, cs)

/-- An offset from UTC, which may be missing. -/
def offset? : List Char → Option (List Char)
  | [] => some []
  | ['Z'] | ['z'] => some ['Z']
  | sign :: cs => do
    guard (sign = '+' || sign = '-')
    let (hour, cs) ← digits? 2 0 23 cs
    let cs ← after? ':' cs
    let (minute, cs) ← digits? 2 0 59 cs
    guard cs.isEmpty
    let zero := valueOf hour = 0 && valueOf minute = 0
    return (if zero then '+' else sign) :: hour ++ ':' :: minute

/-- A date, a time, or both, with an offset only if both: the canonical spelling. -/
def moment? (cs : List Char) : Option (List Char) :=
  match date? cs with
  | some (date, []) => some date
  | some (date, c :: rest) => do
    guard (c = 'T' || c = 't' || c = ' ')
    let (time, rest) ← time? rest
    return date ++ 'T' :: time ++ (← offset? rest)
  | none => do
    let (time, rest) ← time? cs
    guard rest.isEmpty
    return time

/-- The scalar that a word spells. -/
def ofWord? (cs : List Char) : Option Scalar :=
  if cs = "true".toList then some (.boolean true)
  else if cs = "false".toList then some (.boolean false)
  else ((integer? cs).map integer).or
    (((real? cs).map real).or ((moment? cs).map fun s => moment (String.ofList s)))

end Scalar
end RecordRules.Toml
