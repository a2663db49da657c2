import RecordRules.Binary64.Basic

/-! # The fewest digits that read back

A finite number other than zero is written with the fewest decimal digits that read back
to it; of several such decimals the nearest is taken.  The search is exact: the reals that
round to the number form an interval, and for one, two, … seventeen digits the two
neighbours of the number on that decimal grid are tried against it.

* `Binary64.shortest`   digits `d` and exponent `p`, worth `d * 10 ^ p` -/

namespace RecordRules

/-- Where an exact tie between two decimals goes. -/
inductive TieRule where
  | up
  | toEven
  deriving DecidableEq

namespace Binary64

/-- The reals that round to a magnitude, in quarters of a unit, and whether the ends belong
    to them. -/
structure RoundingInterval where
  low : Nat
  high : Nat
  closed : Bool

/-- Half the gap to each neighbour; below a power of two the gap is half as wide. -/
def roundingInterval (units : Nat) : RoundingInterval :=
  let e := lastPlace units
  let m := units / twoTo e
  let gap := twoTo e
  let below := if m = twoTo 52 ∧ 0 < e then gap else 2 * gap
  ⟨4 * units - below, 4 * units + 2 * gap, m % 2 = 0⟩

/-- `digits * 10 ^ power`, over a common denominator with quarters of a unit. -/
def RoundingInterval.contains (i : RoundingInterval) (digits : Nat) (power : Int) : Bool :=
  let scaled := digits * tenTo power.toNat * twoTo (unitExponent + 2)
  let den := tenTo (-power).toNat
  if i.closed then i.low * den ≤ scaled && scaled ≤ i.high * den
  else i.low * den < scaled && scaled < i.high * den

/-- The exponent `p` with `10 ^ p ≤ units * 2 ^ -1074 < 10 ^ (p + 1)`. -/
def decimalExponent (units : Nat) : Int :=
  -- scaled by `10 ^ 400`, every magnitude of the format is at least `10 ^ 76`
  (decimalWidth (units * tenTo 400 / twoTo unitExponent) : Int) - 401

/-- The neighbours of the magnitude on the grid of `10 ^ power`: the one below it, and the
    doubled remainder compared with the step. -/
def gridBelow (units : Nat) (power : Int) : Nat × Ordering :=
  let num := units * tenTo (-power).toNat
  let den := twoTo unitExponent * tenTo power.toNat
  (num / den, compare (2 * (num % den)) den)

/-- The candidate on one grid, if the interval meets it. -/
def onGrid? (tie : TieRule) (i : RoundingInterval) (units : Nat) (power : Int) : Option Nat :=
  let (d, half) := gridBelow units power
  match i.contains d power, i.contains (d + 1) power with
  | false, false => none
  | true, false => some d
  | false, true => some (d + 1)
  | true, true =>
    match half, tie with
    | .lt, _ => some d
    | .gt, _ => some (d + 1)
    | .eq, .up => some (d + 1)
    | .eq, .toEven => some (if d % 2 = 0 then d else d + 1)

/-- Tries the grids in turn, the coarsest first. -/
def shortestFrom (tie : TieRule) (i : RoundingInterval) (units : Nat) :
    Nat → Int → Nat × Int
  | 0, power => ((gridBelow units power).1, power)
  | tries + 1, power =>
    match onGrid? tie i units power with
    | some d => (d, power)
    | none => shortestFrom tie i units tries (power - 1)

/-- Moves trailing zeros of the digits into the exponent. -/
def dropZeros : Nat → Nat → Int → Nat × Int
  | 0, d, p => (d, p)
  | fuel + 1, d, p => if d % 10 = 0 then dropZeros fuel (d / 10) (p + 1) else (d, p)

/-- The fewest digits that read back to a magnitude other than zero, as `d * 10 ^ p`. -/
def shortest (tie : TieRule) (units : Nat) : Nat × Int :=
  let (d, p) := shortestFrom tie (roundingInterval units) units 17 (decimalExponent units)
  dropZeros 18 d p

end Binary64
end RecordRules
