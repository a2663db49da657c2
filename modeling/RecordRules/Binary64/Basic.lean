import RecordRules.Word

/-! # Binary64 numbers, exactly

A binary64 number is kept as what it is worth, not as a machine word.  Every finite
number of the format is a whole multiple of `2 ^ -1074`, so a finite number is a sign
and that multiple (`units`), together with the proof that 53 significant bits hold it.
Comparison is comparison of integers, and the sum of two numbers is the exact sum,
rounded once.  NaNs are not told apart: no output can show their payload.

* `Binary64.ofRatio`    the nearest number to a ratio of naturals, ties to even
* `Binary64.compare?`   the order; a NaN is not ordered with anything
* `Binary64.add`        the rounded sum -/

namespace RecordRules

/-- The exponent of the unit is `-unitExponent`. -/
def unitExponent : Nat := 1074

/-- `2 ^ 1024` in units: the first magnitude past the finite numbers. -/
def overflowUnits : Nat :=
  twoTo (1024 + unitExponent)

theorem overflowUnits_pos : 0 < overflowUnits := by
  unfold overflowUnits
  exact twoTo_pos _

/-- The units `u` of `2 ^ -1074` fit 53 significant bits and stay below `2 ^ 1024`. -/
def Representable (u : Nat) : Prop :=
  u < overflowUnits ∧ ∃ m e, m < twoTo 53 ∧ u = m * twoTo e

theorem Representable.zero : Representable 0 :=
  ⟨overflowUnits_pos, 0, 0, by decide, rfl⟩

/-- A significand that rounding carried up to `2 ^ 53` is one that ends in zero bits. -/
theorem Representable.of_carry {m e : Nat} (hm : m ≤ twoTo 53) (hu : m * twoTo e < overflowUnits) :
    Representable (m * twoTo e) := by
  refine ⟨hu, ?_⟩
  rcases Nat.lt_or_eq_of_le hm with h | h
  · exact ⟨m, e, h, rfl⟩
  · refine ⟨twoTo 52, e + 1, by decide, ?_⟩
    have exponents : 53 + e = 52 + (e + 1) := by omega
    rw [h, ← twoTo_add, ← twoTo_add, exponents]

/-- A binary64 number: `finite s u` is worth `± u * 2 ^ -1074`, and keeps the sign of zero. -/
inductive Binary64 where
  | nan
  | infinity (negative : Bool)
  | finite (negative : Bool) (units : Nat) (representable : Representable units)
  deriving DecidableEq

namespace Binary64

/-- The zero of a sign. -/
def zeroOf (negative : Bool) : Binary64 :=
  .finite negative 0 .zero

/-- Positive zero. -/
def zero : Binary64 :=
  zeroOf false

instance : Inhabited Binary64 := ⟨zero⟩

/-- The exponent of the last bit that a number of `q` units keeps. -/
def lastPlace (q : Nat) : Nat :=
  q.log2 - 52

/-- `⌊num / den⌋` or the natural above it, whichever is nearer; a tie goes to the even one. -/
def divNearestEven (num den : Nat) : Nat :=
  let q := num / den
  let r := num % den
  if 2 * r < den then q
  else if den < 2 * r then q + 1
  else if q % 2 = 0 then q else q + 1

/-- Rounding a quotient goes up by one at most. -/
theorem divNearestEven_le (num den : Nat) : divNearestEven num den ≤ num / den + 1 := by
  unfold divNearestEven
  grind

/-- The number of the given sign nearest to `num / den` units; past the largest one it is
    infinite. -/
def ofUnits (negative : Bool) (num den : Nat) : Binary64 :=
  let e := lastPlace (num / den)
  let m := divNearestEven num (den * twoTo e)
  if h : m ≤ twoTo 53 ∧ m * twoTo e < overflowUnits then
    .finite negative (m * twoTo e) (.of_carry h.1 h.2)
  else
    .infinity negative

/-- The number nearest to `± num / den`. -/
def ofRatio (negative : Bool) (num den : Nat) : Binary64 :=
  ofUnits negative (num * twoTo unitExponent) den

/-- The number nearest to an integer. -/
def ofInt (n : Int) : Binary64 :=
  ofRatio (decide (n < 0)) n.natAbs 1

/-- The number nearest to a natural. -/
def ofNat (n : Nat) : Binary64 :=
  ofRatio false n 1

instance (n : Nat) : OfNat Binary64 n := ⟨ofNat n⟩

/-- How many decimal digits a natural has; zero has none. -/
def decimalWidth (n : Nat) : Nat :=
  if n = 0 then 0 else (Nat.toDigits 10 n).length

/-- The number nearest to `± digits * 10 ^ exponent`.  Exponents so far out that the answer
    is infinite or zero whatever the digits are are settled without forming the power. -/
def ofDecimal (negative : Bool) (digits : Nat) (exponent : Int) : Binary64 :=
  let top := exponent + decimalWidth digits
  if digits = 0 then zeroOf negative
  else if 310 < top then .infinity negative
  else if top < -325 then zeroOf negative
  else if 0 ≤ exponent then ofRatio negative (digits * tenTo exponent.toNat) 1
  else ofRatio negative digits (tenTo (-exponent).toNat)

/-- Not a number. -/
def isNaN : Binary64 → Bool
  | .nan => true
  | _ => false

/-- Neither infinite nor a NaN. -/
def isFinite : Binary64 → Bool
  | .finite .. => true
  | _ => false

/-- Worth zero, of either sign. -/
def isZero : Binary64 → Bool
  | .finite _ u _ => u == 0
  | _ => false

/-- The place on the number line, in units; the infinities lie just past the finite
    numbers.  A NaN has no place. -/
def place? : Binary64 → Option Int
  | .nan => none
  | .infinity s => some (if s then -(overflowUnits : Int) else overflowUnits)
  | .finite s u _ => some (if s then -(u : Int) else u)

/-- The order of two numbers; `none` when one of them is a NaN. -/
def compare? (x y : Binary64) : Option Ordering :=
  match x.place?, y.place? with
  | some a, some b => some (compare a b)
  | _, _ => none

/-- Equal in worth: both zeros are equal, and a NaN equals nothing. -/
def eq (x y : Binary64) : Bool :=
  x.compare? y == some .eq

/-- Strictly below. -/
def lt (x y : Binary64) : Bool :=
  x.compare? y == some .lt

/-- Below or equal in worth. -/
def le (x y : Binary64) : Bool :=
  x.lt y || x.eq y

/-- The number with the other sign. -/
def negate : Binary64 → Binary64
  | .nan => .nan
  | .infinity s => .infinity !s
  | .finite s u h => .finite (!s) u h

/-- The rounded sum.  An exact zero is negative only if both summands are. -/
def add : Binary64 → Binary64 → Binary64
  | .nan, _ | _, .nan => .nan
  | .infinity s, .infinity t => if s = t then .infinity s else .nan
  | .infinity s, .finite .. => .infinity s
  | .finite .., .infinity t => .infinity t
  | .finite s u _, .finite t v _ =>
    let total : Int := (if s then -(u : Int) else u) + (if t then -(v : Int) else v)
    if total = 0 then zeroOf (s && t) else ofUnits (decide (total < 0)) total.natAbs 1

instance : Add Binary64 := ⟨add⟩

/-- The rounded product. -/
def mul : Binary64 → Binary64 → Binary64
  | .finite s u _, .finite t v _ => ofUnits (s ^^ t) (u * v) (twoTo unitExponent)
  | .infinity s, .infinity t => .infinity (s ^^ t)
  | .infinity s, .finite t v _ | .finite t v _, .infinity s =>
    if v = 0 then .nan else .infinity (s ^^ t)
  | _, _ => .nan

/-- The rounded quotient. -/
def div : Binary64 → Binary64 → Binary64
  | .finite s u _, .finite t v _ =>
    if v ≠ 0 then ofUnits (s ^^ t) (u * twoTo unitExponent) v
    else if u = 0 then .nan else .infinity (s ^^ t)
  | .infinity s, .finite t _ _ => .infinity (s ^^ t)
  | .finite s _ _, .infinity t => zeroOf (s ^^ t)
  | _, _ => .nan

end Binary64
end RecordRules
