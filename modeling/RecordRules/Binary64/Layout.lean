import RecordRules.Binary64.Digits

/-! # Written forms of a number

`Layout` gathers the decisions that a format takes about numbers: which exponents are
written positionally, how the others look, and where ties go.  `Binary64.render` writes a
finite number by them. -/

namespace RecordRules

/-- What a format decides about the text of a finite number. -/
structure Layout where
  /-- Decimal exponents from here on are written positionally; `none`: however small. -/
  lowest : Option Int
  /-- Decimal exponents up to here are written positionally; `none`: however large. -/
  highest : Option Int
  /-- A whole number in positional notation ends in `.0`. -/
  pointZero : Bool
  /-- A positive exponent is written with its sign. -/
  plusSign : Bool
  tie : TieRule

namespace Layout

/-- Messages: no exponent, no trailing `.0`. -/
def message : Layout := ⟨none, none, false, false, .up⟩

/-- JSON text: positional from `10 ^ -5` to `10 ^ 15`, `1e+16` beyond. -/
def json : Layout := ⟨some (-5), some 15, true, true, .toEven⟩

/-- YAML text: as JSON, but `1e16`. -/
def yaml : Layout := ⟨some (-5), some 15, true, false, .toEven⟩

/-- TOML text: no exponent, whole numbers end in `.0`. -/
def toml : Layout := ⟨none, none, true, false, .up⟩

/-- Whether a decimal exponent is written positionally. -/
def isPositional (l : Layout) (exponent : Int) : Bool :=
  l.lowest.all (· ≤ exponent) && l.highest.all (exponent ≤ ·)

end Layout

/-- The decimal digits of a natural. -/
def decimalDigits (n : Nat) : List Char :=
  Nat.toDigits 10 n

namespace Binary64

/-- Positional text of `digits * 10 ^ power`, where `ds` are the digits. -/
def positional (l : Layout) (ds : List Char) (power : Int) : List Char :=
  let whole := if l.pointZero then ['.', '0'] else []
  if 0 ≤ power then ds ++ List.replicate power.toNat '0' ++ whole
  else
    let places := (-power).toNat
    if places < ds.length then
      ds.take (ds.length - places) ++ '.' :: ds.drop (ds.length - places)
    else '0' :: '.' :: List.replicate (places - ds.length) '0' ++ ds

/-- Text of `digits * 10 ^ power` with one digit before the point. -/
def scientific (l : Layout) (ds : List Char) (exponent : Int) : List Char :=
  let mantissa := match ds with
    | [] => ['0']
    | [d] => [d]
    | d :: rest => d :: '.' :: rest
  let sign := if exponent < 0 then ['-'] else if l.plusSign then ['+'] else []
  mantissa ++ 'e' :: sign ++ decimalDigits exponent.natAbs

/-- Text of a magnitude. -/
def renderUnits (l : Layout) (units : Nat) : List Char :=
  if units = 0 then if l.pointZero then ['0', '.', '0'] else ['0']
  else
    let (d, p) := shortest l.tie units
    let ds := decimalDigits d
    let exponent := p + ds.length - 1
    if l.isPositional exponent then positional l ds p else scientific l ds exponent

/-- Text of a number; NaN and the infinities are spelled as in messages. -/
def render (l : Layout) : Binary64 → String
  | .nan => "NaN"
  | .infinity s => if s then "-Infinity" else "Infinity"
  | .finite s u _ => String.ofList ((if s then ['-'] else []) ++ renderUnits l u)

/-- The text of a number in messages. -/
def toMessage (x : Binary64) : String :=
  x.render .message

end Binary64
end RecordRules
