import RecordRules.Word

/-! # Names beyond ASCII, written in ASCII

A list of code points is written as its ASCII characters, a hyphen, and digits that say where
the other code points are to be inserted.

* `Punycode.encode`, `Punycode.decode?` -/

namespace RecordRules.Punycode

/-- The parameters of the format. -/
def base : Nat := 36

/-- The threshold of a digit at a place, given the bias. -/
def threshold (place bias : Nat) : Nat :=
  max 1 (min 26 (place - bias))

/-- Divides a difference until it is small, counting the places. -/
def shrink : Nat → Nat → Nat → Nat × Nat
  | 0, delta, k => (delta, k)
  | fuel + 1, delta, k => if delta > 455 then shrink fuel (delta / 35) (k + base) else (delta, k)

/-- The bias after an insertion, the `count`-th one. -/
def adapt (delta count : Nat) (isFirst : Bool) : Nat :=
  let delta := if isFirst then delta / 700 else delta / 2
  let (delta, k) := shrink 64 (delta + delta / count) 0
  k + 36 * delta / (delta + 38)

/-- The digit of a value below 36. -/
def digit (n : Nat) : Char :=
  if n < 26 then Char.ofNat ('a'.toNat + n) else Char.ofNat ('0'.toNat + (n - 26))

/-- The value of a digit in lower case. -/
def digitValue? (c : Char) : Option Nat :=
  if 'a' ≤ c ∧ c ≤ 'z' then some (c.toNat - 'a'.toNat)
  else if '0' ≤ c ∧ c ≤ '9' then some (c.toNat - '0'.toNat + 26)
  else none

/-- The digits of a number, from a place on. -/
def digits (bias : Nat) : Nat → Nat → Nat → List Char
  | 0, _, _ => []
  | fuel + 1, q, place =>
    let t := threshold place bias
    if q < t then [digit q]
    else digit (t + (q - t) % (base - t)) ::
      digits bias fuel ((q - t) / (base - t)) (place + base)

/-- The state of encoding: what is written, last digit first, and where the insertions are. -/
structure Encoding where
  written : List Char
  delta : Nat
  bias : Nat
  handled : Nat

/-- Writes the insertions of one code point `n`. -/
def insertions (n basic : Nat) (codes : List Nat) (e : Encoding) : Encoding :=
  codes.foldl (fun e c =>
    if c < n then { e with delta := e.delta + 1 }
    else if c = n then
      { written := (digits e.bias 64 e.delta base).reverse ++ e.written
        delta := 0
        bias := adapt e.delta (e.handled + 1) (e.handled = basic)
        handled := e.handled + 1 }
    else e) e

/-- Writes the insertions of the code points from `n` on, ascending. -/
def encodeFrom (codes : List Nat) (basic : Nat) : Nat → Nat → Encoding → Encoding
  | 0, _, e => e
  | fuel + 1, n, e =>
    match (codes.filter (n ≤ ·)).min? with
    | none => e
    | some m =>
      let e := insertions m basic codes { e with delta := e.delta + (m - n) * (e.handled + 1) }
      encodeFrom codes basic fuel (m + 1) { e with delta := e.delta + 1 }

/-- The written form of code points. -/
def encode (codes : List Nat) : List Char :=
  let basic := (codes.filter (· < 0x80)).map Char.ofNat
  let start := if basic.isEmpty then [] else '-' :: basic.reverse
  (encodeFrom codes basic.length (codes.length + 1) 0x80
    ⟨start, 0, 72, basic.length⟩).written.reverse

/-- Reads a number, and gives it with the digits left. -/
def number? (bias : Nat) : Nat → Nat → Nat → List Char → Option (Nat × List Char)
  | _, _, _, [] => none
  | i, weight, place, c :: rest => do
    let d ← digitValue? c
    let i := i + d * weight
    if twoTo 32 ≤ i then none
    else
      let t := threshold place bias
      if d < t then some (i, rest)
      else number? bias i (weight * (base - t)) (place + base) rest

/-- Inserts the code points that digits describe. -/
def decodeFrom : Nat → Nat → Nat → Nat → List Nat → List Char → Option (List Nat)
  | 0, _, _, _, _, _ => none
  | _ + 1, _, _, _, codes, [] => some codes
  | fuel + 1, n, i, bias, codes, digits => do
    let (next, rest) ← number? bias i 1 base digits
    let count := codes.length + 1
    let n := n + next / count
    if n.isValidChar then
      let place := next % count
      decodeFrom fuel n (place + 1) (adapt (next - i) count (i = 0))
        (codes.insertIdx place n) rest
    else none

/-- The code points of a written form in lower case. -/
def decode? (cs : List Char) : Option (List Nat) :=
  let tail := (cs.reverse.takeWhile (· ≠ '-')).reverse
  let basic := (cs.take (cs.length - tail.length)).dropLast
  if basic.all (·.toNat < 0x80) && (!basic.isEmpty || tail.length == cs.length) then
    decodeFrom (cs.length + 1) 0x80 0 72 (basic.map Char.toNat) tail
  else none

end RecordRules.Punycode
