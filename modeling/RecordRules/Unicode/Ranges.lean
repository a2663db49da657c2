/-! # Sets of code points

A set of code points is a list of ranges in ascending order, written as a text of numbers:
for each range the gap since the range before it and its length less one.  A number is
written in base 26 with the letters as digits; its last digit is a lower-case letter and
the digits before it are upper-case letters.

* `CodeRanges.contains`   binary search for a code point -/

namespace RecordRules

namespace BaseLetters

/-- The numbers written in a text, `acc` being the digits of the one under way. -/
def decodeFrom (acc : Nat) : List Char → List Nat
  | [] => []
  | c :: rest =>
    if c.isLower then (26 * acc + (c.toNat - 'a'.toNat)) :: decodeFrom 0 rest
    else decodeFrom (26 * acc + (c.toNat - 'A'.toNat)) rest

/-- The numbers written in a text. -/
def decode (s : String) : List Nat :=
  decodeFrom 0 s.toList

/-- Numbers in pairs; a last odd one is dropped. -/
def pairs : List Nat → List (Nat × Nat)
  | a :: b :: rest => (a, b) :: pairs rest
  | _ => []

end BaseLetters

/-- Ranges of code points, ascending and apart; both ends belong to a range. -/
structure CodeRanges where
  ranges : Array (Nat × Nat)
  deriving Inhabited

namespace CodeRanges

/-- The ranges that gaps and lengths describe, from a code point on. -/
def fromGaps (next : Nat) : List (Nat × Nat) → List (Nat × Nat)
  | [] => []
  | (gap, length) :: rest =>
    let first := next + gap
    (first, first + length) :: fromGaps (first + length + 1) rest

/-- The set written as a text. -/
def ofText (s : String) : CodeRanges :=
  ⟨(fromGaps 0 (BaseLetters.pairs (BaseLetters.decode s))).toArray⟩

/-- Searches the ranges from `lo` to below `hi`. -/
def search (ranges : Array (Nat × Nat)) (n : Nat) : Nat → Nat → Nat → Bool
  | 0, _, _ => false
  | fuel + 1, lo, hi =>
    if hi ≤ lo then false
    else
      let mid := (lo + hi) / 2
      match ranges[mid]? with
      | none => false
      | some (first, last) =>
        if n < first then search ranges n fuel lo mid
        else if last < n then search ranges n fuel (mid + 1) hi
        else true

/-- Whether a code point is in the set. -/
def contains (r : CodeRanges) (n : Nat) : Bool :=
  search r.ranges n (r.ranges.size + 1) 0 r.ranges.size

end CodeRanges
end RecordRules
