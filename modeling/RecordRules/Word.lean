/-! # Powers and machine words

* `twoTo`, `tenTo`              powers of two and of ten
* `isSigned64`, `isUnsigned64`  whether an integer fits a word of 64 bits -/

namespace RecordRules

/-- A power of two. -/
def twoTo (exponent : Nat) : Nat :=
  Nat.pow 2 exponent

/-- A power of ten. -/
def tenTo (exponent : Nat) : Nat :=
  Nat.pow 10 exponent

theorem twoTo_pos (e : Nat) : 0 < twoTo e :=
  Nat.two_pow_pos e

theorem twoTo_add (a b : Nat) : twoTo (a + b) = twoTo a * twoTo b :=
  Nat.pow_add 2 a b

/-- Whether an integer fits 64 bits, one of them for its sign. -/
def isSigned64 (n : Int) : Bool :=
  -(twoTo 63 : Int) ≤ n && n < twoTo 63

/-- Whether an integer fits 64 bits without a sign. -/
def isUnsigned64 (n : Int) : Bool :=
  0 ≤ n && n < twoTo 64

end RecordRules
