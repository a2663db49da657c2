import RecordRules.Json.Basic
import RecordRules.Numeral

/-! # What plain scalars mean

A scalar without quotes may be a null, a truth value, an integer or a real; else it is text.

* `Scalar.meaning?`   the value of a scalar without quotes; none for an integer that is too large -/

namespace RecordRules.Yaml.Scalar

/-- The spellings of null. -/
def isNull (s : String) : Bool :=
  s = "null" || s = "Null" || s = "NULL" || s = "~"

/-- The truth value that a text spells. -/
def boolean? : String → Option Bool
  | "true" | "True" | "TRUE" => some true
  | "false" | "False" | "FALSE" => some false
  | _ => none

/-- A text without a leading sign. -/
def withoutSign : List Char → List Char
  | '+' :: rest | '-' :: rest => rest
  | cs => cs

/-- Digits with a leading zero, which are no number. -/
def isZeroPadded (cs : List Char) : Bool :=
  match withoutSign cs with
  | '0' :: c :: rest => (c :: rest).all Char.isDigit
  | _ => false

/-- The radix and the digits of a literal with a radix of its own. -/
def radixDigits? : List Char → Option (Nat × List Char)
  | '0' :: 'x' :: digits => some (16, digits)
  | '0' :: 'o' :: digits => some (8, digits)
  | '0' :: 'b' :: digits => some (2, digits)
  | _ => none

/-- The magnitude of an integer without its sign. -/
def magnitude? (cs : List Char) : Option Nat :=
  match radixDigits? cs with
  | some (radix, digits) => Numeral.natural? radix digits
  | none => Numeral.natural? 10 cs

/-- The integer that a text spells. -/
def integer? (cs : List Char) : Option Int :=
  if isZeroPadded cs then none
  else match cs with
    | '-' :: rest => (magnitude? rest).map fun n => -(n : Int)
    | '+' :: rest => (magnitude? rest).map Int.ofNat
    | _ => (magnitude? cs).map Int.ofNat

/-- Integers of 128 bits count as integers, others do not. -/
def isWide (n : Int) : Bool :=
  -(twoTo 127 : Int) ≤ n && n < twoTo 128

/-- The integer that a text spells, as a value; the inner none stands for an integer that is too
    large for a value. -/
def integerValue? (cs : List Char) : Option (Option Json) :=
  (integer? cs).bind fun n =>
    if isSigned64 n || isUnsigned64 n then some (some (.integer n))
    else if isWide n then some none
    else none

/-- The real that a text spells. -/
def real? (s : String) : Option Binary64 :=
  match s with
  | ".inf" | ".Inf" | ".INF" | "+.inf" | "+.Inf" | "+.INF" => some (.infinity false)
  | "-.inf" | "-.Inf" | "-.INF" => some (.infinity true)
  | ".nan" | ".NaN" | ".NAN" => some .nan
  | _ => (Numeral.decimal? s.toList).filter Binary64.isFinite

/-- The value of a scalar without quotes. -/
def meaning? (s : String) : Option Json :=
  if s.isEmpty || isNull s then some .null
  else match boolean? s with
    | some b => some (.boolean b)
    | none =>
      match integerValue? s.toList with
      | some v => v
      | none =>
        if isZeroPadded s.toList then some (.text s)
        else match real? s with
          | some x => some (.ofReal x)
          | none => some (.text s)

/-- The beginning of the tags that this format defines. -/
def standardTag (name : String) : List Char :=
  ("tag:yaml.org,2002:" ++ name).toList

/-- The value of a scalar with a tag: the tags of truth values, numbers and null demand a text
    that spells one, and any other tag leaves the text as it is. -/
def tagged? (tag : List Char) (s : String) : Option Json :=
  if tag = standardTag "bool" then (boolean? s).map .boolean
  else if tag = standardTag "int" then (integerValue? s.toList).join
  else if tag = standardTag "float" then (real? s).map .ofReal
  else if tag = standardTag "null" then if isNull s then some .null else none
  else some (.text s)

end RecordRules.Yaml.Scalar
