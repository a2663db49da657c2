/-! # Addresses of hosts

Addresses of four bytes in decimal, and addresses of eight groups of four hexadecimal digits
where `::` stands for groups of zeros. -/

namespace RecordRules.Web

/-- Cuts a list at every occurrence of a character. -/
def cutAt (separator : Char) : List Char → List (List Char)
  | [] => [[]]
  | c :: rest =>
    if c = separator then [] :: cutAt separator rest
    else match cutAt separator rest with
      | [] => [[c]]
      | piece :: more => (c :: piece) :: more

/-- The value of decimal digits. -/
def decimalValue (cs : List Char) : Nat :=
  cs.foldl (fun n c => 10 * n + (c.toNat - '0'.toNat)) 0

/-- Whether a character is a hexadecimal digit. -/
def isHexDigit (c : Char) : Bool :=
  c.isDigit || ('a' ≤ c && c ≤ 'f') || ('A' ≤ c && c ≤ 'F')

/-- The value of a hexadecimal digit. -/
def hexValue (c : Char) : Nat :=
  if c.isDigit then c.toNat - '0'.toNat
  else if c.isLower then c.toNat - 'a'.toNat + 10
  else c.toNat - 'A'.toNat + 10

/-- A byte in decimal, without leading zeros. -/
def isDecimalByte (cs : List Char) : Bool :=
  !cs.isEmpty && cs.length ≤ 3 && cs.all Char.isDigit && decimalValue cs ≤ 255 &&
    (cs.length == 1 || cs.head? != some '0')

/-- Four bytes with points between them. -/
def isIp4 (cs : List Char) : Bool :=
  let pieces := cutAt '.' cs
  pieces.length == 4 && pieces.all isDecimalByte

/-- One to four hexadecimal digits. -/
def isGroup (cs : List Char) : Bool :=
  !cs.isEmpty && cs.length ≤ 4 && cs.all isHexDigit

/-- How many groups a list of pieces makes; the last piece may be four decimal bytes, which
    make two groups. -/
def groupCount? (allowIp4 : Bool) : List (List Char) → Option Nat
  | [] => some 0
  | [piece] =>
    if isGroup piece then some 1 else if allowIp4 && isIp4 piece then some 2 else none
  | piece :: rest => if isGroup piece then (groupCount? allowIp4 rest).map (· + 1) else none

/-- How many groups a text makes; the empty text makes none. -/
def textGroups? (allowIp4 : Bool) (cs : List Char) : Option Nat :=
  if cs.isEmpty then some 0 else groupCount? allowIp4 (cutAt ':' cs)

/-- What stands before and after the first `::`. -/
def splitZeros? : List Char → Option (List Char × List Char)
  | ':' :: ':' :: rest => some ([], rest)
  | c :: rest => (splitZeros? rest).map fun (a, b) => (c :: a, b)
  | [] => none

/-- Eight groups; `::` stands for one group of zeros at least. -/
def isIp6 (cs : List Char) : Bool :=
  match splitZeros? cs with
  | some (head, tail) =>
    match textGroups? false head, textGroups? true tail with
    | some a, some b => a + b ≤ 7
    | _, _ => false
  | none => textGroups? true cs == some 8

end RecordRules.Web
