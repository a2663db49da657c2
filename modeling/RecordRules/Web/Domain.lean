import RecordRules.Unicode.Category
import RecordRules.Unicode.Direction
import RecordRules.Unicode.DomainMapping
import RecordRules.Unicode.Normalization
import RecordRules.Web.Ip
import RecordRules.Web.Punycode

/-! # Domain names

A domain name may hold characters beyond ASCII.  It is brought into a normal form, each of its
labels is tested, and labels beyond ASCII are written in ASCII behind `xn--`.

* `Domain.toAscii?`   the ASCII form of a domain name -/

namespace RecordRules.Web.Domain

/-- The normal form of a name: characters are replaced or left out as the mapping says, and
    composed. -/
def normalize? (cs : List Char) : Option (List Nat) := do
  let mapped ← cs.mapM fun c =>
    match DomainMapping.of c.toNat with
    | .valid => some [c.toNat]
    | .ignored => some []
    | .mapped codes => some codes
    | .disallowed => none
  return CanonicalForm.compose mapped.flatten

/-- Cuts a name at its points. -/
def labels : List Nat → List (List Nat)
  | [] => [[]]
  | n :: rest =>
    if n = '.'.toNat then [] :: labels rest
    else match labels rest with
      | [] => [[n]]
      | label :: more => (n :: label) :: more

/-- The code points of `xn--`. -/
def mark : List Nat := "xn--".toList.map Char.toNat

/-- Whether a code point is a combining mark. -/
def isMark (n : Nat) : Bool :=
  match GeneralCategory.ofCode n with
  | .mn | .mc | .me => true
  | _ => false

/-- Whether the first of some code points that is not passed over is in a set. -/
def meets (set : CodeRanges) (codes : List Nat) : Bool :=
  match codes.dropWhile joinsThrough.contains with
  | [] => false
  | n :: _ => set.contains n

/-- Whether every joiner stands where it has an effect; `before` are the code points before the
    rest of the label, last first. -/
def joinersFit (before : List Nat) : List Nat → Bool
  | [] => true
  | n :: rest =>
    let fits :=
      if n = 0x200C ∨ n = 0x200D then
        match before with
        | [] => false
        | previous :: _ =>
          CanonicalForm.combiningClass previous == 9 ||
            (n == 0x200C && meets joinsForward before && meets joinsBackward rest)
      else true
    fits && joinersFit (n :: before) rest

/-- Whether a label in normal form may stand in a domain name. -/
def isLabel (label : List Nat) : Bool :=
  !label.head?.any isMark && joinersFit [] label && label.length ≤ 1000

/-- The label that `xn--` and some characters stand for.  It has to be in normal form, and no
    character of it may be one that the mapping would change. -/
def decodeLabel? (written : List Nat) : Option (List Nat) := do
  if written.getLast? = some '-'.toNat ∨ written.isEmpty ∨ written.length > 2000 ∨
      written.any (· ≥ 0x80) then none
  else
    let label ← Punycode.decode? (written.map Char.ofNat)
    if label.all (fun n => DomainMapping.of n == .valid) && CanonicalForm.compose label == label &&
        !label.contains '.'.toNat && isLabel label then some label
    else none

/-- Classes that a label may begin with when its name has characters that run to the left. -/
def isDirection : BidiClass → Bool
  | .l | .r | .al => true
  | _ => false

/-- Classes that may stand in labels of either direction. -/
def isNeutral : BidiClass → Bool
  | .en | .es | .cs | .et | .on | .bn | .nsm => true
  | _ => false

/-- Whether a label keeps to one direction. -/
def keepsDirection (label : List Nat) : Bool :=
  match label.map BidiClass.ofCode with
  | [] => true
  | first :: rest =>
    isDirection first &&
    match rest.reverse.dropWhile (· == .nsm) with
    | [] => true
    | last :: middle =>
      if first == .l then
        (last == .l || last == .en) && middle.all fun c => c == .l || isNeutral c
      else
        let all := last :: middle
        (last == .r || last == .al || last == .en || last == .an) &&
          (middle.all fun c => c == .r || c == .al || c == .an || isNeutral c) &&
          !(all.contains .en && all.contains .an)

/-- Whether a code point runs to the left. -/
def runsLeft (n : Nat) : Bool :=
  match BidiClass.ofCode n with
  | .r | .al | .an => true
  | _ => false

/-- The label that stands for a piece of a normalized name. -/
def label? (piece : List Nat) : Option (List Nat) :=
  if mark.isPrefixOf piece then decodeLabel? (piece.drop mark.length)
  else if piece.all (· < 0x80) || isLabel piece then some piece
  else none

/-- A label in ASCII. -/
def asciiLabel (label : List Nat) : List Char :=
  if label.all (· < 0x80) then label.map Char.ofNat
  else "xn--".toList ++ Punycode.encode label

/-- The ASCII form of a domain name; `isDenied` tells the ASCII characters that may not be part
    of it. -/
def toAscii? (isDenied : Char → Bool) (cs : List Char) : Option (List Char) := do
  let labels ← (labels (← normalize? cs)).mapM label?
  if labels.any fun label => label.any fun n => n < 0x80 && isDenied (Char.ofNat n) then none
  else if labels.any (·.any runsLeft) && !labels.all keepsDirection then none
  else return ['.'].intercalate (labels.map asciiLabel)

end RecordRules.Web.Domain
