import RecordRules.Web.Domain

/-! # Email addresses

A local part, an `@`, and a domain: a name of the Internet, possibly beyond ASCII, or an address
in brackets.

* `Email.isValid` -/

namespace RecordRules.Web.Email

/-- ASCII letters and digits, and the two other characters that are letters of ASCII when upper
    and lower case are alike: the long s and the sign of the unit kelvin. -/
def isLetterOrDigit (c : Char) : Bool :=
  c.isAlphanum || c = '\u017f' || c = '\u212a'

/-- Characters of the local part. -/
def isLocalChar (c : Char) : Bool :=
  isLetterOrDigit c || ".!#$%&'*+/=?^_`\x7b|\x7d~-".toList.contains c

/-- A label of a domain: letters, digits and inner hyphens, 63 at most. -/
def isLabel (cs : List Char) : Bool :=
  !cs.isEmpty && cs.length ≤ 63 && cs.all (fun c => isLetterOrDigit c || c = '-') &&
    cs.head? != some '-' && cs.getLast? != some '-'

/-- The characters between the last opening bracket and a closing one at the end, if they can
    be those of an address. -/
def bracketed? (cs : List Char) : Option (List Char) :=
  match cs.reverse with
  | ']' :: rest =>
    let inner := rest.takeWhile fun c => isHexDigit c || c = ':' || c = '.'
    if !inner.isEmpty && (rest.drop inner.length).head? == some '[' then some inner.reverse
    else none
  | _ => none

/-- Whether a domain in ASCII can be part of an email address. -/
def isDomain (cs : List Char) : Bool :=
  (cutAt '.' cs).all isLabel || (bracketed? cs).any fun inner => isIp4 inner || isIp6 inner

/-- Whether a text is an email address. -/
def isValid (s : String) : Bool :=
  let cs := s.toList
  let domain := (cs.reverse.takeWhile (· ≠ '@')).reverse
  if domain.length = cs.length then false
  else
    let user := cs.take (cs.length - domain.length - 1)
    user.length ≤ 64 && domain.length ≤ 255 && !user.isEmpty && user.all isLocalChar &&
      (isDomain domain || (Domain.toAscii? (fun _ => false) domain).any isDomain)

end RecordRules.Web.Email
