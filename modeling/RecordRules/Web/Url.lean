import RecordRules.Web.Domain

/-! # Addresses on the web

Whether a text is a URL by itself: a scheme, and for the schemes of the web a host that can be
read, with a port that fits.  Paths, queries and fragments take any characters.

* `Url.isValid` -/

namespace RecordRules.Web.Url

/-- What a scheme asks of the rest. -/
inductive SchemeKind where
  | file
  /-- A host is needed, and backslashes count as slashes. -/
  | web
  | other
  deriving DecidableEq, Repr

/-- The kind of a scheme in lower case. -/
def SchemeKind.of : String → SchemeKind
  | "file" => file
  | "http" | "https" | "ws" | "wss" | "ftp" => web
  | _ => other

/-- Characters that a scheme is made of after its first letter. -/
def isSchemeChar (c : Char) : Bool :=
  c.isAlphanum || c = '+' || c = '-' || c = '.'

/-- The scheme of a text, and what stands behind its colon. -/
def splitScheme? (cs : List Char) : Option (String × List Char) :=
  let scheme := cs.takeWhile isSchemeChar
  match scheme.head?.any Char.isAlpha, cs.drop scheme.length with
  | true, ':' :: rest => some (String.ofList (scheme.map Char.toLower), rest)
  | _, _ => none

/-- A text as it is read: without blanks and control characters at the ends, and without tabs
    and line breaks anywhere. -/
def cleaned (cs : List Char) : List Char :=
  let isEdge (c : Char) : Bool := c ≤ ' '
  let trimmed := ((cs.dropWhile isEdge).reverse.dropWhile isEdge).reverse
  trimmed.filter fun c => c ≠ '\t' ∧ c ≠ '\n' ∧ c ≠ '\r'

/-- Characters that end the authority of a URL. -/
def endsAuthority (kind : SchemeKind) (c : Char) : Bool :=
  c = '/' || c = '?' || c = '#' || (c = '\\' && kind != .other)

/-- ASCII characters that the name of a host may not have. -/
def isDenied (c : Char) : Bool :=
  c ≤ ' ' || c = '\x7f' || "%#/:<>?@[\\]^|".toList.contains c

/-- Bytes behind percent signs are put in the place of their spelling. -/
def percentDecode : List UInt8 → List UInt8
  | p :: a :: b :: rest =>
    let x := Char.ofNat a.toNat
    let y := Char.ofNat b.toNat
    if p = 37 ∧ isHexDigit x ∧ isHexDigit y then
      UInt8.ofNat (16 * hexValue x + hexValue y) :: percentDecode rest
    else p :: percentDecode (a :: b :: rest)
  | bytes => bytes

/-- A text whose percent-encoded bytes are decoded. -/
def percentDecoded? (cs : List Char) : Option (List Char) :=
  let bytes := percentDecode (String.ofList cs).toUTF8.toList
  (String.fromUTF8? ⟨bytes.toArray⟩).map String.toList

/-- A number of an address: decimal, octal behind `0`, or hexadecimal behind `0x`. -/
def addressNumber? (cs : List Char) : Option Nat :=
  let radix (isDigit : Char → Bool) (base : Nat) (digits : List Char) : Option Nat :=
    if digits.all isDigit then some (digits.foldl (fun n c => base * n + hexValue c) 0) else none
  match cs with
  | [] => none
  | '0' :: 'x' :: rest | '0' :: 'X' :: rest => radix isHexDigit 16 rest
  | '0' :: c :: rest => radix (fun c => '0' ≤ c && c ≤ '7') 8 (c :: rest)
  | _ => radix Char.isDigit 10 cs

/-- The pieces between points; an empty last one does not count. -/
def addressPieces (cs : List Char) : List (List Char) :=
  let pieces := cutAt '.' cs
  if pieces.length > 1 ∧ pieces.getLast? = some [] then pieces.dropLast else pieces

/-- Whether the name of a host has to be an address, since its last piece is a number. -/
def endsInNumber (cs : List Char) : Bool :=
  match (addressPieces cs).getLast? with
  | none => false
  | some last => (!last.isEmpty && last.all Char.isDigit) || (addressNumber? last).isSome

/-- Whether numbers make an address: all but the last are bytes, and the last fills the rest. -/
def isAddress (cs : List Char) : Bool :=
  let pieces := addressPieces cs
  match pieces.mapM addressNumber? with
  | none => false
  | some numbers =>
    pieces.length ≤ 4 && (numbers.dropLast.all (· ≤ 255)) &&
      (numbers.getLast?.getD 0) < twoTo (8 * (5 - numbers.length))

/-- An address in brackets, the opening bracket being taken. -/
def isBracketed (cs : List Char) : Bool :=
  cs.getLast? == some ']' && isIp6 cs.dropLast

/-- Whether a text is the host of a web scheme. -/
def isHost (cs : List Char) : Bool :=
  match cs with
  | '[' :: rest => isBracketed rest
  | _ =>
    match (percentDecoded? cs).bind (Domain.toAscii? isDenied) with
    | none | some [] => false
    | some name => if endsInNumber name then isAddress name else true

/-- Whether a text is the host of any other scheme. -/
def isOpaqueHost (cs : List Char) : Bool :=
  match cs with
  | '[' :: rest => isBracketed rest
  | _ => cs.all fun c => !"\x00\t\n\r #/:<>?@[\\]^|".toList.contains c

/-- Whether a port fits; it ends where the path begins. -/
def isPort (cs : List Char) : Bool :=
  let digits := cs.takeWhile Char.isDigit
  let rest := cs.drop digits.length
  decimalValue digits < 65536 &&
    rest.head?.all fun c => c = '/' || c = '\\' || c = '?' || c = '#'

/-- The host at the beginning of a text, up to a colon outside brackets or the end of the
    authority, and the rest. -/
def takeHost (kind : SchemeKind) (inBrackets : Bool) : List Char → List Char × List Char
  | [] => ([], [])
  | c :: rest =>
    if (c = ':' && !inBrackets) || endsAuthority kind c then ([], c :: rest)
    else
      let (host, rest) :=
        takeHost kind (if c = '[' then true else if c = ']' then false else inBrackets) rest
      (c :: host, rest)

/-- What stands before the last `@` of an authority, and what stands behind it. -/
def splitUser (kind : SchemeKind) (cs : List Char) : Option (List Char) × List Char :=
  let authority := cs.takeWhile fun c => !endsAuthority kind c
  let behind := (authority.reverse.takeWhile (· ≠ '@')).reverse
  if behind.length = authority.length then (none, cs)
  else
    let user := authority.take (authority.length - behind.length - 1)
    (some user, cs.drop (user.length + 1))

/-- Whether the part behind two slashes can be read. -/
def isAuthority (kind : SchemeKind) (cs : List Char) : Bool :=
  let (user, rest) := splitUser kind cs
  let isEmptyUser := user == some []
  if isEmptyUser && rest.head?.any (endsAuthority kind) then false
  else
    let (host, rest) := takeHost kind false rest
    let hostFits :=
      if host.isEmpty then
        kind == .other && rest.head? != some ':' &&
          !user.any fun u => !u.isEmpty && u != [':']
      else if kind == .web then isHost host else isOpaqueHost host
    hostFits && match rest with
      | ':' :: port => isPort port
      | _ => true

/-- Whether a text is the name of a drive, such as `c:`. -/
def isDrive : List Char → Bool
  | [letter, mark] => letter.isAlpha && (mark = ':' || mark = '|')
  | _ => false

/-- Whether the part behind the scheme of a file can be read: a host, where there is one. -/
def isFilePart (cs : List Char) : Bool :=
  let isSlash (c : Char) : Bool := c = '/' || c = '\\'
  match cs with
  | a :: b :: rest =>
    if isSlash a && isSlash b then
      let host := rest.takeWhile fun c => !endsAuthority .file c
      host.isEmpty || isDrive host || isHost host
    else true
  | _ => true

/-- Whether a text is a URL. -/
def isValid (s : String) : Bool :=
  match splitScheme? (cleaned s.toList) with
  | none => false
  | some (scheme, rest) =>
    match SchemeKind.of scheme with
    | .file => isFilePart rest
    | .web => isAuthority .web (rest.dropWhile fun c => c = '/' || c = '\\')
    | .other =>
      match rest with
      | '/' :: '/' :: rest => isAuthority .other rest
      | _ => true

end RecordRules.Web.Url
