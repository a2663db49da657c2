import RecordRules.Numeral
import RecordRules.Yaml.Cursor
import RecordRules.Yaml.Token

/-! # Names, tags and directives

The tokens that consist of names: anchors and aliases, tags, and the directives at the
beginning of a document. -/

namespace RecordRules.Yaml

/-- What may follow the name of an anchor. -/
def endsAnchor (c : Char) : Bool :=
  "?:,]\x7d%@`".toList.contains c

/-- The name of an anchor or an alias, after its sign. -/
def readAnchor (c : Cursor) : Option (String × Cursor) :=
  let name := c.rest.takeWhile isNameChar
  let c := c.advance name.length
  if name.isEmpty || !(isGap c.peek || c.looksAt endsAnchor) then none
  else some (String.ofList name, c)

/-- The characters of tags, those of lists only where a tag stands between angles or in a
    directive. -/
def isTagChar (lists : Bool) (c : Char) : Bool :=
  isNameChar c || ";/?:@&=+$.%!~*'()".toList.contains c || (lists && ",[]".toList.contains c)

/-- How many bytes the first byte of a character announces. -/
def byteCount? (n : Nat) : Option Nat :=
  if n < 0x80 then some 1
  else if n / 32 = 6 then some 2
  else if n / 16 = 14 then some 3
  else if n / 8 = 30 then some 4
  else none

/-- The value of bytes that continue a character, each after a percent sign; `n` is the value
    so far. -/
def trailingBytes : Nat → Nat → List Char → Option (Nat × List Char)
  | 0, n, cs => some (n, cs)
  | count + 1, n, '%' :: a :: b :: rest => do
    let byte ← Numeral.natural? 16 [a, b]
    guard (byte / 64 = 2)
    trailingBytes count (n * 64 + byte % 64) rest
  | _, _, _ => none

/-- The character that bytes with percent signs stand for. -/
def percentEscape : List Char → Option (Char × List Char)
  | '%' :: a :: b :: rest => do
    let first ← Numeral.natural? 16 [a, b]
    let count ← byteCount? first
    let head := if count = 1 then first else first % twoTo (7 - count)
    let (n, rest) ← trailingBytes (count - 1) head rest
    return (Char.ofNat n, rest)
  | _ => none

/-- The characters of a tag, those read so far coming last first. -/
def tagChars (lists : Bool) : Nat → List Char → List Char → Option (List Char × List Char)
  | 0, acc, cs => some (acc.reverse, cs)
  | fuel + 1, acc, cs =>
    match cs with
    | [] => some (acc.reverse, [])
    | c :: rest =>
      if c = '%' then do
        let (d, rest) ← percentEscape cs
        tagChars lists fuel (d :: acc) rest
      else if isTagChar lists c then tagChars lists fuel (c :: acc) rest
      else some (acc.reverse, cs)

/-- The characters of a tag at a place. -/
def readTagChars (lists : Bool) (c : Cursor) : Option (List Char × Cursor) := do
  let (text, rest) ← tagChars lists (c.rest.length + 1) [] c.rest
  return (text, c.advance (c.rest.length - rest.length))

/-- A tag between angles, after `!<`. -/
def readVerbatimTag (c : Cursor) : Option (TagName × Cursor) := do
  let (suffix, c) ← readTagChars true c
  guard (!suffix.isEmpty && c.looksAt (· = '>'))
  return (⟨"", suffix⟩, c.advance 1)

/-- A tag after its `!`: with a handle of its own, or else with the handle `!`. -/
def readShortTag (c : Cursor) : Option (TagName × Cursor) :=
  let name := c.rest.takeWhile isNameChar
  let after := c.advance name.length
  if after.looksAt (· = '!') then do
    let (suffix, c) ← readTagChars false (after.advance 1)
    guard !suffix.isEmpty
    return (⟨String.ofList ('!' :: name ++ ['!']), suffix⟩, c)
  else do
    let (more, c) ← readTagChars false after
    match name ++ more with
    | [] => return (⟨"", ['!']⟩, c)
    | suffix => return (⟨"!", suffix⟩, c)

/-- A tag, at its `!`. -/
def readTag (flow : Bool) (c : Cursor) : Option (TagName × Cursor) := do
  let (tag, c) ← if c.peekAt 1 = some '<' then readVerbatimTag (c.advance 2)
    else readShortTag (c.advance 1)
  guard (isGap c.peek || (flow && c.looksAt (· = ',')))
  return (tag, c)

/-- A number of a version: at most nine digits. -/
def readVersionNumber (c : Cursor) : Option (Nat × Cursor) := do
  let digits := c.rest.takeWhile Char.isDigit
  guard (digits.length ≤ 9)
  let n ← Numeral.natural? 10 digits
  return (n, c.advance digits.length)

/-- The handle of a directive: `!`, or a name between two of them. -/
def readHandle (c : Cursor) : Option (String × Cursor) := do
  guard (c.looksAt (· = '!'))
  let name := (c.advance 1).rest.takeWhile isNameChar
  let after := c.advance (name.length + 1)
  if after.looksAt (· = '!') then
    return (String.ofList ('!' :: name ++ ['!']), after.advance 1)
  else
    guard name.isEmpty
    return ("!", after)

/-- What a directive says, after its name. -/
def readDirectiveValue (name : String) (c : Cursor) : Option (Token × Cursor) :=
  match name with
  | "YAML" => do
    let (major, c) ← readVersionNumber (c.skip isBlank)
    guard (c.looksAt (· = '.'))
    let (minor, c) ← readVersionNumber (c.advance 1)
    return (.version major minor, c)
  | "TAG" => do
    let (handle, c) ← readHandle (c.skip isBlank)
    guard (c.looksAt isBlank)
    let (meaning, c) ← readTagChars true (c.skip isBlank)
    guard (!meaning.isEmpty && isGap c.peek)
    return (.tagHandle handle meaning, c)
  | _ => none

/-- A directive after its percent sign, with its line. -/
def readDirective (c : Cursor) : Option (Token × Cursor) := do
  let name := c.rest.takeWhile isNameChar
  let c := c.advance name.length
  guard (isGap c.peek)
  let (token, c) ← readDirectiveValue (String.ofList name) c
  let c := c.skip isBlank
  let c := if c.looksAt (· = '#') then c.skip (!isBreak ·) else c
  guard (isLineEnd c.peek)
  return (token, c.pastBreak)

end RecordRules.Yaml
