import RecordRules.Yaml.Cursor
import RecordRules.Yaml.Scalar

/-! # How a text is written as a scalar

A text is written without quotes where that reads back as the same text.  Else single quotes
are tried, and double quotes are for what they cannot hold.  A text of several lines is written
as a block.

* `ScalarStyle.of`   the style in which a text is written -/

namespace RecordRules.Yaml

/-- The ways of writing a scalar. -/
inductive ScalarStyle where
  | plain
  | singleQuoted
  | doubleQuoted
  | block
  deriving DecidableEq, Repr

namespace ScalarStyle

/-- Whether a character is written as it is. -/
def isPrintable (c : Char) : Bool :=
  let n := c.toNat
  c = '\n' || (0x20 ≤ n && n ≤ 0x7E) || (0xA0 ≤ n && n ≤ 0xFFFD && n ≠ 0xFEFF) || 0x10000 ≤ n

/-- Whether a character is no part of a word, a null character being none. -/
def endsWord (c : Option Char) : Bool :=
  c = some '\x00' || isGap c

/-- Whether a first character would be taken for a sign, before the given one. -/
def isLeadingSign (c : Char) (next : Option Char) : Bool :=
  "#,[]\x7b\x7d&*!|>'\"%@`".toList.contains c ||
    ((c = '?' || c = ':' || c = '-') && endsWord next)

/-- Whether a later character would be taken for a sign, between the given ones. -/
def isInnerSign (before c : Char) (next : Option Char) : Bool :=
  (c = ':' && endsWord next) || (c = '#' && endsWord (some before))

/-- Whether signs stand among the characters behind a given one. -/
def hasInnerSign (before : Char) : List Char → Bool
  | [] => false
  | c :: rest => isInnerSign before c rest.head? || hasInnerSign c rest

/-- Whether some of the characters would be taken for signs. -/
def hasSign : List Char → Bool
  | [] => false
  | c :: rest =>
    let start := (c :: rest).take 3
    start = ['-', '-', '-'] || start = ['.', '.', '.'] || isLeadingSign c rest.head? ||
      hasInnerSign c rest

/-- Whether a character of one kind comes right before one of another kind. -/
def hasPair (p q : Char → Bool) : List Char → Bool
  | a :: b :: rest => (p a && q b) || hasPair p q (b :: rest)
  | _ => false

/-- Whether a character is a space. -/
def isSpace (c : Char) : Bool := c = ' '

/-- Whether a space or a line break stands first or last. -/
def hasOuterSpace (cs : List Char) : Bool :=
  (cs.head?.toList ++ cs.getLast?.toList).any fun c => isSpace c || isBreak c

/-- Whether a text goes over several lines. -/
def isMultiline (cs : List Char) : Bool :=
  cs.any isBreak

/-- Whether a text can only be written with escapes. -/
def needsEscapes (cs : List Char) : Bool :=
  cs.any (!isPrintable ·) || hasPair isSpace isBreak cs

/-- Whether a text can be written without quotes. -/
def plainAllowed (cs : List Char) : Bool :=
  !(needsEscapes cs || isMultiline cs || hasOuterSpace cs || hasSign cs)

/-- Whether a text can be written in single quotes. -/
def singleAllowed (cs : List Char) : Bool :=
  !(needsEscapes cs || hasPair isBreak isSpace cs)

/-- Whether a text can be written as a block. -/
def blockAllowed (cs : List Char) : Bool :=
  !(cs.isEmpty || needsEscapes cs || cs.getLast?.any isSpace)

/-- Whether a text without quotes would be no text. -/
def isAmbiguous (s : String) : Bool :=
  Scalar.isZeroPadded s.toList ||
    match Scalar.meaning? s with
    | some (.text _) => false
    | _ => true

/-- The style in which a text is written, as a key on the line of its value if `simpleKey`. -/
def of (simpleKey : Bool) (s : String) : ScalarStyle :=
  let cs := s.toList
  let quoted := if singleAllowed cs then singleQuoted else doubleQuoted
  if simpleKey && isMultiline cs then doubleQuoted
  else if cs.contains '\n' then if blockAllowed cs && !simpleKey then block else doubleQuoted
  else if isAmbiguous s || !plainAllowed cs then quoted
  else plain

end ScalarStyle
end RecordRules.Yaml
