/-! # Places in a YAML text

A cursor is a place in a text: the characters from there on, and the line, the column and the
number of characters behind it.

* `Cursor.advance`    past characters of one line
* `Cursor.pastBreak`  past a line break -/

namespace RecordRules.Yaml

/-- The characters that end a line. -/
def isBreak (c : Char) : Bool :=
  c = '\n' || c = '\r' || c = '\u0085' || c = '\u2028' || c = '\u2029'

/-- Spaces and tabs. -/
def isBlank (c : Char) : Bool :=
  c = ' ' || c = '\t'

/-- Whether a place is at a line break or at the end of the text. -/
def isLineEnd : Option Char → Bool
  | some c => isBreak c
  | none => true

/-- Whether a place is at a blank, at a line break or at the end of the text. -/
def isGap : Option Char → Bool
  | some c => isBlank c || isBreak c
  | none => true

/-- The characters of names. -/
def isNameChar (c : Char) : Bool :=
  c.isAlphanum || c = '_' || c = '-'

/-- How a line break reads: all are alike, but for the separators of lines and paragraphs. -/
def readBreak (c : Char) : Char :=
  if c = '\u2028' || c = '\u2029' then c else '\n'

/-- Whether a text may hold a character. -/
def isAllowed (c : Char) : Bool :=
  let n := c.toNat
  n = 9 || n = 10 || n = 13 || (0x20 ≤ n && n ≤ 0x7E) || n = 0x85 || (0xA0 ≤ n && n ≤ 0xD7FF) ||
    (0xE000 ≤ n && n ≤ 0xFFFD) || 0x10000 ≤ n

/-- A place in a text. -/
structure Cursor where
  rest : List Char
  line : Nat := 0
  column : Nat := 0
  index : Nat := 0
  deriving Inhabited

namespace Cursor

/-- The character at a place. -/
def peek (c : Cursor) : Option Char :=
  c.rest.head?

/-- The character some way behind a place. -/
def peekAt (c : Cursor) (n : Nat) : Option Char :=
  c.rest[n]?

/-- Whether the character at a place satisfies a predicate. -/
def looksAt (c : Cursor) (p : Char → Bool) : Bool :=
  c.peek.any p

/-- The place after characters that belong to the same line. -/
def advance (c : Cursor) (n : Nat) : Cursor :=
  { c with rest := c.rest.drop n, column := c.column + n, index := c.index + n }

/-- The place after the characters that satisfy a predicate; none of them is a line break. -/
def skip (c : Cursor) (p : Char → Bool) : Cursor :=
  c.advance (c.rest.takeWhile p).length

/-- How many characters the line break at a place takes. -/
def breakLength : List Char → Nat
  | '\r' :: '\n' :: _ => 2
  | c :: _ => if isBreak c then 1 else 0
  | [] => 0

/-- The place after the line break at a place, if there is one. -/
def pastBreak (c : Cursor) : Cursor :=
  match breakLength c.rest with
  | 0 => c
  | n => { rest := c.rest.drop n, line := c.line + 1, column := 0, index := c.index + n }

/-- How the line break at a place reads. -/
def breakText (c : Cursor) : List Char :=
  ((c.peek.filter isBreak).map readBreak).toList

/-- Whether a place is at three equal characters that stand alone at the beginning of a line. -/
def atMarker (c : Cursor) (m : Char) : Bool :=
  c.column = 0 && c.rest.take 3 == [m, m, m] && isGap (c.peekAt 3)

/-- Whether a place is at the mark of the beginning or the end of a document. -/
def atDocumentMarker (c : Cursor) : Bool :=
  c.atMarker '-' || c.atMarker '.'

end Cursor
end RecordRules.Yaml
