import RecordRules.Toml.Text

/-! # How a text is written in a TOML document

A text is written in double quotes if it needs no escapes there, else in single quotes if they
can hold it, and then over several lines.  Only what nothing holds as it is gets escapes.  A key
needs no quotes if it is a plain word.

* `TextStyle.of`     the style in which a text is written
* `TextStyle.ofKey`  the style in which a key is written -/

namespace RecordRules.Toml

/-- The ways of writing a text. -/
inductive TextStyle where
  /-- Without quotes, which only keys may be. -/
  | bare
  | basic
  | literal
  | multilineBasic
  | multilineLiteral
  deriving DecidableEq, Repr

namespace TextStyle

/-- Whether a character is always written as an escape: control characters other than tabs and
    line feeds. -/
def isControl (c : Char) : Bool :=
  (c.toNat ≤ 0x1F && c ≠ '\t' && c ≠ '\n') || c.toNat = 0x7F

/-- The length of the longest run of a character, of which `run` were met just before. -/
def longestRun (c : Char) (run : Nat) : List Char → Nat
  | [] => run
  | d :: rest => if d = c then longestRun c (run + 1) rest else max run (longestRun c 0 rest)

/-- Whether a character may be part of a bare key. -/
def isBare (c : Char) : Bool :=
  c.isAlphanum || c = '_' || c = '-'

/-- Whether a style holds a text without escapes. -/
def holds (style : TextStyle) (cs : List Char) : Bool :=
  match style with
  | bare => !cs.isEmpty && cs.all isBare
  | basic => !cs.any fun c => isControl c || c = '\n' || c = '\\' || c = '"'
  | literal => !cs.any fun c => isControl c || c = '\n' || c = '\''
  | multilineBasic =>
    !(cs.any fun c => isControl c || c = '\\') && longestRun '"' 0 cs ≤ 2
  | multilineLiteral => !cs.any isControl && longestRun '\'' 0 cs ≤ 2

/-- The style in which a text is written. -/
def of (cs : List Char) : TextStyle :=
  (([basic, literal, multilineBasic, multilineLiteral] : List TextStyle).find? (·.holds cs)).getD
    (if cs.contains '\n' then multilineBasic else basic)

/-- The style in which a key is written. -/
def ofKey (cs : List Char) : TextStyle :=
  (([bare, basic, literal] : List TextStyle).find? (·.holds cs)).getD basic

/-- Whether a text in this style goes over several lines. -/
def isMultiline : TextStyle → Bool
  | multilineBasic | multilineLiteral => true
  | _ => false

/-- What stands on both sides of a text. -/
def quotes : TextStyle → String
  | bare => ""
  | basic => "\""
  | literal => "'"
  | multilineBasic => "\"\"\""
  | multilineLiteral => "'''"

/-- The letter of an escape that has one. -/
def escapeLetter? : Char → Option Char
  | '\x08' => some 'b'
  | '\t' => some 't'
  | '\n' => some 'n'
  | '\x0c' => some 'f'
  | '\r' => some 'r'
  | '"' => some '"'
  | '\\' => some '\\'
  | _ => none

/-- The escape of a character. -/
def escape (c : Char) : List Char :=
  match escapeLetter? c with
  | some letter => ['\\', letter]
  | none =>
    let digits := (Nat.toDigits 16 c.toNat).map Char.toUpper
    '\\' :: 'u' :: List.replicate (4 - digits.length) '0' ++ digits

/-- Whether a character is written as an escape, after a run of double quotes: over several
    lines, line feeds stay and so do double quotes unless they would make three. -/
def isEscaped (multiline : Bool) (run : Nat) (c : Char) : Bool :=
  isControl c || c = '\\' || c = '\t' ||
    (c = '\n' && !multiline) || (c = '"' && (!multiline || run = 2))

/-- A text with escapes, after a run of double quotes. -/
def escapeAll (multiline : Bool) (run : Nat) : List Char → List Char
  | [] => []
  | c :: rest =>
    if isEscaped multiline run c then escape c ++ escapeAll multiline 0 rest
    else c :: escapeAll multiline (if c = '"' then run + 1 else 0) rest

/-- What stands between the quotes. -/
def body (style : TextStyle) (cs : List Char) : List Char :=
  match style with
  | basic => escapeAll false 0 cs
  | multilineBasic => escapeAll true 0 cs
  | _ => cs

/-- A text in a style.  A text of several lines begins on a line of its own. -/
def render (style : TextStyle) (cs : List Char) : String :=
  let start := if style.isMultiline && cs.contains '\n' then "\n" else ""
  style.quotes ++ start ++ String.ofList (style.body cs) ++ style.quotes

end TextStyle

/-- A text in its style. -/
def textOf (s : String) : String :=
  (TextStyle.of s.toList).render s.toList

/-- A key in its style. -/
def keyOf (s : String) : String :=
  (TextStyle.ofKey s.toList).render s.toList

end RecordRules.Toml
