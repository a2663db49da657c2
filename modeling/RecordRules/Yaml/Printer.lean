import RecordRules.Binary64.Layout
import RecordRules.Yaml.Page
import RecordRules.Yaml.Style

/-! # Writing YAML text

Lists and mappings are written over several lines, each level indented by two; a list within a
mapping is not indented further than its key.  Empty ones are written with brackets.

* `Yaml.render`   the text of a value -/

namespace RecordRules.Yaml

/-- The text of a value that is no text, list or object. -/
def atomText : Json → String
  | .null => "null"
  | .boolean b => if b then "true" else "false"
  | .integer n => toString n
  | .real x => x.render .yaml
  | _ => ""

/-- The letter of an escape that has one. -/
def escapeLetter? (c : Char) : Option Char :=
  match c with
  | '\x00' => some '0'
  | '\x07' => some 'a'
  | '\x08' => some 'b'
  | '\t' => some 't'
  | '\n' => some 'n'
  | '\x0b' => some 'v'
  | '\x0c' => some 'f'
  | '\r' => some 'r'
  | '\x1b' => some 'e'
  | '"' => some '"'
  | '\\' => some '\\'
  | '\u0085' => some 'N'
  | '\u2028' => some 'L'
  | '\u2029' => some 'P'
  | _ => none

/-- The hexadecimal digits of a number, in upper case and of a width. -/
def hexDigits (width n : Nat) : List Char :=
  let digits := (Nat.toDigits 16 n).map Char.toUpper
  List.replicate (width - digits.length) '0' ++ digits

/-- A character within double quotes. -/
def escape (c : Char) : List Char :=
  match escapeLetter? c with
  | some letter => ['\\', letter]
  | none =>
    if ScalarStyle.isPrintable c then [c]
    else if c.toNat ≤ 0xFF then '\\' :: 'x' :: hexDigits 2 c.toNat
    else if c.toNat ≤ 0xFFFF then '\\' :: 'u' :: hexDigits 4 c.toNat
    else '\\' :: 'U' :: hexDigits 8 c.toNat

namespace Page

/-- Ends a word. -/
def endWord (p : Page) : Page :=
  { p with spaced := false, fresh := false }

/-- Writes a text without quotes. -/
def plain (p : Page) (s : String) : Page :=
  let p := if p.spaced || s.isEmpty then p else p.put ' '
  (p.putAll s.toList).endWord

/-- Writes the characters of a text in single quotes; `broken` tells that line breaks were the
    last of them. -/
def singleQuotedFrom (column : Nat) : Bool → List Char → Page → Page
  | broken, [], p => if broken then p.indent column else p
  | broken, c :: rest, p =>
    if c = ' ' then singleQuotedFrom column broken rest (p.put c)
    else if isBreak c then
      let p := if !broken && c = '\n' then p.putBreak '\n' else p
      singleQuotedFrom column true rest { p.putBreak c with fresh := true }
    else
      let p := if broken then p.indent column else p
      let p := if c = '\'' then p.put '\'' else p
      singleQuotedFrom column false rest (p.putInWord c)

/-- Writes a text in single quotes. -/
def singleQuoted (p : Page) (column : Nat) (s : String) : Page :=
  ((singleQuotedFrom column false s.toList (p.sign "'" true false false)).sign
    "'" false false false).endWord

/-- Writes a text in double quotes. -/
def doubleQuoted (p : Page) (s : String) : Page :=
  (((p.sign "\"" true false false).putAll (s.toList.flatMap escape)).sign
    "\"" false false false).endWord

/-- What is said about the line breaks at the end of a block. -/
def chompingSign (cs : List Char) : String :=
  match cs.reverse with
  | a :: rest => if !isBreak a then "-" else if rest.head?.all isBreak then "+" else ""
  | [] => "-"

/-- Writes the characters of a block; `broken` tells that a line break came last. -/
def blockFrom (column : Nat) : Bool → List Char → Page → Page
  | _, [], p => p
  | broken, c :: rest, p =>
    if isBreak c then blockFrom column true rest { p.putBreak c with fresh := true }
    else
      let p := if broken then p.indent column else p
      blockFrom column false rest (p.putInWord c)

/-- Writes a text as a block. -/
def block (p : Page) (column : Nat) (s : String) : Page :=
  let cs := s.toList
  let hint := if cs.head?.any fun c => c = ' ' || isBreak c then "2" else ""
  let p := ((p.sign "|" true false false).sign (hint ++ chompingSign cs) false false false)
  blockFrom column true cs { p.putBreak '\n' with fresh := true, spaced := true }

/-- Writes a text; `column` is that of the lines that it may go on to. -/
def scalar (p : Page) (column : Nat) (simpleKey : Bool) (s : String) : Page :=
  match ScalarStyle.of simpleKey s with
  | .plain => p.plain s
  | .singleQuoted => p.singleQuoted column s
  | .doubleQuoted => p.doubleQuoted s
  | .block => p.block column s

/-- Whether a key stands on the line of its value: it has one line and at most 128 bytes. -/
def isSimpleKey (key : String) : Bool :=
  key.utf8ByteSize ≤ 128 && !ScalarStyle.isMultiline key.toList

/-- Writes a key of a mapping, up to its colon. -/
def key (p : Page) (column : Nat) (name : String) : Page :=
  let p := p.indent column
  if isSimpleKey name then (p.scalar (column + 2) true name).sign ":" false false false
  else
    let p := (p.sign "?" true false true).scalar (column + 2) false name
    (p.indent column).sign ":" true false true

/-- The column of a level within one whose column is known. -/
def deeper (column : Option Nat) : Nat :=
  column.elim 0 (· + 2)

mutual

/-- Writes a value within a collection at a column, which is a mapping if `inMapping`. -/
def value (column : Option Nat) (inMapping : Bool) : Json → Page → Page
  | .text s, p => p.scalar (column.elim 2 (· + 2)) false s
  | .array [], p => (p.sign "[" true true false).sign "]" false false false
  | .object [], p => (p.sign "\x7b" true true false).sign "\x7d" false false false
  | .array (item :: rest), p =>
    let column := if inMapping && !p.fresh then column.getD 0 else deeper column
    items column (item :: rest) p
  | .object (member :: rest), p => members (deeper column) (member :: rest) p
  | atom, p => p.plain (atomText atom)

/-- Writes the items of a list. -/
def items (column : Nat) : List Json → Page → Page
  | [], p => p
  | item :: rest, p =>
    let p := (p.indent column).sign "-" true false true
    items column rest (value column false item p)

/-- Writes the members of an object. -/
def members (column : Nat) : List (String × Json) → Page → Page
  | [], p => p
  | (name, item) :: rest, p =>
    members column rest (value column true item (p.key column name))

end
end Page

/-- The text of a value. -/
def render (v : Json) : String :=
  ((Page.value none false v {}).indent 0).text

end RecordRules.Yaml
