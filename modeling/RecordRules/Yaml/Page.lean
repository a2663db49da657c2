/-! # A page of YAML text

A page is a text under way: what is on it, and where its end stands. -/

namespace RecordRules.Yaml

/-- A text that is being written. -/
structure Page where
  /-- The characters, last first. -/
  written : List Char := []
  column : Nat := 0
  /-- Whether the end stands behind white space. -/
  spaced : Bool := true
  /-- Whether only indentation and signs of it stand on the last line. -/
  fresh : Bool := true

namespace Page

/-- The text of a page. -/
def text (p : Page) : String :=
  String.ofList p.written.reverse

/-- Adds a character of the line. -/
def put (p : Page) (c : Char) : Page :=
  { p with written := c :: p.written, column := p.column + 1 }

/-- Adds characters of the line. -/
def putAll (p : Page) (cs : List Char) : Page :=
  cs.foldl put p

/-- Adds a line break. -/
def putBreak (p : Page) (c : Char) : Page :=
  { p with written := c :: p.written, column := 0 }

/-- Adds a character of a word. -/
def putInWord (p : Page) (c : Char) : Page :=
  { p.put c with fresh := false }

/-- Goes to a column, on a new line unless nothing is in the way on this one. -/
def indent (p : Page) (column : Nat) : Page :=
  let stays := p.fresh && (p.column < column || (p.column = column && p.spaced))
  let p := if stays then p else p.putBreak '\n'
  { p.putAll (List.replicate (column - p.column) ' ') with spaced := true, fresh := true }

/-- Adds a sign, behind a space if it needs one.  Some signs are white space for what follows,
    and some are part of the indentation. -/
def sign (p : Page) (s : String) (needsSpace isSpace isIndentation : Bool) : Page :=
  let p := if needsSpace && !p.spaced then p.put ' ' else p
  let p := p.putAll s.toList
  { p with spaced := isSpace, fresh := p.fresh && isIndentation }

end Page
end RecordRules.Yaml
