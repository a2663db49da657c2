import RecordRules.Toml.Table
import RecordRules.Toml.Text

/-! # Lines of TOML texts

A text is a list of headers and entries, each on a line of its own.  The values of entries may
go over several lines.

* `Line.ofText?`   the headers and entries of a text -/

namespace RecordRules.Toml

open RecordRules.Toml.Text (afterBreak?)

/-- A line that says something. -/
inductive Line where
  | header (h : Header)
  | entry (path : List String) (key : String) (value : Value)

/-- The rest after blanks. -/
def skipBlanks (cs : List Char) : List Char :=
  cs.dropWhile Text.isBlank

/-- The rest after a comment, if there is one. -/
def skipComment? (cs : List Char) : Option (List Char) :=
  match cs with
  | '#' :: rest =>
    let rest := rest.dropWhile Text.isAllowed
    if rest.isEmpty || (afterBreak? rest).isSome then some rest else none
  | _ => some cs

/-- The rest after blanks, comments and line breaks. -/
def skipLines? : Nat → List Char → Option (List Char)
  | 0, cs => some cs
  | fuel + 1, cs => do
    let cs ← skipComment? (skipBlanks cs)
    match afterBreak? cs with
    | some rest => skipLines? fuel rest
    | none => return cs

/-- The characters of keys without quotes. -/
def isKeyChar (c : Char) : Bool :=
  c.isAlphanum || c = '_' || c = '-'

/-- A part of a key. -/
def keyPart? (cs : List Char) : Option (String × List Char) :=
  match cs with
  | '"' :: _ | '\'' :: _ => Text.readLine? cs
  | _ =>
    let name := cs.takeWhile isKeyChar
    if name.isEmpty then none else some (String.ofList name, cs.drop name.length)

/-- A key: its parts with points between them.  The result has the last part apart. -/
def key? : Nat → List Char → Option (List String × String × List Char)
  | 0, _ => none
  | fuel + 1, cs => do
    let (part, cs) ← keyPart? (skipBlanks cs)
    match skipBlanks cs with
    | '.' :: rest => do
      let (path, key, rest) ← key? fuel rest
      return (part :: path, key, rest)
    | rest => return ([], part, rest)

/-- The characters of a value without quotes and brackets. -/
def isWordChar (c : Char) : Bool :=
  c.isAlphanum || c = '_' || c = '-' || c = '+' || c = '.' || c = ':'

/-- A value without quotes and brackets.  A date and a time may have a space between them. -/
def word? (cs : List Char) : Option (Scalar × List Char) := do
  let word := cs.takeWhile isWordChar
  let rest := cs.drop word.length
  let isDate := match Scalar.date? word with
    | some (_, []) => true
    | _ => false
  match isDate, rest with
  | true, ' ' :: c :: more =>
    if c.isDigit then
      let time := (c :: more).takeWhile isWordChar
      let s ← Scalar.ofWord? (word ++ ' ' :: time)
      return (s, (c :: more).drop time.length)
    else return (← Scalar.ofWord? word, rest)
  | _, _ => return (← Scalar.ofWord? word, rest)

mutual

/-- A value, in which brackets may nest `depth` levels deep. -/
def value? : Nat → Nat → List Char → Option (Value × List Char)
  | 0, _, _ => none
  | fuel + 1, depth, cs =>
    match cs with
    | '[' :: rest =>
      match depth with
      | 0 => none
      | depth + 1 => do
        let (items, rest) ← items? fuel depth rest
        return (.array items, rest)
    | '{' :: rest =>
      match depth with
      | 0 => none
      | depth + 1 => do
        let (entries, rest) ← entries? fuel depth [] rest
        return (.table .braced entries, rest)
    | '"' :: _ | '\'' :: _ => do
      let (s, rest) ← Text.read? cs
      return (.scalar (.text s), rest)
    | _ => do
      let (s, rest) ← word? cs
      return (.scalar s, rest)

/-- The values up to the closing bracket; a comma may follow the last one. -/
def items? : Nat → Nat → List Char → Option (List Value × List Char)
  | 0, _, _ => none
  | fuel + 1, depth, cs => do
    match ← skipLines? fuel cs with
    | ']' :: rest => return ([], rest)
    | cs => do
      let (item, rest) ← value? fuel depth cs
      match ← skipLines? fuel rest with
      | ']' :: rest => return ([item], rest)
      | ',' :: rest => do
        let (items, rest) ← items? fuel depth rest
        return (item :: items, rest)
      | _ => none

/-- The entries up to the closing brace, after those given; a comma may follow the last one. -/
def entries? : Nat → Nat → Entries → List Char → Option (Entries × List Char)
  | 0, _, _, _ => none
  | fuel + 1, depth, entries, cs => do
    match ← skipLines? fuel cs with
    | '}' :: rest => return (entries, rest)
    | cs => do
      let (path, key, value, rest) ← member? fuel depth cs
      let entries ← Entries.insert? path key value .explicit entries
      match ← skipLines? fuel rest with
      | '}' :: rest => return (entries, rest)
      | ',' :: rest => entries? fuel depth entries rest
      | _ => none

/-- An entry. -/
def member? : Nat → Nat → List Char → Option (List String × String × Value × List Char)
  | 0, _, _ => none
  | fuel + 1, depth, cs => do
    let (path, key, rest) ← key? fuel cs
    match rest with
    | '=' :: rest => do
      let (value, rest) ← value? fuel depth (skipBlanks rest)
      return (path, key, value, rest)
    | _ => none

end

/-- Brackets may nest this deep. -/
def maxDepth : Nat := 80

/-- A header behind its first bracket. -/
def header? (fuel : Nat) (cs : List Char) : Option (Header × List Char) :=
  match cs with
  | '[' :: rest => do
    let (path, key, rest) ← key? fuel rest
    match rest with
    | ']' :: ']' :: rest => return (⟨path, key, true⟩, rest)
    | _ => none
  | _ => do
    let (path, key, rest) ← key? fuel cs
    match rest with
    | ']' :: rest => return (⟨path, key, false⟩, rest)
    | _ => none

/-- A header or an entry at a place. -/
def line? (fuel : Nat) (cs : List Char) : Option (Line × List Char) :=
  match cs with
  | '[' :: rest => (header? fuel rest).map fun (h, rest) => (.header h, rest)
  | _ => (member? fuel maxDepth cs).map fun (path, key, value, rest) =>
    (.entry path key value, rest)

/-- The headers and entries from a place on; `size` bounds the size of one. -/
def lines? (size : Nat) : Nat → List Char → Option (List Line)
  | 0, _ => none
  | fuel + 1, cs => do
    let cs ← skipLines? size cs
    if cs.isEmpty then return []
    let (line, rest) ← line? size cs
    match ← skipComment? (skipBlanks rest) with
    | [] => return [line]
    | rest => do
      let lines ← lines? size fuel (← afterBreak? rest)
      return line :: lines

/-- The headers and entries of a text, which may begin with a byte order mark. -/
def Line.ofText? (text : String) : Option (List Line) :=
  let cs := match text.toList with
    | '\ufeff' :: rest => rest
    | cs => cs
  lines? (2 * cs.length + 4) (cs.length + 2) cs

/-- What lines say, one after the other. -/
def Draft.addAll? : Draft → List Line → Option Draft
  | d, [] => some d
  | d, .header h :: rest => (d.open? h).bind (addAll? · rest)
  | d, .entry path key value :: rest => (d.insert? path key value).bind (addAll? · rest)

/-- The entries of the document that a text holds. -/
def entriesOfText? (text : String) : Option Entries := do
  let d ← Draft.addAll? {} (← Line.ofText? text)
  d.close?

end RecordRules.Toml
