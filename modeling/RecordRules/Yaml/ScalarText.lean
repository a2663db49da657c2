import RecordRules.Numeral
import RecordRules.Yaml.Folding

/-! # The texts of scalars

A scalar is written plainly, within quotes, or as a block of indented lines.

* `readPlain`    a scalar without quotes
* `readSingle`, `readDouble`   a scalar after its opening quote
* `readBlock`    a scalar of indented lines, after its `|` or `>` -/

namespace RecordRules.Yaml

/-- The characters that end a plain scalar between brackets. -/
def isFlowMark (c : Char) : Bool :=
  c = ',' || c = '[' || c = ']' || c = '{' || c = '}'

/-- How many characters the next word of a plain scalar has. -/
def wordLength (flow : Bool) : List Char → Option Nat
  | [] => some 0
  | c :: rest =>
    let next := rest.head?
    if isGap (some c) then some 0
    else if flow && c = ':' && next.any (fun d => isFlowMark d || d = '?') then none
    else if (c = ':' && isGap next) || (flow && isFlowMark c) then some 0
    else (wordLength flow rest).map (· + 1)

/-- A scalar without quotes.  The flag of the result tells whether white space with a line break
    follows the last word; `gap` stands before the next word, and `text` is what came before, last
    character first. -/
def plainFrom (flow : Bool) (minColumn : Nat) : Nat → List Char → Gap → Cursor →
    Option (List Char × Bool × Cursor)
  | 0, text, gap, c => some (text, gap.isMultiline, c)
  | fuel + 1, text, gap, c =>
    if c.atDocumentMarker || c.looksAt (· = '#') then some (text, gap.isMultiline, c)
    else do
      let n ← wordLength flow c.rest
      if n = 0 then some (text, gap.isMultiline, c)
      else
        let text := (c.rest.take n).reverse ++ (gap.text.reverse ++ text)
        let c := c.advance n
        if isLineEnd c.peek || c.looksAt isBlank then
          let (gap, c) ← Gap.read false minColumn c
          if !flow && c.column < minColumn then some (text, gap.isMultiline, c)
          else plainFrom flow minColumn fuel text gap c
        else some (text, false, c)

/-- A scalar without quotes: its text, whether a line break follows it, and what follows. -/
def readPlain (flow : Bool) (minColumn : Nat) (c : Cursor) :
    Option (String × Bool × Cursor) := do
  let (text, multiline, c) ← plainFrom flow minColumn (c.rest.length + 1) [] {} c
  return (String.ofList text.reverse, multiline, c)

/-- A piece of a quoted scalar: its characters after those given, last first, the characters
    that follow, and whether it ends with a line break that does not count. -/
abbrev Piece := Option (List Char × List Char × Bool)

/-- The next piece of a scalar in single quotes, up to white space or the closing quote. -/
def singlePiece (acc : List Char) : List Char → Piece
  | [] => some (acc, [], false)
  | '\'' :: '\'' :: rest => singlePiece ('\'' :: acc) rest
  | c :: rest =>
    if isGap (some c) || c = '\'' then some (acc, c :: rest, false)
    else singlePiece (c :: acc) rest

/-- The character of an escape with one letter. -/
def escaped? : Char → Option Char
  | '0' => some '\x00'
  | 'a' => some '\x07'
  | 'b' => some '\x08'
  | 't' | '\t' => some '\t'
  | 'n' => some '\n'
  | 'v' => some '\x0b'
  | 'f' => some '\x0c'
  | 'r' => some '\r'
  | 'e' => some '\x1b'
  | ' ' => some ' '
  | '"' => some '"'
  | '/' => some '/'
  | '\\' => some '\\'
  | 'N' => some '\u0085'
  | '_' => some '\u00a0'
  | 'L' => some '\u2028'
  | 'P' => some '\u2029'
  | _ => none

/-- How many hexadecimal digits follow the letter of an escape. -/
def escapeDigits? : Char → Option Nat
  | 'x' => some 2
  | 'u' => some 4
  | 'U' => some 8
  | _ => none

/-- The character of an escape with hexadecimal digits, surrogates being refused. -/
def codeEscape? (count : Nat) (cs : List Char) : Option Char := do
  let digits := cs.take count
  guard (digits.length = count)
  let n ← Numeral.natural? 16 digits
  if n.isValidChar then some (Char.ofNat n) else none

/-- The next piece of a scalar in double quotes, up to white space or the closing quote. -/
def doublePiece : Nat → List Char → List Char → Piece
  | 0, acc, cs => some (acc, cs, false)
  | _ + 1, acc, [] => some (acc, [], false)
  | fuel + 1, acc, c :: rest =>
    if isGap (some c) || c = '"' then some (acc, c :: rest, false)
    else if c ≠ '\\' then doublePiece fuel (c :: acc) rest
    else match rest with
      | [] => none
      | e :: rest =>
        if isBreak e then some (acc, e :: rest, true)
        else match escapeDigits? e with
          | some count => do
            let d ← codeEscape? count rest
            doublePiece fuel (d :: acc) (rest.drop count)
          | none => do
            let d ← escaped? e
            doublePiece fuel (d :: acc) rest

/-- A quoted scalar after its opening quote, by the reader of its pieces. -/
def quotedFrom (quote : Char) (piece : List Char → List Char → Piece) :
    Nat → List Char → Cursor → Option (String × Cursor)
  | 0, _, _ => none
  | fuel + 1, text, c =>
    if c.atDocumentMarker || c.rest.isEmpty then none
    else do
      let (text, rest, skipsBreak) ← piece text c.rest
      let c := c.advance (c.rest.length - rest.length)
      if c.looksAt (· = quote) then some (String.ofList text.reverse, c.advance 1)
      else
        let c := if skipsBreak then c.pastBreak else c
        if skipsBreak && c.looksAt (· = quote) then
          some (String.ofList text.reverse, c.advance 1)
        else
          let (gap, c) ← Gap.read skipsBreak 0 c
          quotedFrom quote piece fuel (gap.text.reverse ++ text) c

/-- A scalar after its opening single quote. -/
def readSingle (c : Cursor) : Option (String × Cursor) :=
  quotedFrom '\'' singlePiece (c.rest.length + 1) [] c

/-- A scalar after its opening double quote. -/
def readDouble (c : Cursor) : Option (String × Cursor) :=
  quotedFrom '"' (doublePiece (c.rest.length + 1)) (c.rest.length + 1) [] c

/-- What becomes of the line breaks at the end of a block. -/
inductive Chomping where
  | strip
  | clip
  | keep
  deriving DecidableEq, Repr

/-- The first line of a block: what becomes of its last line breaks, and its indentation as far
    as it is told. -/
structure BlockHeader where
  chomping : Chomping := .clip
  indentation : Option Nat := none

/-- The chomping of a sign. -/
def chomping? : Char → Option Chomping
  | '-' => some .strip
  | '+' => some .keep
  | _ => none

/-- The indentation of a digit other than zero. -/
def indentation? (c : Char) : Option (Option Nat) :=
  if c = '0' then some none
  else if c.isDigit then some (some (c.toNat - '0'.toNat))
  else none

/-- The signs and digits of the first line of a block. -/
def readBlockHeader (c : Cursor) : Option (BlockHeader × Cursor) :=
  match c.peek.bind chomping? with
  | some chomping =>
    let c := c.advance 1
    match c.peek.bind indentation? with
    | some none => none
    | some (some n) => some (⟨chomping, n⟩, c.advance 1)
    | none => some (⟨chomping, none⟩, c)
  | none =>
    match c.peek.bind indentation? with
    | some none => none
    | some (some n) =>
      let c := c.advance 1
      match c.peek.bind chomping? with
      | some chomping => some (⟨chomping, n⟩, c.advance 1)
      | none => some (⟨.clip, n⟩, c)
    | none => some ({}, c)

/-- Spaces and line breaks before the next line of a block, up to its indentation if that is
    known: the greatest column that was reached, the breaks, last first, and the place.  Tabs are
    no indentation. -/
def blockBreaks (indentation : Option Nat) : Nat → Nat → List Char → Cursor →
    Option (Nat × List Char × Cursor)
  | 0, _, _, _ => none
  | fuel + 1, reached, breaks, c =>
    let spaces := (c.rest.takeWhile (· = ' ')).length
    let c := c.advance (match indentation with
      | none => spaces
      | some n => min spaces (n - c.column))
    let reached := max reached c.column
    if c.looksAt (· = '\t') && indentation.all (c.column < ·) then none
    else if c.looksAt isBreak then
      blockBreaks indentation fuel reached (c.breakText ++ breaks) c.pastBreak
    else some (reached, breaks, c)

/-- The lines of a block: `text` and `last` are the text and the line break read so far and
    `breaks` the ones after that, all with the last character first. -/
def blockLines (literal : Bool) (indentation : Nat) : Nat → List Char → List Char →
    List Char → Bool → Cursor → Option (List Char × List Char × List Char × Cursor)
  | 0, _, _, _, _, _ => none
  | fuel + 1, text, last, breaks, blankBefore, c =>
    if c.column ≠ indentation || c.rest.isEmpty then some (text, last, breaks, c)
    else do
      let blankHere := c.looksAt isBlank
      let folds := !literal && last == ['\n'] && !blankBefore && !blankHere
      let joint := if folds then (if breaks.isEmpty then [' '] else []) else last
      let line := c.rest.takeWhile (!isBreak ·)
      let text := line.reverse ++ (breaks ++ (joint ++ text))
      let c := c.advance line.length
      let last := c.breakText
      let c := c.pastBreak
      let (_, breaks, c) ← blockBreaks indentation (c.rest.length + 1) 0 [] c
      blockLines literal indentation fuel text last breaks blankHere c

/-- A scalar of indented lines, after its `|` or `>`; `parent` is the column of the collection
    around it, if there is one. -/
def readBlock (literal : Bool) (parent : Option Nat) (c : Cursor) :
    Option (String × Cursor) := do
  let (header, c) ← readBlockHeader c
  let c := c.skip isBlank
  let c := if c.looksAt (· = '#') then c.skip (!isBreak ·) else c
  guard (isLineEnd c.peek)
  let c := c.pastBreak
  let told := header.indentation.map (parent.getD 0 + ·)
  let (reached, breaks, c) ← blockBreaks told (c.rest.length + 1) 0 [] c
  let indentation := told.getD (max reached (max 1 (parent.elim 0 (· + 1))))
  let (text, last, breaks, c) ←
    blockLines literal indentation (c.rest.length + 1) [] [] breaks false c
  let tail := match header.chomping with
    | .strip => []
    | .clip => last
    | .keep => breaks ++ last
  return (String.ofList (tail ++ text).reverse, c)

end RecordRules.Yaml
