import RecordRules.Yaml.ScalarText
import RecordRules.Yaml.Token.Names

/-! # From a YAML text to its tokens

A key without a sign of its own is known for a key only by the `:` behind it.  So the place of
anything that may turn out to be such a key is kept, and the tokens that announce it are put in
when its `:` comes.  It has to come on the same line, within 1024 characters.

* `Token.ofText?`   the tokens of a text -/

namespace RecordRules.Yaml

/-- Something that may turn out to be a key. -/
structure PossibleKey where
  /-- Whether it stands where only keys are allowed. -/
  required : Bool
  /-- How many tokens come before it. -/
  number : Nat
  line : Nat
  column : Nat
  index : Nat
  deriving Inhabited

/-- A text whose tokens are known up to a place. -/
structure Lexer where
  cursor : Cursor
  tokens : Array Token := #[]
  /-- The column of the block collection around the place, and those of the ones around it. -/
  indent : Option Nat := none
  outerIndents : List (Option Nat) := []
  /-- The possible key within the innermost brackets, and those outside. -/
  key : Option PossibleKey := none
  outerKeys : List (Option PossibleKey) := []
  /-- Whether a key may begin at the place. -/
  keyAllowed : Bool := true

namespace Lexer

/-- Whether the place is between brackets. -/
def inFlow (s : Lexer) : Bool :=
  !s.outerKeys.isEmpty

/-- Adds a token, past the given number of characters. -/
def emit (s : Lexer) (token : Token) (width : Nat) : Lexer :=
  { s with tokens := s.tokens.push token, cursor := s.cursor.advance width }

/-- Forgets the possible key; one that is required must not be forgotten. -/
def dropKey (s : Lexer) : Option Lexer :=
  if s.key.any PossibleKey.required then none else some { s with key := none }

/-- Remembers the place as that of a possible key, where one is allowed. -/
def saveKey (s : Lexer) : Option Lexer :=
  if !s.keyAllowed then some s
  else do
    let s ← s.dropKey
    let c := s.cursor
    return { s with
      key := some
        { required := !s.inFlow && s.indent = some c.column
          number := s.tokens.size
          line := c.line
          column := c.column
          index := c.index } }

/-- Whether a possible key is too far behind the place. -/
def isStale (s : Lexer) (k : PossibleKey) : Bool :=
  k.line < s.cursor.line || k.index + 1024 < s.cursor.index

/-- Forgets the possible keys that are too far behind. -/
def dropStaleKeys (s : Lexer) : Option Lexer :=
  let stale (key : Option PossibleKey) := key.any s.isStale
  if (s.key :: s.outerKeys).any fun k => stale k && k.any PossibleKey.required then none
  else
    let keep (key : Option PossibleKey) := if stale key then none else key
    some { s with key := keep s.key, outerKeys := s.outerKeys.map keep }

/-- Begins a block collection at a column that is further right than the one around; `number`
    is the place among the tokens. -/
def indentTo (s : Lexer) (column number : Nat) (token : Token) : Lexer :=
  if s.inFlow || s.indent.any (column ≤ ·) then s
  else { s with
    indent := some column
    outerIndents := s.indent :: s.outerIndents
    tokens := s.tokens.insertIdxIfInBounds number token }

/-- Ends the block collections that are further right than a column; with none, all of them. -/
def closeBlocks (column : Option Nat) (tokens : Array Token) :
    Option Nat → List (Option Nat) → Array Token × Option Nat × List (Option Nat)
  | indent, [] => (tokens, indent, [])
  | indent, outer :: rest =>
    if indent.any fun n => column.all (· < n) then
      closeBlocks column (tokens.push .blockEnd) outer rest
    else (tokens, indent, outer :: rest)

/-- Ends the block collections that are further right than a column. -/
def unindent (s : Lexer) (column : Option Nat) : Lexer :=
  if s.inFlow then s
  else
    let (tokens, indent, outer) := closeBlocks column s.tokens s.indent s.outerIndents
    { s with tokens := tokens, indent := indent, outerIndents := outer }

/-- The place after spaces, comments and line breaks, and whether a key may begin there. -/
def skipGaps (inFlow : Bool) : Nat → Cursor → Bool → Cursor × Bool
  | 0, c, allowed => (c, allowed)
  | fuel + 1, c, allowed =>
    let c := if c.column = 0 && c.looksAt (· = '\ufeff') then c.advance 1 else c
    let c := c.skip fun ch => ch = ' ' || (ch = '\t' && (inFlow || !allowed))
    let c := if c.looksAt (· = '#') then c.skip (!isBreak ·) else c
    if c.looksAt isBreak then skipGaps inFlow fuel c.pastBreak (allowed || !inFlow)
    else (c, allowed)

/-- Goes to the next token. -/
def toToken (s : Lexer) : Lexer :=
  let (c, allowed) := skipGaps s.inFlow (s.cursor.rest.length + 1) s.cursor s.keyAllowed
  { s with cursor := c, keyAllowed := allowed }

/-- The mark of the beginning or the end of a document. -/
def documentMarker (s : Lexer) (token : Token) : Option Lexer := do
  let s ← (s.unindent none).dropKey
  return { s with keyAllowed := false }.emit token 3

/-- A directive. -/
def directive (s : Lexer) : Option Lexer := do
  let s ← (s.unindent none).dropKey
  let (token, c) ← readDirective (s.cursor.advance 1)
  return { s with keyAllowed := false, tokens := s.tokens.push token, cursor := c }

/-- An opening bracket. -/
def openFlow (s : Lexer) (token : Token) : Option Lexer := do
  let s ← s.saveKey
  return { s with key := none, outerKeys := s.key :: s.outerKeys, keyAllowed := true }.emit token 1

/-- A closing bracket. -/
def closeFlow (s : Lexer) (token : Token) : Option Lexer := do
  let s ← s.dropKey
  let (key, outer) := match s.outerKeys with
    | [] => (none, [])
    | key :: outer => (key, outer)
  return { s with key := key, outerKeys := outer, keyAllowed := false }.emit token 1

/-- A comma between brackets. -/
def comma (s : Lexer) : Option Lexer := do
  let s ← s.dropKey
  return { s with keyAllowed := true }.emit .comma 1

/-- Begins a block collection at the place unless it is there, where that is allowed. -/
def indentHere (s : Lexer) (token : Token) : Option Lexer :=
  if s.inFlow then some s
  else if s.keyAllowed then some (s.indentTo s.cursor.column s.tokens.size token)
  else none

/-- The dash before an item. -/
def entry (s : Lexer) : Option Lexer := do
  let s ← (← s.indentHere .blockSequence).dropKey
  return { s with keyAllowed := true }.emit .entry 1

/-- The question mark before a key. -/
def explicitKey (s : Lexer) : Option Lexer := do
  let s ← (← s.indentHere .blockMapping).dropKey
  return { s with keyAllowed := !s.inFlow }.emit .key 1

/-- The colon before a value: the possible key behind it is one. -/
def value (s : Lexer) : Option Lexer :=
  match s.key with
  | some k =>
    let s := { s with tokens := s.tokens.insertIdxIfInBounds k.number .key }
    let s := s.indentTo k.column k.number .blockMapping
    some ({ s with key := none, keyAllowed := false }.emit .value 1)
  | none => do
    let s ← s.indentHere .blockMapping
    return { s with keyAllowed := !s.inFlow }.emit .value 1

/-- A token that may begin a key, by its reader. -/
def keyPart {α : Type} (s : Lexer) (token : α → Token) (found : Option (α × Cursor)) :
    Option Lexer := do
  let s ← s.saveKey
  let (a, c) ← found
  return { s with keyAllowed := false, tokens := s.tokens.push (token a), cursor := c }

/-- A scalar of indented lines. -/
def block (s : Lexer) (literal : Bool) : Option Lexer := do
  let s ← s.dropKey
  let (text, c) ← readBlock literal s.indent (s.cursor.advance 1)
  return { s with keyAllowed := true, tokens := s.tokens.push (.scalar false text), cursor := c }

/-- A scalar without quotes. -/
def plain (s : Lexer) : Option Lexer := do
  let s ← s.saveKey
  let (text, multiline, c) ← readPlain s.inFlow (s.indent.elim 0 (· + 1)) s.cursor
  return { s with
    keyAllowed := multiline, tokens := s.tokens.push (.scalar true text), cursor := c }

/-- The characters that do not begin a plain scalar, whatever follows. -/
def isReserved (c : Char) : Bool :=
  "-?:,[]\x7b\x7d#&*!|>'\"%@`".toList.contains c

/-- Whether a plain scalar begins at a place. -/
def beginsPlain (inFlow : Bool) (c : Cursor) : Bool :=
  match c.peek with
  | none => false
  | some ch =>
    !(isGap (some ch) || isReserved ch) || (ch = '-' && !(c.peekAt 1).any isBlank) ||
      (!inFlow && (ch = '?' || ch = ':') && !isGap (c.peekAt 1))

/-- Reads a token that begins with a character. -/
def token (s : Lexer) (ch : Char) : Option Lexer :=
  let c := s.cursor
  let stands := isGap (c.peekAt 1)
  if c.column = 0 && ch = '%' then s.directive
  else if c.atMarker '-' then s.documentMarker .documentStart
  else if c.atMarker '.' then s.documentMarker .documentEnd
  else if ch = '[' then s.openFlow .flowSequence
  else if ch = '{' then s.openFlow .flowMapping
  else if ch = ']' then s.closeFlow .flowSequenceEnd
  else if ch = '}' then s.closeFlow .flowMappingEnd
  else if ch = ',' then s.comma
  else if ch = '-' && stands then s.entry
  else if ch = '?' && (s.inFlow || stands) then s.explicitKey
  else if ch = ':' && (s.inFlow || stands) then s.value
  else if ch = '*' then s.keyPart .reference (readAnchor (c.advance 1))
  else if ch = '&' then s.keyPart .anchor (readAnchor (c.advance 1))
  else if ch = '!' then s.keyPart .tag (readTag s.inFlow c)
  else if ch = '|' && !s.inFlow then s.block true
  else if ch = '>' && !s.inFlow then s.block false
  else if ch = '\'' then s.keyPart (.scalar false) (readSingle (c.advance 1))
  else if ch = '"' then s.keyPart (.scalar false) (readDouble (c.advance 1))
  else if beginsPlain s.inFlow c then s.plain
  else none

/-- Reads the tokens from the place on. -/
def run : Nat → Lexer → Option (Array Token)
  | 0, _ => none
  | fuel + 1, s => do
    let s ← s.toToken.dropStaleKeys
    match s.cursor.peek with
    | none => do
      let s ← (s.unindent none).dropKey
      return s.tokens.push .streamEnd
    | some ch => do
      let s := s.unindent (some s.cursor.column)
      run fuel (← s.token ch)

end Lexer

/-- The tokens of a text. -/
def Token.ofText? (text : String) : Option (List Token) :=
  let cs := text.toList
  if cs.all isAllowed then
    (Lexer.run (cs.length + 2) { cursor := { rest := cs } }).map Array.toList
  else none

end RecordRules.Yaml
