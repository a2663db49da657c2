import RecordRules.Regex.Fault
import RecordRules.Text.Blank
import RecordRules.Text.Find
import RecordRules.Word
import RecordRules.Unicode.Property

/-! # Reading patterns

The parser walks the pattern once, keeping the groups that are open on a stack.  Loops are
bounded by the length of the pattern, since every round takes at least one character.

* `Regex.parse`   the syntax tree of a pattern -/

namespace RecordRules.Regex

/-- A place in a pattern, and what has been seen of it. -/
structure Cursor where
  chars : Array Char
  pos : Nat := 0
  /-- White space and comments between tokens are skipped. -/
  ignoreSpace : Bool := false
  /-- The names of groups, with their places. -/
  names : List (String × Span) := []

/-- A step of the parser. -/
abbrev Parse := StateT Cursor (Except Fault)

namespace Parse

/-- Stops with a fault. -/
def fail {α : Type} (cause : Cause) (first last : Nat) : Parse α :=
  throw ⟨cause, ⟨first, last⟩, none⟩

/-- The place reached. -/
def pos : Parse Nat := return (← get).pos

/-- The character at the place reached. -/
def char? : Parse (Option Char) := do
  let s ← get
  return s.chars[s.pos]?

/-- Whether the pattern is at its end. -/
def atEnd : Parse Bool := return (← char?).isNone

/-- The span of the character at the place reached. -/
def charSpan : Parse Span := do
  let p ← pos
  return ⟨p, p + 1⟩

/-- Goes one character on; tells whether there is one more. -/
def bump : Parse Bool := do
  let s ← get
  if s.pos < s.chars.size then set { s with pos := s.pos + 1 }
  return !(← atEnd)

/-- Where a comment ends: after its line break. -/
def commentEnd (chars : Array Char) : Nat → Nat → Nat
  | 0, p => p
  | fuel + 1, p =>
    match chars[p]? with
    | none => p
    | some c => if c = '\n' then p + 1 else commentEnd chars fuel (p + 1)

/-- Where white space and comments end. -/
def spaceEnd (chars : Array Char) : Nat → Nat → Nat
  | 0, p => p
  | fuel + 1, p =>
    match chars[p]? with
    | none => p
    | some c =>
      if isBlank c then spaceEnd chars fuel (p + 1)
      else if c = '#' then spaceEnd chars fuel (commentEnd chars chars.size (p + 1))
      else p

/-- Skips white space and comments where they do not count. -/
def skipSpace : Parse Unit :=
  modify fun s =>
    if s.ignoreSpace then { s with pos := spaceEnd s.chars (s.chars.size + 1) s.pos } else s

/-- Goes one character on and skips white space; tells whether there is more. -/
def bumpSpace : Parse Bool := do
  if !(← bump) then return false
  skipSpace
  return !(← atEnd)

/-- Whether a text stands at the place reached. -/
def looksAt (s : String) : Parse Bool := do
  let c ← get
  let cs := s.toList
  return (List.range cs.length).all fun i => c.chars[c.pos + i]? == cs[i]?

/-- Takes a text if it stands at the place reached. -/
def bumpIf (s : String) : Parse Bool := do
  if ← looksAt s then
    modify fun c => { c with pos := c.pos + s.length }
    return true
  else return false

/-- The character after the one at the place reached. -/
def peek? : Parse (Option Char) := do
  let s ← get
  return s.chars[s.pos + 1]?

/-- The character after the one at the place reached, white space skipped. -/
def peekSpace? : Parse (Option Char) := do
  let s ← get
  if s.ignoreSpace then return s.chars[spaceEnd s.chars (s.chars.size + 1) (s.pos + 1)]?
  else return s.chars[s.pos + 1]?

/-- A bound on the rounds of any loop. -/
def rounds : Parse Nat := return (← get).chars.size + 1

/-! ## Escapes -/

/-- Characters with a meaning of their own, which an escape takes away. -/
def isMeta (c : Char) : Bool :=
  "\\.+*?()|[]\x7b\x7d^$#&-~".toList.contains c

/-- Characters that may be escaped though they need not be. -/
def isEscapable (c : Char) : Bool :=
  isMeta c || (c.toNat < 0x80 && !c.isAlphanum && c ≠ '<' && c ≠ '>')

/-- Whether a character is a hexadecimal digit. -/
def isHex (c : Char) : Bool :=
  c.isDigit || ('a' ≤ c && c ≤ 'f') || ('A' ≤ c && c ≤ 'F')

/-- The worth of hexadecimal digits. -/
def hexWorth (digits : List Char) : Nat :=
  digits.foldl (fun n c =>
    16 * n + (if c.isDigit then c.toNat - '0'.toNat
      else if c.isLower then c.toNat - 'a'.toNat + 10 else c.toNat - 'A'.toNat + 10)) 0

/-- The character of hexadecimal digits between two places. -/
def hexChar (digits : List Char) (first last : Nat) : Parse Char := do
  let n := hexWorth digits
  if n.isValidChar then return Char.ofNat n else fail .escapeHexInvalid first last

/-- Takes a given number of hexadecimal digits, the first of which is at hand. -/
def hexDigits : Nat → Parse (List Char)
  | 0 => return []
  | count + 1 => do
    match ← char? with
    | none => fail .escapeUnexpectedEnd (← pos) (← pos)
    | some c =>
      if !isHex c then
        let s ← charSpan
        fail .escapeHexInvalidDigit s.first s.last
      let more ← bumpSpace
      if count = 0 then return [c]
      if !more then fail .escapeUnexpectedEnd (← pos) (← pos)
      return c :: (← hexDigits count)

/-- Takes hexadecimal digits up to a closing brace, the brace before them being at hand. -/
def hexInBraces : Nat → Parse (List Char)
  | 0 => return []
  | fuel + 1 => do
    if !(← bumpSpace) then return []
    match ← char? with
    | none | some '}' => return []
    | some c =>
      if !isHex c then
        let s ← charSpan
        fail .escapeHexInvalidDigit s.first s.last
      return c :: (← hexInBraces fuel)

/-- A character written in hexadecimal; the letter that says so is at hand. -/
def hex (start : Nat) (letter : Char) : Parse Literal := do
  if !(← bumpSpace) then fail .escapeUnexpectedEnd (← pos) (← pos)
  if (← char?) = some '{' then
    let brace ← pos
    let digits ← hexInBraces (← rounds)
    if ← atEnd then fail .escapeUnexpectedEnd brace (← pos)
    let last ← pos
    let _ ← bumpSpace
    if digits.isEmpty then fail .escapeHexEmpty brace (← pos)
    let c ← hexChar digits (brace + 1) last
    return ⟨⟨start, ← pos⟩, c, false⟩
  else
    let first ← pos
    let count := if letter = 'x' then 2 else if letter = 'u' then 4 else 8
    let digits ← hexDigits count
    let c ← hexChar digits first (← pos)
    return ⟨⟨start, ← pos⟩, c, letter = 'x'⟩

/-- Takes characters up to a closing brace, the brace before them being at hand. -/
def nameInBraces : Nat → Parse (List Char)
  | 0 => return []
  | fuel + 1 => do
    if !(← bumpSpace) then return []
    match ← char? with
    | none | some '}' => return []
    | some c => return c :: (← nameInBraces fuel)

/-- The query that a name in braces stands for. -/
def queryOf (name : List Char) : UnicodeQuery :=
  match Text.splitAt? ['!', '='] name <|> Text.splitAt? [':'] name <|>
      Text.splitAt? ['='] name with
  | some (property, value) => .value (String.ofList property) (String.ofList value)
  | none => .name (String.ofList name)

/-- A Unicode class; its letter is at hand. -/
def unicodeClass : Parse UnicodeQuery := do
  if !(← bumpSpace) then fail .escapeUnexpectedEnd (← pos) (← pos)
  match ← char? with
  | some '{' =>
    let name ← nameInBraces (← rounds)
    if ← atEnd then fail .escapeUnexpectedEnd (← pos) (← pos)
    let _ ← bump
    return queryOf name
  | some c =>
    if c = '\\' then
      let s ← charSpan
      fail .unicodeClassInvalid s.first s.last
    let _ ← bumpSpace
    return .letter c
  | none => fail .escapeUnexpectedEnd (← pos) (← pos)

/-- Whether a character may stand in the name of a word boundary. -/
def isBoundaryNameChar (c : Char) : Bool :=
  c.isAlpha || c = '-'

/-- Takes the name of a word boundary. -/
def boundaryName : Nat → Parse (List Char)
  | 0 => return []
  | fuel + 1 => do
    match ← char? with
    | some c =>
      if isBoundaryNameChar c then
        let _ ← bumpSpace
        return c :: (← boundaryName fuel)
      else return []
    | none => return []

/-- The kind of a word boundary named in braces, if what stands in the braces is a name; the
    opening brace is at hand and `start` is where the assertion began. -/
def specialBoundary? (start : Nat) : Parse (Option AssertionKind) := do
  let brace ← pos
  if !(← bumpSpace) then fail .wordBoundaryUnexpectedEnd start (← pos)
  let first ← pos
  if !((← char?).any isBoundaryNameChar) then
    modify fun s => { s with pos := brace }
    return none
  let name ← boundaryName (← rounds)
  if (← char?) ≠ some '}' then fail .wordBoundaryUnclosed brace (← pos)
  let last ← pos
  let _ ← bump
  match String.ofList name with
  | "start" => return some .wordStart
  | "end" => return some .wordEnd
  | "start-half" => return some .wordStartHalf
  | "end-half" => return some .wordEndHalf
  | _ => fail .wordBoundaryUnrecognized first last

/-- An escape; the backslash is at hand. -/
def escape : Parse Ast := do
  let start ← pos
  if !(← bump) then fail .escapeUnexpectedEnd start (← pos)
  let some c ← char? | fail .escapeUnexpectedEnd start (← pos)
  if c.isDigit then fail .unsupportedBackreference start ((← pos) + 1)
  if c = 'x' ∨ c = 'u' ∨ c = 'U' then return .literal (← hex start c)
  if c = 'p' ∨ c = 'P' then
    let query ← unicodeClass
    return .unicode ⟨start, ← pos⟩ query (c = 'P')
  let _ ← bump
  let span : Span := ⟨start, ← pos⟩
  let perl (kind : PerlKind) (negated : Bool) : Parse Ast := return .perl span kind negated
  let literal (d : Char) : Parse Ast := return .literal ⟨span, d, false⟩
  let assertion (kind : AssertionKind) : Parse Ast := return .assertion span kind
  if isEscapable c then literal c
  else match c with
    | 'd' => perl .digit false
    | 'D' => perl .digit true
    | 's' => perl .space false
    | 'S' => perl .space true
    | 'w' => perl .word false
    | 'W' => perl .word true
    | 'a' => literal '\x07'
    | 'f' => literal '\x0c'
    | 't' => literal '\t'
    | 'n' => literal '\n'
    | 'r' => literal '\r'
    | 'v' => literal '\x0b'
    | 'A' => assertion .startText
    | 'z' => assertion .endText
    | 'b' =>
      if (← char?) = some '{' then
        match ← specialBoundary? start with
        | some kind => return .assertion ⟨start, ← pos⟩ kind
        | none => assertion .wordBoundary
      else assertion .wordBoundary
    | 'B' => assertion .notWordBoundary
    | '<' => assertion .wordStart
    | '>' => assertion .wordEnd
    | _ => fail .escapeUnrecognized span.first span.last

/-- A single item that is no group, no class and no operator. -/
def primitive (c : Char) : Parse Ast := do
  let s ← charSpan
  match c with
  | '\\' => escape
  | '.' => let _ ← bump; return .dot s
  | '^' => let _ ← bump; return .assertion s .startLine
  | '$' => let _ ← bump; return .assertion s .endLine
  | c => let _ ← bump; return .literal ⟨s, c, false⟩

/-! ## Bracketed classes -/

/-- What is open around a place inside a bracketed class: a bracket with the items before
    it, or an operator with its left side. -/
inductive SetFrame where
  | bracket (before : List SetNode) (span : Span) (negated : Bool)
  | operator (op : SetOp) (left : SetNode)

/-- Items of a class, last first, and where they began. -/
structure SetUnion where
  first : Nat
  items : List SetNode

namespace SetUnion

/-- The node that the items make. -/
def toNode (u : SetUnion) : SetNode :=
  match u.items with
  | [] => .empty (.at u.first)
  | [item] => item
  | last :: _ =>
    let items := u.items.reverse
    .union ⟨(items.head?.map (·.span.first)).getD u.first, last.span.last⟩ items

/-- Adds an item. -/
def push (u : SetUnion) (item : SetNode) : SetUnion :=
  { u with items := item :: u.items }

end SetUnion

/-- A node of a class, of a tree that stands for one item. -/
def setItem : Ast → Parse SetNode
  | .literal l => return .literal l
  | .perl s kind negated => return .perl s kind negated
  | .unicode s query negated => return .unicode s query negated
  | other => fail .classEscapeInvalid other.span.first other.span.last

/-- The end of a range, which has to be a single character. -/
def setLiteral : Ast → Parse Literal
  | .literal l => return l
  | other => fail .classRangeLiteral other.span.first other.span.last

/-- The bracket that is open, for the report of an unclosed class. -/
def openBracket : List SetFrame → Span
  | [] => .at 0
  | .bracket _ span _ :: _ => span
  | .operator .. :: rest => openBracket rest

/-- Fails because a class is not closed. -/
def unclosedClass {α : Type} (stack : List SetFrame) : Parse α :=
  let s := openBracket stack
  fail .classUnclosed s.first s.last

/-- One end of a range, or a single item. -/
def setPrimitive (stack : List SetFrame) : Parse Ast := do
  match ← char? with
  | none => unclosedClass stack
  | some '\\' => escape
  | some c =>
    let s ← charSpan
    let _ ← bump
    return .literal ⟨s, c, false⟩

/-- A range or a single item. -/
def setRange (stack : List SetFrame) : Parse SetNode := do
  let left ← setPrimitive stack
  skipSpace
  if ← atEnd then unclosedClass stack
  let next ← peekSpace?
  if (← char?) ≠ some '-' ∨ next = some ']' ∨ next = some '-' then setItem left
  else
    if !(← bumpSpace) then unclosedClass stack
    let right ← setPrimitive stack
    let span : Span := ⟨left.span.first, right.span.last⟩
    let a ← setLiteral left
    let b ← setLiteral right
    if b.char < a.char then fail .classRangeInvalid span.first span.last
    return .range span a b

/-- Takes hyphens at the beginning of a class; `start` is where the class began. -/
def leadingHyphens (start : Nat) : Nat → SetUnion → Parse SetUnion
  | 0, u => return u
  | fuel + 1, u => do
    if (← char?) = some '-' then
      let u := u.push (.literal ⟨← charSpan, '-', false⟩)
      if !(← bumpSpace) then fail .classUnclosed start start
      leadingHyphens start fuel u
    else return u

/-- Opens a bracket; it is at hand.  The bracket's span reaches over what may only stand at
    its beginning. -/
def openSet : Parse (Span × Bool × SetUnion) := do
  let start ← pos
  if !(← bumpSpace) then fail .classUnclosed start (← pos)
  let negated := (← char?) = some '^'
  if negated then
    if !(← bumpSpace) then fail .classUnclosed start (← pos)
  let u ← leadingHyphens start (← rounds) ⟨← pos, []⟩
  if u.items.isEmpty ∧ (← char?) = some ']' then
    let u := u.push (.literal ⟨← charSpan, ']', false⟩)
    if !(← bumpSpace) then fail .classUnclosed start (← pos)
    return (⟨start, ← pos⟩, negated, u)
  return (⟨start, ← pos⟩, negated, u)

/-- A named ASCII class such as `[:alpha:]`, if one stands at the place reached. -/
def asciiClass? : Parse (Option SetNode) := do
  let s ← get
  let start := s.pos
  if s.chars[start + 1]? ≠ some ':' then return none
  let negated := s.chars[start + 2]? = some '^'
  let first := if negated then start + 3 else start + 2
  let name := (s.chars.toList.drop first).takeWhile (· ≠ ':')
  let last := first + name.length
  if s.chars[last]? = some ':' ∧ s.chars[last + 1]? = some ']' then
    match AsciiKind.ofName? (String.ofList name) with
    | some kind =>
      set { s with pos := last + 2 }
      return some (.ascii ⟨start, last + 2⟩ kind negated)
    | none => return none
  else return none

/-- Closes an operator that waits for its right side. -/
def closeOperator (right : SetNode) : List SetFrame → SetNode × List SetFrame
  | .operator op left :: rest =>
    (.binary ⟨left.span.first, right.span.last⟩ op left right, rest)
  | stack => (right, stack)

/-- The operator at the place reached. -/
def setOperator? : Parse (Option SetOp) := do
  let c ← char?
  if c ≠ (← peek?) then return none
  match c with
  | some '&' => return some .intersection
  | some '-' => return some .difference
  | some '~' => return some .symmetricDifference
  | _ => return none

/-- Reads the inside of a class up to the bracket that closes it. -/
def setLoop : Nat → List SetFrame → SetUnion → Parse Ast
  | 0, stack, _ => unclosedClass stack
  | fuel + 1, stack, u => do
    skipSpace
    match ← char? with
    | none => unclosedClass stack
    | some '[' =>
      match ← (if stack.isEmpty then return none else asciiClass?) with
      | some item => setLoop fuel stack (u.push item)
      | none =>
        let (span, negated, inner) ← openSet
        setLoop fuel (.bracket u.items span negated :: stack) inner
    | some ']' =>
      match closeOperator u.toNode stack with
      | (node, .bracket before span negated :: rest) =>
        let _ ← bump
        let span : Span := ⟨span.first, ← pos⟩
        if rest.isEmpty then return .bracketed span negated node
        setLoop fuel rest ⟨span.first, .bracketed span negated node :: before⟩
      | (_, rest) => unclosedClass rest
    | some _ =>
      match ← setOperator? with
      | some op =>
        modify fun s => { s with pos := s.pos + 2 }
        let (left, rest) := closeOperator u.toNode stack
        setLoop fuel (.operator op left :: rest) ⟨← pos, []⟩
      | none =>
        let item ← setRange stack
        setLoop fuel stack (u.push item)

/-- A bracketed class; its bracket is at hand. -/
def bracketed : Parse Ast := do
  let (span, negated, inner) ← openSet
  setLoop (2 * (← rounds)) [.bracket [] span negated] inner

/-! ## Repetitions -/

/-- The parts of a sequence, last first, and where it began. -/
structure Sequence where
  first : Nat
  parts : List Ast

/-- The tree that a sequence makes, up to a place. -/
def Sequence.toAst (s : Sequence) (last : Nat) : Ast :=
  .ofConcat ⟨s.first, last⟩ s.parts.reverse

/-- The part that a repetition applies to, and the parts before it. -/
def repeated (s : Sequence) : Parse (Ast × List Ast) := do
  let p ← pos
  match s.parts with
  | [] | .empty _ :: _ | .flags .. :: _ => fail .repetitionMissing p p
  | part :: before => return (part, before)

/-- A repetition by a sign; the sign is at hand. -/
def repetition (least : Nat) (most : Option Nat) (s : Sequence) : Parse Sequence := do
  let (part, before) ← repeated s
  if (← bump) ∧ (← char?) = some '?' then let _ ← bump
  return { s with parts := .repetition ⟨part.span.first, ← pos⟩ least most part :: before }

/-- Takes blanks; with `alsoSpace`, comments between them as well. -/
def takeBlanks (alsoSpace : Bool) : Nat → Parse Unit
  | 0 => return
  | fuel + 1 => do
    if (← char?).any isBlank then
      let _ ← if alsoSpace then bumpSpace else bump
      takeBlanks alsoSpace fuel

/-- Takes digits. -/
def takeDigits : Nat → Parse (List Char)
  | 0 => return []
  | fuel + 1 => do
    match ← char? with
    | some c =>
      if c.isDigit then
        let _ ← bumpSpace
        return c :: (← takeDigits fuel)
      else return []
    | none => return []

/-- A count of repetitions: a number of 32 bits, or the fault that stands in its place. -/
def count : Parse (Except Fault Nat) := do
  takeBlanks false (← rounds)
  let first ← pos
  let digits ← takeDigits (← rounds)
  let span : Span := ⟨first, ← pos⟩
  takeBlanks true (← rounds)
  let n := digits.foldl (fun n c => 10 * n + (c.toNat - '0'.toNat)) 0
  if digits.isEmpty then return .error ⟨.repetitionCountEmpty, span, none⟩
  else if n < twoTo 32 then return .ok n
  else return .error ⟨.decimalInvalid, span, none⟩

/-- A repetition by counts in braces; the opening brace is at hand. -/
def countedRepetition (s : Sequence) : Parse Sequence := do
  let start ← pos
  let (part, before) ← repeated s
  if !(← bumpSpace) then fail .repetitionCountUnclosed start (← pos)
  let least ← count
  if ← atEnd then fail .repetitionCountUnclosed start (← pos)
  let (least, most) ← (if (← char?) = some ',' then do
      if !(← bumpSpace) then fail .repetitionCountUnclosed start (← pos)
      if (← char?) ≠ some '}' then
        let least ← least
        let most ← (← count)
        return (least, some most)
      else return (← least, none)
    else do
      let n ← least
      return (n, some n) : Parse (Nat × Option Nat))
  if (← char?) ≠ some '}' then fail .repetitionCountUnclosed start (← pos)
  if (← bumpSpace) ∧ (← char?) = some '?' then let _ ← bump
  if most.any (· < least) then fail .repetitionCountInvalid start (← pos)
  return { s with parts := .repetition ⟨part.span.first, ← pos⟩ least most part :: before }

/-! ## Groups -/

/-- What is open around a place: a group with the sequence before it, or the branches of a
    choice before the one under way. -/
inductive Frame where
  | group (before : Sequence) (span : Span) (capturing : Bool) (items : List FlagItem)
      (ignoreSpace : Bool)
  | alternation (first : Nat) (branches : List Ast)

/-- Whether a character may stand in the name of a group. -/
def isNameChar (c : Char) (isFirst : Bool) : Bool :=
  c = '_' || isAlphabetic c ||
    (!isFirst && (c = '.' || c = '[' || c = ']' || isNumeric c))

/-- Takes the characters of a group's name up to its closing angle. -/
def nameChars (start : Nat) : Nat → Parse (List Char)
  | 0 => return []
  | fuel + 1 => do
    match ← char? with
    | none | some '>' => return []
    | some c =>
      if !isNameChar c ((← pos) = start) then
        let s ← charSpan
        fail .groupNameInvalid s.first s.last
      let _ ← bump
      return c :: (← nameChars start fuel)

/-- The name of a group, after its opening angle; every name may be used once. -/
def groupName : Parse Unit := do
  let start ← pos
  if ← atEnd then fail .groupNameUnexpectedEnd start start
  let name ← nameChars start (← rounds)
  let last ← pos
  if ← atEnd then fail .groupNameUnexpectedEnd last last
  let _ ← bump
  if name.isEmpty then fail .groupNameEmpty start start
  let name := String.ofList name
  match (← get).names.find? (·.1 = name) with
  | some (_, earlier) => throw ⟨.groupNameDuplicate, ⟨start, last⟩, some earlier⟩
  | none => modify fun s => { s with names := (name, ⟨start, last⟩) :: s.names }

/-- The flag of a letter. -/
def flagOf? : Char → Option Flag
  | 'i' => some .caseInsensitive
  | 'm' => some .multiLine
  | 's' => some .dotMatchesNewLine
  | 'U' => some .swapGreed
  | 'u' => some .unicode
  | 'R' => some .crlf
  | 'x' => some .ignoreWhitespace
  | _ => none

/-- Flags up to a colon or a closing parenthesis, last first, each with its place. -/
def flagItems : Nat → List (FlagItem × Span) → Parse (List (FlagItem × Span))
  | 0, seen => return seen
  | fuel + 1, seen => do
    match ← char? with
    | none | some ':' | some ')' => return seen
    | some c =>
      let span ← charSpan
      let item ← (match c, flagOf? c with
        | '-', _ => return FlagItem.negation
        | _, some f => return FlagItem.flag f
        | _, none => fail .flagUnrecognized span.first span.last : Parse FlagItem)
      match seen.find? (·.1 = item) with
      | some (_, earlier) =>
        throw ⟨if item = .negation then .flagRepeatedNegation else .flagDuplicate, span,
          some earlier⟩
      | none => pure ()
      if !(← bump) then fail .flagUnexpectedEnd (← pos) (← pos)
      flagItems fuel ((item, span) :: seen)

/-- Flags; a minus sign has to be followed by one. -/
def flags : Parse (List FlagItem) := do
  let seen ← flagItems (← rounds) []
  match seen with
  | (.negation, span) :: _ => fail .flagDanglingNegation span.first span.last
  | _ => return (seen.map Prod.fst).reverse

/-- What opens with a parenthesis: flags for the rest of the group around, or a group. -/
inductive Opening where
  | flags (span : Span) (items : List FlagItem)
  | group (capturing : Bool) (items : List FlagItem)

/-- The beginning of a group; the parenthesis is at hand. -/
def opening : Parse Opening := do
  let start ← pos
  let openSpan ← charSpan
  let _ ← bump
  skipSpace
  for s in ["?=", "?!", "?<=", "?<!"] do
    if ← bumpIf s then fail .unsupportedLookAround start (← pos)
  let inner ← pos
  if (← bumpIf "?P<") || (← (if ← looksAt "?P<" then return false else bumpIf "?<")) then
    groupName
    return .group true []
  else if ← bumpIf "?" then
    if ← atEnd then fail .groupUnclosed openSpan.first openSpan.last
    let items ← flags
    let closing ← char?
    let _ ← bump
    if closing = some ')' then
      if items.isEmpty then fail .repetitionMissing inner inner
      return .flags ⟨start, ← pos⟩ items
    else return .group false items
  else return .group true []

/-- Opens a group, or takes flags. -/
def openGroup (s : Sequence) (stack : List Frame) : Parse (Sequence × List Frame) := do
  let span ← charSpan
  match ← opening with
  | .flags flagSpan items =>
    match flagState? .ignoreWhitespace items with
    | some v => modify fun c => { c with ignoreSpace := v }
    | none => pure ()
    return ({ s with parts := .flags flagSpan items :: s.parts }, stack)
  | .group capturing items =>
    let old := (← get).ignoreSpace
    modify fun c =>
      { c with ignoreSpace := (flagState? .ignoreWhitespace items).getD old }
    return (⟨← pos, []⟩, .group s span capturing items old :: stack)

/-- Closes a group; the parenthesis is at hand. -/
def closeGroup (s : Sequence) (stack : List Frame) : Parse (Sequence × List Frame) := do
  let last ← pos
  let close (body : Ast) : List Frame → Parse (Sequence × List Frame)
    | .group before span capturing items old :: rest => do
      modify fun c => { c with ignoreSpace := old }
      let _ ← bump
      let group := Ast.group ⟨span.first, ← pos⟩ capturing items body
      return ({ before with parts := group :: before.parts }, rest)
    | _ => fail .groupUnopened last (last + 1)
  match stack with
  | .alternation first branches :: rest =>
    close (.ofAlternation ⟨first, last⟩ (s.toAst last :: branches).reverse) rest
  | rest => close (s.toAst last) rest

/-- Begins the next branch of a choice; the bar is at hand. -/
def nextBranch (s : Sequence) (stack : List Frame) : Parse (Sequence × List Frame) := do
  let last ← pos
  let stack := match stack with
    | .alternation first branches :: rest => .alternation first (s.toAst last :: branches) :: rest
    | rest => .alternation s.first [s.toAst last] :: rest
  let _ ← bump
  return (⟨← pos, []⟩, stack)

/-- The whole tree, at the end of the pattern. -/
def finish (s : Sequence) (stack : List Frame) : Parse Ast := do
  let last ← pos
  let close (tree : Ast) : List Frame → Parse Ast
    | .group _ span .. :: _ => fail .groupUnclosed span.first span.last
    | _ => return tree
  match stack with
  | .alternation first branches :: rest =>
    close (.ofAlternation ⟨first, last⟩ (s.toAst last :: branches).reverse) rest
  | rest => close (s.toAst last) rest

/-- Reads the pattern token by token. -/
def loop : Nat → Sequence → List Frame → Parse Ast
  | 0, s, stack => finish s stack
  | fuel + 1, s, stack => do
    skipSpace
    match ← char? with
    | none => finish s stack
    | some '(' =>
      let (s, stack) ← openGroup s stack
      loop fuel s stack
    | some ')' =>
      let (s, stack) ← closeGroup s stack
      loop fuel s stack
    | some '|' =>
      let (s, stack) ← nextBranch s stack
      loop fuel s stack
    | some '[' => loop fuel { s with parts := (← bracketed) :: s.parts } stack
    | some '?' => loop fuel (← repetition 0 (some 1) s) stack
    | some '*' => loop fuel (← repetition 0 none s) stack
    | some '+' => loop fuel (← repetition 1 none s) stack
    | some '{' => loop fuel (← countedRepetition s) stack
    | some c => loop fuel { s with parts := (← primitive c) :: s.parts } stack

end Parse

/-! ## Nesting -/

/-- How deep groups, classes and operators may nest. -/
def nestLimit : Nat := 250

/-- Steps one level down. -/
def deeper (depth : Nat) (span : Span) : Except Fault Nat :=
  if depth < nestLimit then .ok (depth + 1)
  else .error ⟨.nestLimitExceeded nestLimit, span, none⟩

mutual

/-- Checks the depth of a class. -/
def checkSet (depth : Nat) : SetNode → Except Fault Unit
  | .bracketed span _ inner => do checkSet (← deeper depth span) inner
  | .union span items => do checkSets (← deeper depth span) items
  | .binary span _ left right => do
    let depth ← deeper depth span
    checkSet depth left
    checkSet depth right
  | _ => .ok ()

/-- Checks the depth of the items of a class. -/
def checkSets (depth : Nat) : List SetNode → Except Fault Unit
  | [] => .ok ()
  | item :: rest => do
    checkSet depth item
    checkSets depth rest

end

mutual

/-- Checks the depth of a tree. -/
def checkDepth (depth : Nat) : Ast → Except Fault Unit
  | .bracketed span _ set => do checkSet (← deeper depth span) set
  | .repetition span _ _ body => do checkDepth (← deeper depth span) body
  | .group span _ _ body => do checkDepth (← deeper depth span) body
  | .alternation span branches => do checkDepths (← deeper depth span) branches
  | .concat span parts => do checkDepths (← deeper depth span) parts
  | _ => .ok ()

/-- Checks the depth of trees. -/
def checkDepths (depth : Nat) : List Ast → Except Fault Unit
  | [] => .ok ()
  | tree :: rest => do
    checkDepth depth tree
    checkDepths depth rest

end

/-- The syntax tree of a pattern. -/
def parse (pattern : String) : Except Fault Ast := do
  let chars := pattern.toList.toArray
  let (tree, _) ← (Parse.loop (2 * chars.size + 2) ⟨0, []⟩ []).run { chars }
  checkDepth 0 tree
  return tree

end RecordRules.Regex
