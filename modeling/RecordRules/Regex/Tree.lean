import RecordRules.Regex.Class

/-! # What a pattern matches

A tree of what has to be matched: the flags of the syntax are applied and classes are sets of
code points.

* `Tree.ofAst`   the tree of a syntax tree, or the fault in it -/

namespace RecordRules.Regex

/-- Conditions on a place in a text. -/
inductive Look where
  | startText
  | endText
  | startLine
  | endLine
  /-- Lines end with a line feed, a carriage return or both. -/
  | startLineCrlf
  | endLineCrlf
  | wordBoundary (unicode : Bool)
  | notWordBoundary (unicode : Bool)
  | wordStart (unicode : Bool)
  | wordEnd (unicode : Bool)
  | wordStartHalf (unicode : Bool)
  | wordEndHalf (unicode : Bool)
  deriving DecidableEq, Repr

/-- What has to be matched. -/
inductive Tree where
  | empty
  | literal (c : Char)
  | set (codes : CodeSet)
  | look (condition : Look)
  | repetition (least : Nat) (most : Option Nat) (body : Tree)
  | group (capturing : Bool) (body : Tree)
  | alternation (branches : List Tree)
  | concat (parts : List Tree)
  deriving Inhabited

/-- The flags in force at a place of a pattern. -/
structure Mode where
  caseInsensitive : Bool := false
  multiLine : Bool := false
  dotMatchesNewLine : Bool := false
  unicode : Bool := true
  crlf : Bool := false

namespace Mode

/-- The flags after a list of flags. -/
def apply (m : Mode) (items : List FlagItem) : Mode :=
  { caseInsensitive := (flagState? .caseInsensitive items).getD m.caseInsensitive
    multiLine := (flagState? .multiLine items).getD m.multiLine
    dotMatchesNewLine := (flagState? .dotMatchesNewLine items).getD m.dotMatchesNewLine
    unicode := (flagState? .unicode items).getD m.unicode
    crlf := (flagState? .crlf items).getD m.crlf }

/-- Stops with a fault. -/
def fail {α : Type} (cause : Cause) (span : Span) : Except Fault α :=
  .error ⟨cause, span, none⟩

/-- Refuses a byte beyond ASCII where single bytes are meant. -/
def checkByte (m : Mode) (l : Literal) : Except Fault Unit :=
  if !m.unicode && l.isByte && l.char.toNat > 0x7F then fail .invalidText l.span
  else .ok ()

/-- Adds the other cases of the members of a class, if case does not count. -/
def fold (m : Mode) (s : CodeSet) : CodeSet :=
  if !m.caseInsensitive then s.normal else if m.unicode then s.foldCase else s.foldAscii

/-- A class, complemented on demand, to which the flags are applied.  Where single bytes are
    meant, it has to hold ASCII characters alone. -/
def foldAndNegate (m : Mode) (span : Span) (negated : Bool) (s : CodeSet) :
    Except Fault CodeSet :=
  let folded := m.fold s
  if m.unicode then .ok (if negated then folded.complement else folded)
  else if negated || !folded.isAscii then fail .invalidText span
  else .ok folded

/-- A Unicode class. -/
def unicodeClass (m : Mode) (span : Span) (query : UnicodeQuery) (negated : Bool) :
    Except Fault CodeSet :=
  if !m.unicode then fail .unicodeNotAllowed span
  else match query.codes with
    | .error cause => fail cause span
    | .ok codes => m.foldAndNegate span negated codes

/-- A shorthand class. -/
def perlClass (m : Mode) (span : Span) (kind : PerlKind) (negated : Bool) :
    Except Fault CodeSet :=
  if m.unicode then .ok (if negated then kind.codes.complement else kind.codes)
  else if negated then fail .invalidText span
  else .ok kind.asciiCodes

/-- A character in a bracketed class. -/
def setLiteral (m : Mode) (l : Literal) : Except Fault Nat := do
  m.checkByte l
  if !m.unicode && l.char.toNat > 0x7F then fail .unicodeNotAllowed l.span
  return l.char.toNat

mutual

/-- The members of a node of a bracketed class. -/
def setCodes (m : Mode) : SetNode → Except Fault CodeSet
  | .empty _ => .ok []
  | .literal l => do
    let n ← m.setLiteral l
    return [(n, n)]
  | .range _ first last => do
    let a ← m.setLiteral first
    let b ← m.setLiteral last
    return [(a, b)]
  | .ascii span kind negated => m.foldAndNegate span negated kind.ranges
  | .unicode span query negated => m.unicodeClass span query negated
  | .perl span kind negated => m.perlClass span kind negated
  | .bracketed span negated inner => do m.foldAndNegate span negated (← setCodes m inner)
  | .union _ items => do return (← setsCodes m items).normal
  | .binary _ op left right => do
    let a := m.fold (← setCodes m left)
    let b := m.fold (← setCodes m right)
    match op with
    | .intersection => return a.inter b
    | .difference => return a.diff b
    | .symmetricDifference => return a.symmDiff b

/-- The members of the nodes of a bracketed class, one after the other. -/
def setsCodes (m : Mode) : List SetNode → Except Fault CodeSet
  | [] => .ok []
  | item :: rest => do return (← setCodes m item) ++ (← setsCodes m rest)

end

/-- A single character. -/
def literal (m : Mode) (l : Literal) : Except Fault Tree := do
  m.checkByte l
  let n := l.char.toNat
  let folded := if m.unicode ∨ n ≤ 0x7F then m.fold [(n, n)] else [(n, n)]
  if folded = [(n, n)] then return .literal l.char else return .set folded

/-- Any character, or any but those that end lines. -/
def dot (m : Mode) (span : Span) : Except Fault Tree :=
  if !m.unicode then fail .invalidText span
  else if m.dotMatchesNewLine then .ok (.set CodeSet.everything)
  else if m.crlf then .ok (.set (CodeSet.complement [(10, 10), (13, 13)]))
  else .ok (.set (CodeSet.complement [(10, 10)]))

/-- The condition that an assertion makes. -/
def look (m : Mode) : AssertionKind → Look
  | .startLine => if !m.multiLine then .startText else if m.crlf then .startLineCrlf else .startLine
  | .endLine => if !m.multiLine then .endText else if m.crlf then .endLineCrlf else .endLine
  | .startText => .startText
  | .endText => .endText
  | .wordBoundary => .wordBoundary m.unicode
  | .notWordBoundary => .notWordBoundary m.unicode
  | .wordStart => .wordStart m.unicode
  | .wordEnd => .wordEnd m.unicode
  | .wordStartHalf => .wordStartHalf m.unicode
  | .wordEndHalf => .wordEndHalf m.unicode

mutual

/-- The tree of a part of a pattern, and the flags after it. -/
def read (m : Mode) : Ast → Except Fault (Tree × Mode)
  | .empty _ => .ok (.empty, m)
  | .flags _ items => .ok (.empty, m.apply items)
  | .literal l => do return (← m.literal l, m)
  | .dot span => do return (← m.dot span, m)
  | .assertion _ kind => .ok (.look (m.look kind), m)
  | .unicode span query negated => do return (.set (← m.unicodeClass span query negated), m)
  | .perl span kind negated => do return (.set (← m.perlClass span kind negated), m)
  | .bracketed span negated inner => do
    return (.set (← m.foldAndNegate span negated (← m.setCodes inner)), m)
  | .repetition _ least most body => do
    let (body, after) ← read m body
    return (.repetition least most body, after)
  | .group _ capturing items body => do
    let (body, _) ← read (m.apply items) body
    return (.group capturing body, m)
  | .alternation _ branches => do
    let (branches, after) ← readAll m branches
    return (.alternation branches, after)
  | .concat _ parts => do
    let (parts, after) ← readAll m parts
    return (.concat parts, after)

/-- The trees of parts that follow each other; flags stay in force for the parts behind. -/
def readAll (m : Mode) : List Ast → Except Fault (List Tree × Mode)
  | [] => .ok ([], m)
  | part :: rest => do
    let (tree, m) ← read m part
    let (trees, m) ← readAll m rest
    return (tree :: trees, m)

end

end Mode

/-- The tree of a pattern. -/
def Tree.ofAst (ast : Ast) : Except Fault Tree := do
  let (tree, _) ← Mode.read {} ast
  return tree

end RecordRules.Regex
