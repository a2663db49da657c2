/-! # Syntax of regular expressions

The syntax tree of a pattern.  Every node keeps the span of the pattern it stands for, in
characters, so that messages can point at it. -/

namespace RecordRules.Regex

/-- A stretch of the pattern, from `first` up to but without `last`. -/
structure Span where
  first : Nat
  last : Nat
  deriving DecidableEq, Repr, Inhabited

/-- The empty span at a place. -/
def Span.at (pos : Nat) : Span := ⟨pos, pos⟩

/-- What a flag letter switches. -/
inductive Flag where
  | caseInsensitive
  | multiLine
  | dotMatchesNewLine
  | swapGreed
  | unicode
  | crlf
  | ignoreWhitespace
  deriving DecidableEq, Repr

/-- A sign or a letter in a list of flags. -/
inductive FlagItem where
  | negation
  | flag (f : Flag)
  deriving DecidableEq, Repr

/-- Shorthand classes. -/
inductive PerlKind where
  | digit
  | space
  | word
  deriving DecidableEq, Repr

/-- Named classes of ASCII characters. -/
inductive AsciiKind where
  | alnum | alpha | ascii | blank | cntrl | digit | graph | lower | print | punct | space
  | upper | word | xdigit
  deriving DecidableEq, Repr

namespace AsciiKind

/-- The class of a name. -/
def ofName? : String → Option AsciiKind
  | "alnum" => some alnum
  | "alpha" => some alpha
  | "ascii" => some ascii
  | "blank" => some blank
  | "cntrl" => some cntrl
  | "digit" => some digit
  | "graph" => some graph
  | "lower" => some lower
  | "print" => some print
  | "punct" => some punct
  | "space" => some space
  | "upper" => some upper
  | "word" => some word
  | "xdigit" => some xdigit
  | _ => none

/-- The characters of a class. -/
def ranges : AsciiKind → List (Nat × Nat)
  | alnum => [(0x30, 0x39), (0x41, 0x5A), (0x61, 0x7A)]
  | alpha => [(0x41, 0x5A), (0x61, 0x7A)]
  | ascii => [(0, 0x7F)]
  | blank => [(9, 9), (0x20, 0x20)]
  | cntrl => [(0, 0x1F), (0x7F, 0x7F)]
  | digit => [(0x30, 0x39)]
  | graph => [(0x21, 0x7E)]
  | lower => [(0x61, 0x7A)]
  | print => [(0x20, 0x7E)]
  | punct => [(0x21, 0x2F), (0x3A, 0x40), (0x5B, 0x60), (0x7B, 0x7E)]
  | space => [(9, 13), (0x20, 0x20)]
  | upper => [(0x41, 0x5A)]
  | word => [(0x30, 0x39), (0x41, 0x5A), (0x5F, 0x5F), (0x61, 0x7A)]
  | xdigit => [(0x30, 0x39), (0x41, 0x46), (0x61, 0x66)]

end AsciiKind

/-- How a Unicode class is named. -/
inductive UnicodeQuery where
  | letter (c : Char)
  | name (n : String)
  | value (property value : String)
  deriving DecidableEq, Repr

/-- Assertions about a place in the text, before flags are applied. -/
inductive AssertionKind where
  | startLine
  | endLine
  | startText
  | endText
  | wordBoundary
  | notWordBoundary
  | wordStart
  | wordEnd
  | wordStartHalf
  | wordEndHalf
  deriving DecidableEq, Repr

/-- A single character; `isByte` when it was written as a byte in hexadecimal. -/
structure Literal where
  span : Span
  char : Char
  isByte : Bool
  deriving DecidableEq, Repr

/-- Operators between sets of characters. -/
inductive SetOp where
  | intersection
  | difference
  | symmetricDifference
  deriving DecidableEq, Repr

/-- The inside of a bracketed class. -/
inductive SetNode where
  | empty (span : Span)
  | literal (l : Literal)
  | range (span : Span) (first last : Literal)
  | ascii (span : Span) (kind : AsciiKind) (negated : Bool)
  | unicode (span : Span) (query : UnicodeQuery) (negated : Bool)
  | perl (span : Span) (kind : PerlKind) (negated : Bool)
  | bracketed (span : Span) (negated : Bool) (inner : SetNode)
  | union (span : Span) (items : List SetNode)
  | binary (span : Span) (op : SetOp) (left right : SetNode)
  deriving Inhabited

/-- The span of a node. -/
def SetNode.span : SetNode → Span
  | .empty s | .range s .. | .ascii s .. | .unicode s .. | .perl s .. | .bracketed s ..
  | .union s .. | .binary s .. => s
  | .literal l => l.span

/-- A syntax tree. -/
inductive Ast where
  | empty (span : Span)
  | flags (span : Span) (items : List FlagItem)
  | literal (l : Literal)
  | dot (span : Span)
  | assertion (span : Span) (kind : AssertionKind)
  | unicode (span : Span) (query : UnicodeQuery) (negated : Bool)
  | perl (span : Span) (kind : PerlKind) (negated : Bool)
  | bracketed (span : Span) (negated : Bool) (set : SetNode)
  | repetition (span : Span) (least : Nat) (most : Option Nat) (body : Ast)
  | group (span : Span) (capturing : Bool) (items : List FlagItem) (body : Ast)
  | alternation (span : Span) (branches : List Ast)
  | concat (span : Span) (parts : List Ast)
  deriving Inhabited

/-- The span of a tree. -/
def Ast.span : Ast → Span
  | .empty s | .flags s .. | .dot s | .assertion s .. | .unicode s .. | .perl s ..
  | .bracketed s .. | .repetition s .. | .group s .. | .alternation s .. | .concat s .. => s
  | .literal l => l.span

/-- A sequence; one part stands for itself. -/
def Ast.ofConcat (span : Span) : List Ast → Ast
  | [] => .empty span
  | [part] => part
  | parts => .concat span parts

/-- A choice; one branch stands for itself. -/
def Ast.ofAlternation (span : Span) : List Ast → Ast
  | [branch] => branch
  | branches => .alternation span branches

/-- The state of a flag after a list of flags, if the list names it. -/
def flagState? (f : Flag) (items : List FlagItem) : Option Bool :=
  let rec go (negated : Bool) : List FlagItem → Option Bool
    | [] => none
    | .negation :: rest => go true rest
    | .flag g :: rest => if g = f then some (!negated) else go negated rest
  go false items

end RecordRules.Regex
