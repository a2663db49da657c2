import RecordRules.Regex.Syntax

/-! # What is wrong with a pattern

The causes for which a text is no pattern, and the report that shows the pattern with carets
under the places concerned. -/

namespace RecordRules.Regex

/-- A cause for which a text is no pattern. -/
inductive Cause where
  | classEscapeInvalid
  | classRangeInvalid
  | classRangeLiteral
  | classUnclosed
  | decimalEmpty
  | decimalInvalid
  | escapeHexEmpty
  | escapeHexInvalid
  | escapeHexInvalidDigit
  | escapeUnexpectedEnd
  | escapeUnrecognized
  | flagDanglingNegation
  | flagDuplicate
  | flagRepeatedNegation
  | flagUnexpectedEnd
  | flagUnrecognized
  | groupNameDuplicate
  | groupNameEmpty
  | groupNameInvalid
  | groupNameUnexpectedEnd
  | groupUnclosed
  | groupUnopened
  | nestLimitExceeded (limit : Nat)
  | repetitionCountInvalid
  | repetitionCountEmpty
  | repetitionCountUnclosed
  | repetitionMissing
  | wordBoundaryUnclosed
  | wordBoundaryUnrecognized
  | wordBoundaryUnexpectedEnd
  | unicodeClassInvalid
  | unsupportedBackreference
  | unsupportedLookAround
  | unicodeNotAllowed
  | invalidText
  | propertyNotFound
  | propertyValueNotFound
  deriving DecidableEq, Repr

/-- The wording of a cause. -/
def Cause.message : Cause → String
  | classEscapeInvalid => "invalid escape sequence found in character class"
  | classRangeInvalid =>
    "invalid character class range, the start must be <= the end"
  | classRangeLiteral => "invalid range boundary, must be a literal"
  | classUnclosed => "unclosed character class"
  | decimalEmpty => "decimal literal empty"
  | decimalInvalid => "decimal literal invalid"
  | escapeHexEmpty => "hexadecimal literal empty"
  | escapeHexInvalid => "hexadecimal literal is not a Unicode scalar value"
  | escapeHexInvalidDigit => "invalid hexadecimal digit"
  | escapeUnexpectedEnd =>
    "incomplete escape sequence, reached end of pattern prematurely"
  | escapeUnrecognized => "unrecognized escape sequence"
  | flagDanglingNegation => "dangling flag negation operator"
  | flagDuplicate => "duplicate flag"
  | flagRepeatedNegation => "flag negation operator repeated"
  | flagUnexpectedEnd => "expected flag but got end of regex"
  | flagUnrecognized => "unrecognized flag"
  | groupNameDuplicate => "duplicate capture group name"
  | groupNameEmpty => "empty capture group name"
  | groupNameInvalid => "invalid capture group character"
  | groupNameUnexpectedEnd => "unclosed capture group name"
  | groupUnclosed => "unclosed group"
  | groupUnopened => "unopened group"
  | nestLimitExceeded limit =>
    "exceed the maximum number of nested parentheses/brackets (" ++ toString limit ++ ")"
  | repetitionCountInvalid =>
    "invalid repetition count range, the start must be <= the end"
  | repetitionCountEmpty => "repetition quantifier expects a valid decimal"
  | repetitionCountUnclosed => "unclosed counted repetition"
  | repetitionMissing => "repetition operator missing expression"
  | wordBoundaryUnclosed =>
    "special word boundary assertion is either unclosed or contains an invalid character"
  | wordBoundaryUnrecognized =>
    "unrecognized special word boundary assertion, valid choices are: start, end, " ++
      "start-half or end-half"
  | wordBoundaryUnexpectedEnd =>
    "found either the beginning of a special word boundary or a bounded repetition on a " ++
      "\\b with an opening brace, but no closing brace"
  | unicodeClassInvalid => "invalid Unicode character class"
  | unsupportedBackreference => "backreferences are not supported"
  | unsupportedLookAround =>
    "look-around, including look-ahead and look-behind, is not supported"
  | unicodeNotAllowed => "Unicode not allowed here"
  | invalidText => "pattern can match invalid UTF-8"
  | propertyNotFound => "Unicode property not found"
  | propertyValueNotFound => "Unicode property value not found"

/-- A cause and the places it concerns: the second one where there are two. -/
structure Fault where
  cause : Cause
  span : Span
  other : Option Span := none
  deriving DecidableEq, Repr

namespace Report

/-- Line and column of a place, both from one on. -/
def lineColumn (pattern : List Char) (pos : Nat) : Nat × Nat :=
  let before := pattern.take pos
  let line := before.count '\n' + 1
  let column := (before.reverse.takeWhile (· ≠ '\n')).length + 1
  (line, column)

/-- A line without the carriage return that belongs to its break. -/
def dropReturn (line : List Char) : List Char :=
  if line.getLast? = some '\r' then line.dropLast else line

/-- The lines of a text, without their breaks; a break at the end begins no line. -/
def linesOf (pattern : List Char) : List (List Char) :=
  let pieces := pattern.splitOn '\n'
  let broken := pieces.dropLast.map dropReturn
  match pieces.getLast? with
  | none | some [] => broken
  | some last => broken ++ [last]

/-- Carets under the given columns of a line, `pos` columns being behind. -/
def carets (pos : Nat) : List (Nat × Nat) → List Char
  | [] => []
  | (first, last) :: rest =>
    let gap := first - 1 - pos
    let width := max 1 (last - first)
    List.replicate gap ' ' ++ List.replicate width '^' ++ carets (pos + gap + width) rest

/-- A number filled up with blanks on the left. -/
def padLeft (width n : Nat) : List Char :=
  let digits := Nat.toDigits 10 n
  List.replicate (width - digits.length) ' ' ++ digits

end Report

open RecordRules.Regex.Report in
/-- The report of a fault in a pattern. -/
def Fault.report (f : Fault) (pattern : String) : String :=
  let cs := pattern.toList
  let spans := f.span :: f.other.toList
  let places := spans.map fun s => (lineColumn cs s.first, lineColumn cs s.last)
  let oneLine := (places.filter fun (a, b) => a.1 = b.1).mergeSort
    fun x y => x.1.2 < y.1.2 || (x.1.2 == y.1.2 && x.2.2 ≤ y.2.2)
  let several := places.filter fun (a, b) => a.1 ≠ b.1
  let lines := linesOf cs
  let count := lines.length + if cs.getLast? = some '\n' then 1 else 0
  let width := if count ≤ 1 then 0 else (Nat.toDigits 10 count).length
  let margin := if width = 0 then 4 else width + 2
  let shown := (lines.mapIdx fun i line =>
    let head := if width = 0 then List.replicate 4 ' '
      else padLeft width (i + 1) ++ [':', ' ']
    let here := oneLine.filter fun (a, _) => a.1 = i + 1
    let marks := if here.isEmpty then []
      else List.replicate margin ' ' ++
        carets 0 (here.map fun (a, b) => (a.2, b.2)) ++ ['\n']
    head ++ line ++ '\n' :: marks).flatten
  let error := "error: " ++ f.cause.message
  if cs.contains '\n' then
    let divider := String.ofList (List.replicate 79 '~') ++ "\n"
    let notes := several.map fun (a, b) =>
      "on line " ++ toString a.1 ++ " (column " ++ toString a.2 ++ ") through line " ++
        toString b.1 ++ " (column " ++ toString (b.2 - 1) ++ ")"
    "regex parse error:\n" ++ divider ++ String.ofList shown ++ divider ++
      (if notes.isEmpty then "" else "\n".intercalate notes ++ "\n") ++ error
  else "regex parse error:\n" ++ String.ofList shown ++ error

end RecordRules.Regex
