import RecordRules.Yaml.Cursor

/-! # White space within scalars

Between two pieces of a scalar there may be blanks, or line breaks with blanks around them.
A single break reads as a space, and of several the first one is dropped.

* `Gap.read`   the white space at a place -/

namespace RecordRules.Yaml

/-- The white space between two pieces of a scalar. -/
structure Gap where
  /-- The blanks before the first line break, last first. -/
  blanks : List Char := []
  /-- The line breaks, last first. -/
  breaks : List Char := []
  /-- Whether a line break has come already, one that does not count. -/
  escaped : Bool := false
  deriving Inhabited

namespace Gap

/-- Whether the gap goes over a line break. -/
def isMultiline (g : Gap) : Bool :=
  g.escaped || !g.breaks.isEmpty

/-- How a gap reads. -/
def text (g : Gap) : List Char :=
  if g.escaped then g.breaks.reverse
  else match g.breaks.reverse with
    | [] => g.blanks.reverse
    | ['\n'] => [' ']
    | '\n' :: more => more
    | breaks => breaks

/-- The white space at a place; tabs on new lines before a column are refused. -/
def readFrom (tabColumn : Nat) : Nat → Gap → Cursor → Option (Gap × Cursor)
  | 0, g, c => some (g, c)
  | fuel + 1, g, c =>
    match c.peek with
    | none => some (g, c)
    | some ch =>
      if isBlank ch then
        if g.isMultiline then
          if ch = '\t' ∧ c.column < tabColumn then none
          else readFrom tabColumn fuel g (c.advance 1)
        else readFrom tabColumn fuel { g with blanks := ch :: g.blanks } (c.advance 1)
      else if isBreak ch then
        readFrom tabColumn fuel { g with breaks := readBreak ch :: g.breaks } c.pastBreak
      else some (g, c)

/-- The white space at a place, after a line break that does not count if `escaped`. -/
def read (escaped : Bool) (tabColumn : Nat) (c : Cursor) : Option (Gap × Cursor) :=
  readFrom tabColumn (c.rest.length + 1) { escaped := escaped } c

end Gap
end RecordRules.Yaml
