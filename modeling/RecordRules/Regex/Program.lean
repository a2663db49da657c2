import RecordRules.Regex.Size

/-! # Programs that match

A tree is compiled to a program of small instructions.  Every instruction names its successor,
so a program is built from its end.  A match is searched by following all threads of the
program side by side, one character at a time.

* `Program.ofTree`
* `Program.isMatch`   whether the program matches anywhere in a text -/

namespace RecordRules.Regex

/-- An instruction. -/
inductive Instr where
  | accept
  | char (codes : CodeRanges) (next : Nat)
  | look (condition : Look) (next : Nat)
  | split (first second : Nat)
  deriving Inhabited

/-- A program, and the number of its first instruction. -/
structure Program where
  code : Array Instr
  start : Nat

/-- Adds the instructions of a tree to those of what follows it, given the number of the first
    instruction of what follows; gives the number of the first instruction. -/
abbrev Emitter := Nat → Array Instr → Nat × Array Instr

namespace Emitter

/-- Adds one instruction. -/
def push (instr : Nat → Instr) : Emitter := fun next code => (code.size, code.push (instr next))

/-- Adds nothing. -/
def skip : Emitter := fun next code => (next, code)

/-- One after the other. -/
def andThen (a b : Emitter) : Emitter := fun next code =>
  let (middle, code) := b next code
  a middle code

/-- One or the other. -/
def orElse (a b : Emitter) : Emitter := fun next code =>
  let (first, code) := a next code
  let (second, code) := b next code
  (code.size, code.push (.split first second))

/-- A number of times. -/
def times (a : Emitter) : Nat → Emitter
  | 0 => skip
  | n + 1 => fun next code =>
    let (middle, code) := a next code
    times a n middle code

/-- At most a number of times. -/
def upTo (a : Emitter) (last : Nat) : Nat → Emitter
  | 0 => skip
  | n + 1 => fun next code =>
    let (middle, code) := a next code
    upTo a last n code.size (code.push (.split middle last))

/-- Any number of times. -/
def star (a : Emitter) : Emitter := fun next code =>
  let loop := code.size
  let (body, code) := a loop (code.push .accept)
  (loop, code.setIfInBounds loop (.split body next))

/-- Between two numbers of times. -/
def repeated (a : Emitter) (least : Nat) : Option Nat → Emitter
  | none => (times a least).andThen (star a)
  | some most => (times a least).andThen fun next code => upTo a next (most - least) next code

end Emitter

mutual

/-- The instructions of a tree. -/
def emit : Tree → Emitter
  | .empty => .skip
  | .literal c => .push (.char ⟨#[(c.toNat, c.toNat)]⟩)
  | .set codes => .push (.char codes.toRanges)
  | .look condition => .push (.look condition)
  | .group _ body => emit body
  | .alternation branches => emitAny branches
  | .concat parts => emitAll parts
  | .repetition least most body =>
    let (least, most) := Tree.bounds least most body
    .repeated (emit body) least most

/-- The instructions of a sequence. -/
def emitAll : List Tree → Emitter
  | [] => .skip
  | t :: rest => (emit t).andThen (emitAll rest)

/-- The instructions of a choice. -/
def emitAny : List Tree → Emitter
  | [] => .push fun _ => .char ⟨#[]⟩ 0
  | [t] => emit t
  | t :: rest => (emit t).orElse (emitAny rest)

end

/-- Whether a word ends or begins between two characters. -/
def Look.isWord (unicode : Bool) (c : Option Char) : Bool :=
  c.any fun c => if unicode then isWordChar c else isAsciiWordChar c

/-- Whether a condition holds between two characters, which are missing at the ends. -/
def Look.holds (before after : Option Char) : Look → Bool
  | .startText => before.isNone
  | .endText => after.isNone
  | .startLine => before.isNone || before == some '\n'
  | .endLine => after.isNone || after == some '\n'
  | .startLineCrlf =>
    before.isNone || before == some '\n' || (before == some '\r' && after != some '\n')
  | .endLineCrlf =>
    after.isNone || after == some '\r' || (after == some '\n' && before != some '\r')
  | .wordBoundary u => isWord u before != isWord u after
  | .notWordBoundary u => isWord u before == isWord u after
  | .wordStart u => !isWord u before && isWord u after
  | .wordEnd u => isWord u before && !isWord u after
  | .wordStartHalf u => !isWord u before
  | .wordEndHalf u => !isWord u after

namespace Program

/-- The program of a tree. -/
def ofTree (t : Tree) : Program :=
  let (start, code) := emit t 0 #[.accept]
  ⟨code, start⟩

/-- Threads at one place of a text: those that wait for a character, and whether one has
    reached the end of the program.  An instruction whose mark is the number of the place has been
    seen there. -/
structure Threads where
  waiting : List (CodeRanges × Nat) := []
  accepted : Bool := false
  marks : Array Nat

/-- Follows threads up to where they wait for a character. -/
def follow (p : Program) (place : Nat) (before after : Option Char) :
    Nat → List Nat → Threads → Threads
  | 0, _, t => t
  | _, [], t => t
  | fuel + 1, i :: rest, t =>
    if t.marks[i]?.getD place = place then follow p place before after fuel rest t
    else
      let t := { t with marks := t.marks.setIfInBounds i place }
      match p.code[i]? with
      | none => follow p place before after fuel rest t
      | some .accept => { t with accepted := true }
      | some (.char codes next) =>
        follow p place before after fuel rest { t with waiting := (codes, next) :: t.waiting }
      | some (.look condition next) =>
        follow p place before after fuel
          (if condition.holds before after then next :: rest else rest) t
      | some (.split first second) =>
        follow p place before after fuel (first :: second :: rest) t

/-- Searches from a place on; `place` counts places from one, and `active` are the threads that
    have come so far. -/
def search (p : Program) (place : Nat) (before : Option Char) (active : List Nat)
    (marks : Array Nat) : List Char → Bool
  | [] =>
    (follow p place before none (active.length + 2 * p.code.size + 2) (active ++ [p.start])
      { marks }).accepted
  | c :: rest =>
    let t := follow p place before (some c) (active.length + 2 * p.code.size + 2)
      (active ++ [p.start]) { marks }
    if t.accepted then true
    else
      let active := t.waiting.filterMap fun (codes, next) =>
        if codes.contains c.toNat then some next else none
      search p (place + 1) (some c) active t.marks rest

/-- Whether the program matches anywhere in a text. -/
def isMatch (p : Program) (text : String) : Bool :=
  search p 1 none [] (Array.replicate p.code.size 0) text.toList

end Program
end RecordRules.Regex
