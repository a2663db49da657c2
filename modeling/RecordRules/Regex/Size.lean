import RecordRules.Regex.Tree
import RecordRules.Word

/-! # The size of a compiled pattern

A pattern is compiled to an automaton over the bytes of UTF-8, forward and backward; the
memory of each is bounded.  The size of an automaton follows from the tree alone, so that a
pattern beyond the bound is refused before anything is built.

* `utf8Sequences`     the byte ranges that spell the code points of a range
* `Tree.size`         the memory of an automaton -/

namespace RecordRules.Regex

/-- A range of values of one byte. -/
abbrev ByteRange := Nat × Nat

/-- The greatest code point that is written in `n` bytes. -/
def greatestOfLength : Nat → Nat
  | 1 => 0x7F
  | 2 => 0x7FF
  | 3 => 0xFFFF
  | _ => 0x10FFFF

/-- The bytes of a code point. -/
def utf8Bytes (n : Nat) : List Nat :=
  if n ≤ 0x7F then [n]
  else if n ≤ 0x7FF then [0xC0 + n / 0x40, 0x80 + n % 0x40]
  else if n ≤ 0xFFFF then [0xE0 + n / 0x1000, 0x80 + n / 0x40 % 0x40, 0x80 + n % 0x40]
  else [0xF0 + n / 0x40000, 0x80 + n / 0x1000 % 0x40, 0x80 + n / 0x40 % 0x40, 0x80 + n % 0x40]

/-- Where a range of code points is cut in two, the cut being the last code point of the first
    part: at the surrogates, where the length of the bytes changes, or where a later byte does not
    run through all its values. -/
def cutPoint? (first last : Nat) : Option Nat :=
  let lengths := [1, 2, 3].filterMap fun i =>
    let greatest := greatestOfLength i
    if first ≤ greatest ∧ greatest < last then some greatest else none
  match lengths with
  | cut :: _ => some cut
  | [] =>
    if last ≤ 0x7F then none
    else [6, 12, 18].findSome? fun bits =>
      let size := twoTo bits
      if first / size = last / size then none
      else if first % size ≠ 0 then some (first / size * size + size - 1)
      else if last % size ≠ size - 1 then some (last / size * size - 1)
      else none

/-- The sequences of byte ranges that spell the code points of a range, in order. -/
def utf8SequencesFrom : Nat → Nat → Nat → List (List ByteRange)
  | 0, _, _ => []
  | fuel + 1, first, last =>
    if last < first then []
    else match cutPoint? first last with
      | some cut => utf8SequencesFrom fuel first cut ++ utf8SequencesFrom fuel (cut + 1) last
      | none => [(utf8Bytes first).zip (utf8Bytes last)]

/-- The sequences of byte ranges that spell the characters of a set. -/
def utf8Sequences (s : CodeSet) : List (List ByteRange) :=
  (s.diff [(0xD800, 0xDFFF)]).flatMap fun (first, last) => utf8SequencesFrom 16 first last

/-- The memory of a state, of a transition and of a branch. -/
def stateSize : Nat := 32

/-- The memory of a transition on a range of bytes. -/
def transitionSize : Nat := 8

/-- The memory of a branch of a choice. -/
def branchSize : Nat := 4

/-- A state of the automaton of a set: its transitions, with the numbers of the states they
    lead to. -/
abbrev Transitions := List (ByteRange × Nat)

/-- The number of a state, which is added if no equal one is there. -/
def shareState (states : List Transitions) (state : Transitions) : Nat × List Transitions :=
  match states.findIdx? (· == state) with
  | some i => (states.length - i, states)
  | none => (states.length + 1, state :: states)

/-- Sequences that begin with the same range, as that range and what follows it. -/
def groupByHead : List (List ByteRange) → List (ByteRange × List (List ByteRange))
  | [] => []
  | [] :: rest => groupByHead rest
  | (head :: tail) :: rest =>
    match groupByHead rest with
    | (h, tails) :: groups =>
      if h = head then (h, tail :: tails) :: groups else (head, [tail]) :: (h, tails) :: groups
    | [] => [(head, [tail])]

/-- The states of an automaton that shares equal ends; sequences have `depth` ranges at most. -/
def shareSuffixes : Nat → List Transitions → List (List ByteRange) → Nat × List Transitions
  | 0, states, _ => (0, states)
  | depth + 1, states, sequences =>
    if sequences.all List.isEmpty then (0, states)
    else
      let (state, states) := (groupByHead sequences).foldl (fun (acc, states) (range, tails) =>
        let (target, states) := shareSuffixes depth states tails
        (acc ++ [(range, target)], states)) (([] : Transitions), states)
      shareState states state

/-- The memory of the forward automaton of a set beyond ASCII. -/
def forwardSetSize (sequences : List (List ByteRange)) : Nat :=
  let (_, states) := shareSuffixes 5 [] sequences
  states.foldl (fun n t => n + stateSize + transitionSize * t.length) stateSize

/-- The memory of the backward automaton of a set beyond ASCII: a state for each beginning of
    a sequence. -/
def backwardSetSize (sequences : List (List ByteRange)) : Nat :=
  let beginnings := sequences.flatMap fun s => (List.range s.length).map fun i => s.take (i + 1)
  let key (s : List ByteRange) : Nat :=
    s.foldl (fun n (a, b) => (n * 256 + a) * 256 + b) 1
  let keys := (beginnings.map key).mergeSort
  let distinct := (keys.zip (keys.drop 1)).countP (fun (a, b) => a != b) + 1
  2 * stateSize + branchSize * sequences.length + stateSize * distinct

/-- The direction of an automaton. -/
inductive Direction where
  | forward
  | backward
  deriving DecidableEq, Repr

/-- The memory of a set of characters. -/
def setSize (direction : Direction) (s : CodeSet) : Nat :=
  match s with
  | [] => stateSize
  | (a, b) :: rest =>
    if a = b ∧ rest.isEmpty then stateSize * (utf8Bytes a).length
    else if s.isAscii then 2 * stateSize + transitionSize * s.length
    else match direction with
      | .forward => forwardSetSize (utf8Sequences s)
      | .backward => backwardSetSize (utf8Sequences s)

namespace Tree

mutual

/-- Whether a tree matches the empty text alone. -/
def isEmptyOnly : Tree → Bool
  | .empty | .look _ => true
  | .literal _ | .set _ => false
  | .repetition _ most body => most == some 0 || isEmptyOnly body
  | .group _ body => isEmptyOnly body
  | .alternation branches => areEmptyOnly branches
  | .concat parts => areEmptyOnly parts

/-- Whether all trees match the empty text alone. -/
def areEmptyOnly : List Tree → Bool
  | [] => true
  | t :: rest => isEmptyOnly t && areEmptyOnly rest

end

mutual

/-- Whether a tree may match the empty text. -/
def mayBeEmpty : Tree → Bool
  | .empty | .look _ => true
  | .literal _ | .set _ => false
  | .repetition least _ body => least == 0 || mayBeEmpty body
  | .group _ body => mayBeEmpty body
  | .alternation branches => anyMayBeEmpty branches
  | .concat parts => allMayBeEmpty parts

/-- Whether all trees may match the empty text. -/
def allMayBeEmpty : List Tree → Bool
  | [] => true
  | t :: rest => mayBeEmpty t && allMayBeEmpty rest

/-- Whether some tree may match the empty text. -/
def anyMayBeEmpty : List Tree → Bool
  | [] => false
  | t :: rest => mayBeEmpty t || anyMayBeEmpty rest

end

/-- The characters of a tree that matches single characters. -/
def single? : Tree → Option CodeSet
  | .literal c => some [(c.toNat, c.toNat)]
  | .set s => some s
  | _ => none

/-- The bounds of a repetition as they are used: what matches the empty text alone is not
    repeated. -/
def bounds (least : Nat) (most : Option Nat) (body : Tree) : Nat × Option Nat :=
  if body.isEmptyOnly then (min least 1, some (min (most.getD 1) 1)) else (least, most)

mutual

/-- The memory of a tree. -/
def size (direction : Direction) : Tree → Nat
  | .empty | .look _ => stateSize
  | .literal c => stateSize * c.utf8Size
  | .set s => setSize direction s
  | .group capturing body =>
    size direction body + if capturing && direction == .forward then 2 * stateSize else 0
  | .alternation branches =>
    match branches.mapM single? with
    | some sets => setSize direction (CodeSet.normal sets.flatten)
    | none => 2 * stateSize + branchSize * branches.length + sizeSum direction branches
  | .concat parts =>
    let total := sizeSum direction parts
    if total = 0 then stateSize else total
  | .repetition least most body =>
    let one := size direction body
    match bounds least most body with
    | (0, some 0) => stateSize
    | (least, some most) =>
      if least = 1 ∧ most = 1 then one
      else if least = most then least * one
      else stateSize + most * one + (most - least) * (stateSize + 2 * branchSize)
    | (least, none) =>
      if least = 0 ∧ mayBeEmpty body then one + 3 * stateSize + 4 * branchSize
      else max least 1 * one + stateSize + 2 * branchSize

/-- The memory of the trees of a sequence, where empty ones take none. -/
def sizeSum (direction : Direction) : List Tree → Nat
  | [] => 0
  | .empty :: rest => sizeSum direction rest
  | t :: rest => size direction t + sizeSum direction rest

end

/-- The bound on the memory of an automaton. -/
def sizeLimit : Nat := 10 * twoTo 20

/-- Whether a pattern fits within the bound in both directions; what it takes besides the
    tree are the states that begin and end a match. -/
def fits (t : Tree) : Bool :=
  t.size .forward + 5 * stateSize ≤ sizeLimit && t.size .backward + 3 * stateSize ≤ sizeLimit

end Tree
end RecordRules.Regex
