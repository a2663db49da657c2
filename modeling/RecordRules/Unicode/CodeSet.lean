import RecordRules.Unicode.CaseFolding

/-! # Operations on sets of code points

A set is a list of ranges.  In normal form the ranges are ascending and neither overlap nor
touch; every operation gives its result in normal form. -/

namespace RecordRules

/-- Ranges of code points; both ends belong to a range. -/
abbrev CodeSet := List (Nat × Nat)

namespace CodeSet

/-- The greatest code point. -/
def greatest : Nat := 0x10FFFF

/-- The set of all code points. -/
def everything : CodeSet := [(0, greatest)]

/-- Joins ranges that overlap or touch, in a list that is ordered by their beginnings. -/
def joinFrom (first final : Nat) : CodeSet → CodeSet
  | [] => [(first, final)]
  | (a, b) :: rest =>
    if a ≤ final + 1 then joinFrom first (max final b) rest
    else (first, final) :: joinFrom a b rest

/-- The normal form of a list of ranges. -/
def normal (s : CodeSet) : CodeSet :=
  match s.mergeSort fun x y => x.1 ≤ y.1 with
  | [] => []
  | (a, b) :: rest => joinFrom a b rest

/-- The code points from `next` on that a set in normal form lacks. -/
def complementFrom (next : Nat) : CodeSet → CodeSet
  | [] => if next ≤ greatest then [(next, greatest)] else []
  | (a, b) :: rest =>
    if next < a then (next, a - 1) :: complementFrom (b + 1) rest
    else complementFrom (b + 1) rest

/-- The code points that a set lacks. -/
def complement (s : CodeSet) : CodeSet := complementFrom 0 s.normal

/-- The code points of two sets. -/
def union (s t : CodeSet) : CodeSet := normal (s ++ t)

/-- The code points that two sets share. -/
def inter (s t : CodeSet) : CodeSet := (s.complement.union t.complement).complement

/-- The code points of one set that another lacks. -/
def diff (s t : CodeSet) : CodeSet := s.inter t.complement

/-- The code points of exactly one of two sets. -/
def symmDiff (s t : CodeSet) : CodeSet := (s.union t).diff (s.inter t)

/-- The set of ranges that can be searched. -/
def toRanges (s : CodeSet) : CodeRanges := ⟨s.toArray⟩

/-- Adds all characters that fold together with a member. -/
def foldCase (s : CodeSet) : CodeSet :=
  let members := s.normal.toRanges
  let more := CaseFolding.entries.toList.filterMap fun (n, others) =>
    if members.contains n then some (others.map fun m => (m, m)) else none
  normal (s ++ more.flatten)

/-- Adds the ASCII letters that differ from a member in case alone. -/
def foldAscii (s : CodeSet) : CodeSet :=
  let members := s.normal.toRanges
  let more := (List.range 26).filterMap fun i =>
    let upper := 0x41 + i
    let lower := 0x61 + i
    if members.contains upper || members.contains lower then
      some [(upper, upper), (lower, lower)]
    else none
  normal (s ++ more.flatten)

/-- Whether all members are ASCII characters. -/
def isAscii (s : CodeSet) : Bool := s.all fun (_, b) => b ≤ 0x7F

end CodeSet

/-- The ranges of a set, as a list. -/
def CodeRanges.toSet (r : CodeRanges) : CodeSet := r.ranges.toList

end RecordRules
