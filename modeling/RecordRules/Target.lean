import RecordRules.Record
import RecordRules.Regex.Size
import RecordRules.Unicode.CaseFolding

/-! # The fields that a rule is aimed at

A target is `*` for every field, the name of a field, or a glob: a text with `*` in it, where
`*` stands for any characters of one line and upper and lower case are alike.

* `Target.selects`   whether a target selects a name
* `Target.resolve`   the names of a record that a target selects -/

namespace RecordRules

/-- What a target pattern selects. -/
inductive Target where
  | all
  | exact (name : String)
  /-- The pieces of a glob between its asterisks, two at least. -/
  | glob (pieces : List (List Char))
  /-- A glob that is too long to be used; it selects nothing. -/
  | invalid
  deriving DecidableEq, Repr

namespace Target

/-- Cuts a text at its asterisks. -/
def pieces : List Char → List (List Char)
  | [] => [[]]
  | c :: rest =>
    if c = '*' then [] :: pieces rest
    else match pieces rest with
      | [] => [[c]]
      | piece :: more => (c :: piece) :: more

/-- The flags of a glob: upper and lower case are alike. -/
def globMode : Regex.Mode := { caseInsensitive := true }

/-- What a character of a glob asks for. -/
def globChar (c : Char) : Regex.Tree :=
  let codes := globMode.fold [(c.toNat, c.toNat)]
  if codes = [(c.toNat, c.toNat)] then .literal c else .set codes

/-- What an asterisk of a glob asks for: any characters but line feeds. -/
def globGap : Regex.Tree :=
  .repetition 0 none (.set (CodeSet.complement [(10, 10)]))

/-- What a glob asks for, as a tree of what has to be matched from end to end. -/
def globTree (pieces : List (List Char)) : Regex.Tree :=
  .concat (.look .startText ::
    ([globGap].intercalate (pieces.map fun piece => piece.map globChar) ++ [.look .endText]))

/-- Globs up to this length are never too long. -/
def safeLength : Nat := 1000

/-- Whether a glob stays within the bound on the size of patterns. -/
def fits (pieces : List (List Char)) : Bool :=
  pieces.foldl (fun n p => n + p.length + 1) 0 ≤ safeLength || (globTree pieces).fits

/-- The target of a pattern. -/
def ofPattern (pattern : String) : Target :=
  if pattern = "*" then all
  else
    let cs := pattern.toList
    if cs.contains '*' then
      if fits (pieces cs) then glob (pieces cs) else invalid
    else exact pattern

/-- The name of the kind of a target. -/
def kindName : Target → String
  | all => "all"
  | exact _ => "exact"
  | glob _ => "glob"
  | invalid => "invalid"

/-- The rest of a name after a piece at its beginning, upper and lower case being alike. -/
def dropPiece : List Char → List Char → Option (List Char)
  | [], name => some name
  | _ :: _, [] => none
  | p :: piece, c :: name => if foldsTogether p c then dropPiece piece name else none

/-- What may be left of a name after a gap. -/
def gapRests : List Char → List (List Char)
  | [] => [[]]
  | c :: name => (c :: name) :: if c = '\n' then [] else gapRests name

/-- What may be left of a name after pieces, each with a gap before it, given what may be left
    before them. -/
def restsAfter (rests : List (List Char)) : List (List Char) → List (List Char)
  | [] => rests
  | piece :: more =>
    restsAfter ((rests.flatMap gapRests).eraseDups.filterMap (dropPiece piece)) more

/-- Whether a name consists of pieces with gaps between them. -/
def matchesPieces (name : List Char) : List (List Char) → Bool
  | [] => name.isEmpty
  | piece :: more => (restsAfter (dropPiece piece name).toList more).any List.isEmpty

/-- Whether a target selects a name. -/
def selects : Target → String → Bool
  | all, _ => true
  | exact name, field => name == field
  | glob pieces, field => matchesPieces field.toList pieces
  | invalid, _ => false

/-- The names of a record that a target selects, in the order of the record. -/
def resolve (target : Target) (r : Record) : List String :=
  match target with
  | exact name => if (r.get? name).isSome then [name] else []
  | _ => r.names.filter target.selects

end Target
end RecordRules
