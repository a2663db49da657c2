import RecordRules.Yaml.Node
import RecordRules.Yaml.Scalar
import RecordRules.Yaml.Token.Lexer

/-! # Values of YAML texts

The value of a node, its references followed.  Collections nest at most 128 levels deep, and
the number of references that are followed is bounded by the size of the document.

* `Yaml.valueOfText?`    the value of a text
* `Yaml.membersOfText?`  the entries of the mapping that a text holds, in order -/

namespace RecordRules.Yaml

namespace Node

mutual

/-- The marked nodes, in the order of the document. -/
def marked : Node → List (Nat × Node)
  | reference _ => []
  | scalar mark tag plain text => (mark.map (·, scalar mark tag plain text)).toList
  | sequence mark tag items =>
    (mark.map (·, sequence mark tag items)).toList ++ markedItems items
  | mapping mark tag entries =>
    (mark.map (·, mapping mark tag entries)).toList ++ markedEntries entries

/-- The marked nodes among items. -/
def markedItems : List Node → List (Nat × Node)
  | [] => []
  | item :: rest => item.marked ++ markedItems rest

/-- The marked nodes among entries. -/
def markedEntries : List (Node × Node) → List (Nat × Node)
  | [] => []
  | (key, value) :: rest => key.marked ++ (value.marked ++ markedEntries rest)

end

mutual

/-- The size of a node: collections count twice. -/
def size : Node → Nat
  | reference _ | scalar .. => 1
  | sequence _ _ items => sizeItems items + 2
  | mapping _ _ entries => sizeEntries entries + 2

/-- The size of items. -/
def sizeItems : List Node → Nat
  | [] => 0
  | item :: rest => item.size + sizeItems rest

/-- The size of entries. -/
def sizeEntries : List (Node × Node) → Nat
  | [] => 0
  | (key, value) :: rest => key.size + value.size + sizeEntries rest

end

/-- A tag of the document itself; values have none. -/
def isLocalTag (tag : Option (List Char)) : Bool :=
  match tag with
  | some ('!' :: _) => true
  | _ => false

end Node

/-- Steps that count the references they follow, and may fail. -/
abbrev Following := StateT Nat Option

/-- What references refer to, and how many may be followed. -/
structure References where
  marked : List (Nat × Node)
  limit : Nat

/-- The references of a document. -/
def References.ofRoot (root : Node) : References :=
  ⟨root.marked, 100 * root.size⟩

/-- A node itself, or the one that it refers to: of nodes with one mark the last. -/
def References.follow (refs : References) : Node → Following Node
  | .reference mark => do
    let count ← get
    guard (count < refs.limit)
    set (count + 1)
    (refs.marked.reverse.find? (·.1 = mark)).map Prod.snd
  | node => pure node

/-- The text of a key, which is a scalar. -/
def keyText (refs : References) (key : Node) : Following String := do
  match ← refs.follow key with
  | .scalar _ _ _ text => pure text
  | _ => failure

/-- Applies a reader to items, one by one. -/
def readEach {α β : Type} (read : α → Following β) : List α → Following (List β)
  | [] => pure []
  | a :: rest => do
    let b ← read a
    return b :: (← readEach read rest)

/-- An entry, by a reader of values. -/
def readEntry (refs : References) (read : Node → Following Json) (entry : Node × Node) :
    Following (String × Json) := do
  let name ← keyText refs entry.1
  return (name, ← read entry.2)

/-- The value of a scalar. -/
def scalarValue (tag : Option (List Char)) (plain : Bool) (text : String) : Option Json :=
  match tag with
  | some tag => Scalar.tagged? tag text
  | none => if plain then Scalar.meaning? text else some (.text text)

/-- The value of a node whose collections nest at most `depth` levels deep. -/
def readValue (refs : References) : Nat → Node → Following Json
  | depth, node => do
    match ← refs.follow node with
    | .reference _ => failure
    | .scalar _ tag plain text =>
      guard (!Node.isLocalTag tag)
      scalarValue tag plain text
    | .sequence _ tag items =>
      guard (!Node.isLocalTag tag)
      match depth with
      | 0 => failure
      | depth + 1 => return .array (← readEach (readValue refs depth) items)
    | .mapping _ tag entries =>
      guard (!Node.isLocalTag tag)
      match depth with
      | 0 => failure
      | depth + 1 => return .ofMembers (← readEach (readEntry refs (readValue refs depth)) entries)

/-- How deep collections may nest. -/
def maxDepth : Nat := 128

/-- The root of the only document of a text; `some none` if there is none. -/
def rootOfText? (text : String) : Option (Option Node) := do
  Node.ofTokens? (← Token.ofText? text)

/-- The value of a text; without a document it is null. -/
def valueOfText? (text : String) : Option Json := do
  match ← rootOfText? text with
  | none => return .null
  | some root => (readValue (.ofRoot root) maxDepth root).run' 0

/-- The entries of the mapping that a text holds, in the order of the text.  An empty document
    holds an empty mapping. -/
def membersOfText? (text : String) : Option (List (String × Json)) := do
  match ← rootOfText? text with
  | none | some (.scalar _ _ true "") => return []
  | some (.mapping mark tag entries) =>
    let refs := References.ofRoot (.mapping mark tag entries)
    (readEach (readEntry refs (readValue refs (maxDepth - 1))) entries).run' 0
  | some _ => none

end RecordRules.Yaml
