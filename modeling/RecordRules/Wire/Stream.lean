import RecordRules.Json.Reader
import RecordRules.Wire.Decode

/-! # Reading structures from a text as it goes

A structure can be read from the draft of a JSON text.  The members are taken as they come in
the text, so that of two faults the first one is reported, and a member that comes twice is
refused.

* `Stream.structure?`   reads a structure by its slots
* `Stream.list`         reads a list -/

namespace RecordRules.Stream

/-- The value of a draft, or the first fault in it. -/
def whole (d : Json.Draft) : Decoded Json :=
  d.toJson.mapError .syntaxError

/-- A draft seen from outside: a list or an object is not looked into. -/
def surface : Json.Draft → Decoded Json
  | .array _ _ => .ok (.array [])
  | .object _ _ => .ok (.object [])
  | d => whole d

/-- A part of a structure, and how much of its value is looked at before it is read. -/
structure Slot (σ : Type) extends Decode.Slot σ where
  view : Json.Draft → Decoded Json := surface

/-- Puts the draft of a value into a slot. -/
def Slot.fill {σ : Type} (slot : Slot σ) (d : Json.Draft) (s : σ) : Decoded σ := do
  slot.put (← slot.view d) s

/-- Puts members into their slots; `seen` lists the slots that are filled. -/
def fromMembers {σ : Type} (slots : List (Slot σ)) : List String → List (String × Json.Draft) →
    σ → Decoded (List String × σ)
  | seen, [], s => .ok (seen, s)
  | seen, (key, d) :: rest, s =>
    match slots.find? (·.name = key) with
    | none => do
      let _ ← whole d
      fromMembers slots seen rest s
    | some slot =>
      if seen.contains key then .error (.duplicateField key)
      else do fromMembers slots (key :: seen) rest (← slot.fill d s)

/-- Puts items into slots one by one; `index` counts the slots behind.  The result tells
    whether items are left over. -/
def fromItems {σ : Type} (expected : String) (cut : Option JsonFault) : List (Slot σ) → Nat →
    List Json.Draft → σ → Decoded (σ × Bool)
  | [], _, items, s => .ok (s, !items.isEmpty)
  | slot :: slots, index, [], s =>
    match cut with
    | some fault => .error (.syntaxError fault)
    | none =>
      if slot.required then .error (.invalidLength index expected)
      else fromItems expected cut slots (index + 1) [] s
  | slot :: slots, index, d :: items, s => do
    fromItems expected cut slots (index + 1) items (← slot.fill d s)

/-- The fault of a text in which no bracket follows the last item that a structure takes. -/
def afterLast : JsonFault → JsonFault
  | .endInList => .endInList
  | .trailingComma => .trailingComma
  | _ => .trailingCharacters

/-- A structure with the given slots. -/
def structure? {σ : Type} (title : String) (slots : List (Slot σ)) (start : σ) :
    Json.Draft → Decoded σ
  | .object members cut => do
    let (seen, s) ← fromMembers slots [] members start
    match cut with
    | some fault => .error (.syntaxError fault)
    | none =>
      match slots.find? fun slot => slot.required && !seen.contains slot.name with
      | some slot => .error (.missingField slot.name)
      | none => .ok s
  | .array items cut => do
    let expected := Decode.listTitle title slots.length
    let (s, more) ← fromItems expected cut slots 0 items start
    if more then .error (.syntaxError .trailingCharacters)
    else match cut with
      | some fault => .error (.syntaxError (afterLast fault))
      | none => .ok s
  | d => do Decode.wrongType (← whole d) ("struct " ++ title)

/-- Reads the items of a list. -/
def items {α : Type} (read : Json.Draft → Decoded α) : List Json.Draft → Decoded (List α)
  | [] => .ok []
  | d :: rest => do
    let a ← read d
    return a :: (← items read rest)

/-- A list. -/
def list {α : Type} (read : Json.Draft → Decoded α) : Json.Draft → Decoded (List α)
  | .array ds cut => do
    let values ← items read ds
    match cut with
    | some fault => .error (.syntaxError fault)
    | none => .ok values
  | d => do Decode.wrongType (← surface d) "a sequence"

/-- What a text holds, by a reader of its draft. -/
def ofText {α : Type} (read : Json.Draft → Decoded α) (text : String) : Decoded α := do
  let (draft, after) := Json.Draft.ofText text
  let a ← read draft
  match after with
  | some fault => .error (.syntaxError fault)
  | none => .ok a

end RecordRules.Stream
