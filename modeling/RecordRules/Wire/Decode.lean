import RecordRules.Wire.Fault
import RecordRules.Value

/-! # Reading domain values out of JSON

Readers for scalars, optional parts, named alternatives and structures.  A structure is
given by its slots; it may be written as an object, whose members are taken in order and
whose unknown members are ignored, or as a list, whose items fill the slots in order.

* `Decode.structure?`   reads a structure by its slots -/

namespace RecordRules

/-- What reading gives. -/
abbrev Decoded (α : Type) := Except DecodeFault α

namespace Decode

/-- The value is not of the expected kind. -/
def wrongType {α : Type} (j : Json) (expected : String) : Decoded α :=
  .error (.invalidType (.of j) expected)

/-- A text. -/
def text : Json → Decoded String
  | .text s => .ok s
  | j => wrongType j "a string"

/-- A truth value. -/
def boolean : Json → Decoded Bool
  | .boolean b => .ok b
  | j => wrongType j "a boolean"

/-- A real; integers are rounded to the nearest one. -/
def real : Json → Decoded Binary64
  | .integer n => .ok (.ofInt n)
  | .real x => .ok x
  | j => wrongType j "f64"

/-- An integer of 64 bits. -/
def integer : Json → Decoded Int64
  | .integer n =>
    if isSigned64 n then .ok (.ofInt n) else .error (.invalidValue (.integer n) "i64")
  | j => wrongType j "i64"

/-- A size: a non-negative integer. -/
def size : Json → Decoded Nat
  | .integer n => if 0 ≤ n then .ok n.toNat else .error (.invalidValue (.integer n) "usize")
  | j => wrongType j "usize"

/-- Null is an absent part. -/
def optional {α : Type} (read : Json → Decoded α) : Json → Decoded (Option α)
  | .null => .ok none
  | j => (read j).map some

/-- What a named alternative without content may carry when it is written as a member. -/
def unit (emptyObject : Bool) : Json → Decoded Unit
  | .null => .ok ()
  | .object [] => if emptyObject then .ok () else wrongType (.object []) "unit"
  | j => wrongType j "unit"

/-- One of several named alternatives: its name, or an object with the name as only key. -/
def named {α : Type} (emptyObject : Bool) (ofName : String → Decoded α) : Json → Decoded α
  | .text s => ofName s
  | .object [(name, content)] => do
    let a ← ofName name
    unit emptyObject content
    return a
  | .object _ => .error (.invalidValue .object "map with a single key")
  | j => wrongType j "string or map"

/-- The first of several readings that succeeds.  Why the others fail is not told. -/
def firstOf {α : Type} (type : String) (readings : List (Json → Decoded α)) (j : Json) :
    Decoded α :=
  match readings.findSome? fun read => (read j).toOption with
  | some a => .ok a
  | none => .error (.noVariant type)

/-- A scalar, read by trying its kinds one after the other. -/
def scalar : Json → Decoded Value :=
  firstOf "DataValue"
    [fun j => (unit false j).map fun _ => .null,
     fun j => (boolean j).map .boolean,
     fun j => (integer j).map .integer,
     fun j => (real j).map .real,
     fun j => (text j).map .text]

/-- A scalar: null, a truth value, an integer of 64 bits, any other number, or text. -/
def scalar? : Json → Option Value
  | .null => some .null
  | .boolean b => some (.boolean b)
  | .integer n =>
    if isSigned64 n then some (.integer (.ofInt n)) else some (.real (.ofInt n))
  | .real x => some (.real x)
  | .text s => some (.text s)
  | .array _ | .object _ => none

/-- Trying the kinds one after the other finds the scalar that a value is. -/
theorem scalar_eq (j : Json) :
    scalar j = (scalar? j).elim (.error (.noVariant "DataValue")) .ok := by
  cases j with
  | integer n =>
    -- an integer that is too large is the only number that comes to its turn twice
    by_cases hn : isSigned64 n
    · have hread : integer (.integer n) = .ok (.ofInt n) := if_pos hn
      have hscalar : scalar? (.integer n) = some (.integer (.ofInt n)) := if_pos hn
      rw [hscalar, scalar, firstOf]
      simp only [List.findSome?, hread]
      rfl
    · have hread : integer (.integer n) = .error (.invalidValue (.integer n) "i64") := if_neg hn
      have hscalar : scalar? (.integer n) = some (.real (.ofInt n)) := if_neg hn
      rw [hscalar, scalar, firstOf]
      simp only [List.findSome?, hread]
      rfl
  | object members => cases members <;> rfl
  | null | boolean _ | real _ | text _ | array _ => rfl

/-- A part of a structure: its name, whether it may be left out, and how it is put in. -/
structure Slot (σ : Type) where
  name : String
  required : Bool
  put : Json → σ → Decoded σ

/-- A part that may be left out. -/
def Slot.optional {σ α : Type} (name : String) (read : Json → Decoded α) (set : α → σ → σ) :
    Slot σ :=
  ⟨name, false, fun j s => (read j).map (set · s)⟩

/-- A part that has to be there. -/
def Slot.mandatory {σ α : Type} (name : String) (read : Json → Decoded α) (set : α → σ → σ) :
    Slot σ :=
  ⟨name, true, fun j s => (read j).map (set · s)⟩

/-- Puts members into their slots, in the order of the members. -/
def fromMembers {σ : Type} (slots : List (Slot σ)) : List (String × Json) → σ → Decoded σ
  | [], s => .ok s
  | (key, j) :: rest, s =>
    match slots.find? (·.name = key) with
    | some slot => do fromMembers slots rest (← slot.put j s)
    | none => fromMembers slots rest s

/-- The first mandatory slot without a member. -/
def missing? {σ : Type} (slots : List (Slot σ)) (members : List (String × Json)) :
    Option String :=
  (slots.find? fun slot => slot.required && !members.any (·.1 = slot.name)).map Slot.name

/-- Puts items into slots one by one; `index` counts the slots behind.  A mandatory slot
    without an item fails, and the result tells the items that are left over. -/
def fromItems {σ : Type} (expected : String) : List (Slot σ) → Nat → List Json → σ →
    Decoded (σ × List Json)
  | [], _, items, s => .ok (s, items)
  | slot :: slots, index, [], s =>
    if slot.required then .error (.invalidLength index expected)
    else fromItems expected slots (index + 1) [] s
  | slot :: slots, index, j :: items, s => do
    fromItems expected slots (index + 1) items (← slot.put j s)

/-- The description of a structure that is written as a list. -/
def listTitle (title : String) (count : Nat) : String :=
  "struct " ++ title ++ " with " ++ toString count ++
    (if count = 1 then " element" else " elements")

/-- A structure with the given slots. -/
def structure? {σ : Type} (title : String) (slots : List (Slot σ)) (start : σ) :
    Json → Decoded σ
  | .object members => do
    let s ← fromMembers slots members start
    match missing? slots members with
    | some name => .error (.missingField name)
    | none => .ok s
  | .array items => do
    let (s, rest) ← fromItems (listTitle title slots.length) slots 0 items start
    if rest.isEmpty then .ok s
    else .error (.invalidLength items.length "fewer elements in array")
  | j => wrongType j ("struct " ++ title)

end Decode
end RecordRules
