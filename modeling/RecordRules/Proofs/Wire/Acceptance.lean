import Mathlib.Data.List.Forall2
import RecordRules.Proofs.Except
import RecordRules.Rule.CheckCodec

/-!
# Which values are read

A structure whose parts may all be left out is refused for one reason only: some part of it is
refused.  So a table that tells which values every key permits tells which structures are read.

## Key results

- `optional_text_isOk` and its siblings: the shapes of the parts
- `fromMembers_isOk`, `fromItems_ok`: members and items are read exactly when each one is
- `structure?_isOk`: so is a structure without mandatory parts
-/

namespace RecordRules

/-! ### Shapes of parts -/

namespace Json

/-- A text, or nothing. -/
def isTextOrNull : Json → Bool
  | .null | .text _ => true
  | _ => false

/-- A number, or nothing. -/
def isNumberOrNull : Json → Bool
  | .null | .integer _ | .real _ => true
  | _ => false

/-- Anything but a list and an object. -/
def isScalar : Json → Bool
  | .array _ | .object _ => false
  | _ => true

/-- A name, alone or as the only key of an object that holds nothing under it. -/
def isName : Json → Bool
  | .text _ | .object [(_, .null)] | .object [(_, .object [])] => true
  | _ => false

/-- A name, or nothing. -/
def isNameOrNull : Json → Bool
  | .null => true
  | j => j.isName

end Json

namespace Decode

variable {σ α : Type}

@[simp] theorem isOk_ok (a : α) : (Except.ok a : Decoded α).isOk = true :=
  rfl

@[simp] theorem isOk_error (fault : DecodeFault) : (Except.error fault : Decoded α).isOk = false :=
  rfl

@[simp] theorem isOk_map {β : Type} (x : Decoded α) (f : α → β) : (x.map f).isOk = x.isOk := by
  cases x <;> rfl

/-- An optional part is read as the part is, unless it is null. -/
theorem optional_isOk (read : Json → Decoded α) {j : Json} (hj : j ≠ .null) :
    (optional read j).isOk = (read j).isOk := by
  unfold optional
  split
  · exact absurd rfl hj
  · exact isOk_map _ _

theorem optional_text_isOk (j : Json) : (optional text j).isOk = j.isTextOrNull := by
  cases j <;> rfl

theorem optional_real_isOk (j : Json) : (optional real j).isOk = j.isNumberOrNull := by
  cases j <;> rfl

/-- An optional scalar is read from anything but a list and an object. -/
theorem optional_scalar_isOk (j : Json) : (optional scalar j).isOk = j.isScalar := by
  cases j with
  | integer n =>
    -- an integer that is no word is read too, as a real
    by_cases hn : isSigned64 n <;> simp [optional, scalar_eq, scalar?, Json.isScalar, hn]
  | object members => cases members <;> rfl
  | _ => rfl

/-- One of some names is read from a text, or from an object with a single key. -/
theorem named_isOk (ofName : String → α) (j : Json) :
    (named true (.ok ∘ ofName) j).isOk = j.isName := by
  cases j with
  | object ms =>
    -- an object names something by its only key, with nothing under it
    match ms with
    | [] => rfl
    | (_, content) :: _ :: _ =>
      cases content with
      | object content => cases content <;> rfl
      | _ => rfl
    | [(name, content)] =>
      cases content with
      | object content => cases content <;> rfl
      | _ => rfl
  | _ => rfl

/-- An optional name is read from a name or from null. -/
theorem optional_named_isOk (ofName : String → α) (j : Json) :
    (optional (named true (.ok ∘ ofName)) j).isOk = j.isNameOrNull := by
  cases j with
  | null => rfl
  | _ => exact (optional_isOk _ (by nofun)).trans (named_isOk ofName _)

/-! ### Structures -/

/-- A slot takes exactly the values with a property, whatever they are put into. -/
def Slot.Takes (slot : Slot σ) (permitted : Json → Bool) : Prop :=
  ∀ j s, (slot.put j s).isOk = permitted j

/-- A slot takes what its part is read from. -/
theorem Slot.takes_of_read {name : String} {required : Bool} {read : Json → Decoded α}
    {set : α → σ → σ} {permitted : Json → Bool} (h : ∀ j, (read j).isOk = permitted j) :
    Slot.Takes ⟨name, required, fun j s => (read j).map (set · s)⟩ permitted :=
  fun j _ => (isOk_map _ _).trans (h j)

/-- The values that the keys of a structure permit; other keys permit every value. -/
abbrev Table := List (String × (Json → Bool))

/-- Whether a value may stand under a key. -/
def Table.permits (table : Table) (key : String) (j : Json) : Bool :=
  match table.find? (·.1 = key) with
  | some entry => entry.2 j
  | none => true

/-- What a structure with such parts can be read from. -/
def Table.fits (table : Table) : Json → Bool
  | .object ms => ms.all fun m => table.permits m.1 m.2
  | .array items => (table.zip items).all (fun e => e.1.2 e.2) && items.length ≤ table.length
  | _ => false

/-- The slots may all be left out, and each takes what the table permits under its name. -/
def Slot.Follow (slots : List (Slot σ)) (table : Table) : Prop :=
  List.Forall₂ (fun slot entry => slot.name = entry.1 ∧ slot.required = false ∧ slot.Takes entry.2)
    slots table

variable {slots : List (Slot σ)} {table : Table}

/-- A key has a slot when it has an entry, and the slot takes what the entry permits. -/
private theorem find?_of_follow (h : Slot.Follow slots table) (key : String) :
    (slots.find? (·.name = key)).elim (table.find? (·.1 = key) = none) fun slot =>
      slot.Takes (table.permits key) := by
  induction h with
  | nil => rfl
  | @cons slot entry slots table hentry _ ih =>
    obtain ⟨hname, -, htakes⟩ := hentry
    -- slots and entries stand side by side under the same names, so both searches go equally far
    by_cases hkey : entry.1 = key
    · have hslot : slot.name = key := hname.trans hkey
      rw [List.find?_cons_of_pos (by simpa using hslot)]
      intro j s
      -- the slot is the first with its name, and so is the entry
      simp [Table.permits, hkey, htakes j s]
    · have hslot : slot.name ≠ key := fun heq => hkey (hname.symm.trans heq)
      have hpermits : Table.permits (entry :: table) key = Table.permits table key := by
        funext j
        simp [Table.permits, hkey]
      rw [List.find?_cons_of_neg (by simpa using hslot),
        List.find?_cons_of_neg (by simpa using hkey), hpermits]
      exact ih

/-- Members are read exactly when each of them is permitted. -/
theorem fromMembers_isOk (h : Slot.Follow slots table) (ms : List (String × Json)) (s : σ) :
    (fromMembers slots ms s).isOk = ms.all fun m => table.permits m.1 m.2 := by
  -- a member that is refused ends the reading, whatever has been put in before
  induction ms generalizing s with
  | nil => rfl
  | cons m ms ih =>
    obtain ⟨key, j⟩ := m
    have hkey := find?_of_follow h key
    simp only [fromMembers, List.all_cons]
    cases hf : slots.find? (·.name = key) with
    | none =>
      rw [hf] at hkey
      have hnone : table.find? (·.1 = key) = none := hkey
      rw [Table.permits, hnone]
      exact ih s
    | some slot =>
      rw [hf] at hkey
      have hput : (slot.put j s).isOk = table.permits key j := hkey j s
      dsimp only
      rw [← hput]
      cases slot.put j s with
      | error fault => rfl
      | ok t => exact ih t

/-- Items are read exactly when each of them is permitted in its slot; the rest is left over. -/
theorem fromItems_ok (h : Slot.Follow slots table) (expected : String) (index : Nat)
    (items : List Json) (s : σ) :
    if (table.zip items).all (fun e => e.1.2 e.2) then
      ∃ t, fromItems expected slots index items s = .ok (t, items.drop table.length)
    else ∃ fault, fromItems expected slots index items s = .error fault := by
  -- slots and items are used up side by side, and items behind the last slot are left
  induction h generalizing index items s with
  | nil => exact ⟨s, rfl⟩
  | @cons slot entry slots table hentry _ ih =>
    obtain ⟨-, hoptional, htakes⟩ := hentry
    cases items with
    | nil =>
      have hnil := ih (index + 1) [] s
      simp only [List.zip_nil_right, List.all_nil, if_true, List.drop_nil] at hnil ⊢
      rw [fromItems, hoptional]
      exact hnil
    | cons j items =>
      have hput := htakes j s
      rw [fromItems, List.zip_cons_cons, List.all_cons, ← hput]
      cases slot.put j s with
      | error fault => exact ⟨fault, rfl⟩
      | ok t => exact ih (index + 1) items t

/-- Nothing is missing where every slot may be left out. -/
theorem missing?_of_follow (h : Slot.Follow slots table) (ms : List (String × Json)) :
    missing? slots ms = none := by
  induction h with
  | nil => rfl
  | cons hentry _ ih =>
    rw [missing?, List.find?_cons_of_neg (by simp [hentry.2.1])]
    exact ih

/-- A structure without mandatory parts is read exactly when all its parts are permitted. -/
theorem structure?_isOk (h : Slot.Follow slots table) (title : String) (start : σ) (j : Json) :
    (structure? title slots start j).isOk = table.fits j := by
  cases j with
  | object ms =>
    -- nothing can be missing, so only the members decide
    have hms := fromMembers_isOk h ms start
    rw [Table.fits, ← hms, structure?, missing?_of_follow h]
    cases fromMembers slots ms start <;> rfl
  | array items =>
    have hitems := fromItems_ok h (listTitle title slots.length) 0 items start
    rw [Table.fits, structure?]
    -- a list may not be longer than the slots, and its items have to be permitted
    split at hitems
    · next hall =>
      obtain ⟨t, ht⟩ := hitems
      rw [ht, hall, Bool.true_and]
      by_cases hlength : items.length ≤ table.length
      · simp [bind, Except.bind, hlength]
      · simp [bind, Except.bind, hlength]
    · next hall =>
      obtain ⟨fault, hfault⟩ := hitems
      rw [hfault]
      simp only [Bool.not_eq_true] at hall
      rw [hall]
      rfl
  | _ => rfl

end Decode
end RecordRules
