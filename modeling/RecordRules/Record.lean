import RecordRules.Named
import RecordRules.Value

/-! # Records

A record is a list of named values in the order in which the names first came, each name
once.  Putting a value under a name that is there already keeps the place and replaces the
value.

* `Record.get?_put_self`, `Record.get?_put_of_ne`   looking up after putting
* `Record.names_put`                                the names after putting -/

namespace RecordRules

/-- Named values, each name once, in order. -/
structure Record where
  fields : List (String × Value)
  nodup : (fields.map Prod.fst).Nodup

namespace Record

/-- The record without fields. -/
def empty : Record := ⟨[], List.nodup_nil⟩

instance : Inhabited Record := ⟨empty⟩

/-- The names, in order. -/
def names (r : Record) : List String :=
  r.fields.map Prod.fst

/-- The values, in order. -/
def values (r : Record) : List Value :=
  r.fields.map Prod.snd

/-- How many fields there are. -/
def size (r : Record) : Nat :=
  r.fields.length

/-- The value under a name; `none` when the record has no such field. -/
def get? (r : Record) (name : String) : Option Value :=
  r.fields.lookup name

/-- Puts a value under a name. -/
def put (r : Record) (name : String) (value : Value) : Record :=
  ⟨Named.put name value r.fields, Named.nodup_put r.nodup⟩

/-- The record of a list of fields; of equal names the first place and the last value stay. -/
def ofList (fields : List (String × Value)) : Record :=
  fields.foldl (fun r (n, v) => r.put n v) empty

/-- Putting a value adds its name at the end, unless the record has it. -/
theorem names_put (r : Record) (name : String) (value : Value) :
    (r.put name value).names = if name ∈ r.names then r.names else r.names ++ [name] :=
  Named.map_fst_put name value r.fields

/-- A name finds the value that was put under it. -/
@[simp] theorem get?_put_self (r : Record) (name : String) (value : Value) :
    (r.put name value).get? name = some value := by
  simp [get?, put, Named.lookup_put]

/-- The other names find what they found before. -/
theorem get?_put_of_ne (r : Record) {name other : String} (value : Value) (h : other ≠ name) :
    (r.put name value).get? other = r.get? other := by
  simp [get?, put, Named.lookup_put, h]

end Record
end RecordRules
