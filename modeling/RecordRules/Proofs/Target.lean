import Mathlib.Data.List.Nodup
import RecordRules.Target

/-!
# Resolving a target is filtering

A target that is the name of a field is resolved by looking that name up, and any other target
by going through the names of the record.  Since a record has each name once, both ways come
to the same: the names that the target selects, in the order of the record.

## Key results

- `Record.isSome_get?`: what is found are the names of the record
- `Record.get?_of_mem`: under its name a field is found with its own value
- `Target.resolve_eq_filter`: resolving a target is filtering the names
- `Target.isSelection_iff`: there is one list of the names that a target selects
- `Target.resolves_selected_names`: patterns are resolved to that list
-/

namespace RecordRules

/-! ### Looking fields up -/

namespace Record

/-- A name is found exactly when it is one of the names of the record. -/
theorem isSome_get? (r : Record) (name : String) : (r.get? name).isSome ↔ name ∈ r.names :=
  Named.isSome_lookup_iff

/-- Under the name of a field its own value is found, since no other field has that name. -/
theorem get?_of_mem {r : Record} {name : String} {v : Value} (h : (name, v) ∈ r.fields) :
    r.get? name = some v :=
  Named.lookup_of_mem r.nodup h

end Record

/-! ### Resolving targets -/

namespace Target

/-- Resolving a target gives the names of the record that it selects, in their order. -/
theorem resolve_eq_filter (target : Target) (r : Record) :
    target.resolve r = r.names.filter target.selects := by
  cases target with
  | all | glob pieces | invalid => rfl
  | exact name =>
    -- the names are distinct, so filtering keeps at most one of them
    have hcount : r.names.count name = if name ∈ r.names then 1 else 0 := r.nodup.count
    have hfilter : r.names.filter (name == ·) = List.replicate (r.names.count name) name := by
      rw [← List.filter_beq]
      exact List.filter_congr fun _ _ => BEq.comm
    show (if (r.get? name).isSome then [name] else []) = r.names.filter (name == ·)
    -- both sides are the name or nothing, by whether it is there
    rw [hfilter, hcount]
    simp only [r.isSome_get? name]
    split <;> rfl

/-- The names of a record that a target selects: in the order of the record, and each at most
    once. -/
structure IsSelection (target : Target) (r : Record) (names : List String) : Prop where
  sublist : names.Sublist r.names
  nodup : names.Nodup
  mem_iff (name : String) : name ∈ names ↔ name ∈ r.names ∧ target.selects name = true

/-- There is one such list, since the order of the record leaves no choice. -/
theorem isSelection_iff {target : Target} {r : Record} {names : List String} :
    target.IsSelection r names ↔ names = r.names.filter target.selects := by
  constructor
  · intro h
    have hself : names.filter target.selects = names :=
      List.filter_eq_self.mpr fun name hname => ((h.mem_iff name).mp hname).2
    have hsublist : names.Sublist (r.names.filter target.selects) := by
      rw [← hself]
      exact h.sublist.filter target.selects
    -- a part of the other list that has the same members is all of it
    have hmem (name : String) : name ∈ names ↔ name ∈ r.names.filter target.selects := by
      rw [h.mem_iff, List.mem_filter]
    have hperm : names.Perm (r.names.filter target.selects) :=
      (List.perm_ext_iff_of_nodup h.nodup (r.nodup.filter _)).mpr hmem
    exact hsublist.eq_of_length hperm.length_eq
  · rintro rfl
    exact ⟨List.filter_sublist, r.nodup.filter _, fun name => List.mem_filter⟩

/-- Whatever its pattern is, a target is resolved to the names that it selects.  Looking a name up
    comes to the same as going through all names, and a target that is invalid selects nothing. -/
theorem resolves_selected_names (pattern : String) (r : Record) :
    (∀ names, (ofPattern pattern).IsSelection r names ↔ names = (ofPattern pattern).resolve r) ∧
    (∀ name, (exact name).resolve r = r.names.filter (exact name).selects) ∧
    (∀ name, invalid.selects name = false) ∧ invalid.resolve r = [] := by
  refine ⟨fun names => ?_, fun name => resolve_eq_filter (exact name) r, fun _ => rfl, ?_⟩
  · rw [isSelection_iff, resolve_eq_filter]
  · rw [resolve_eq_filter, List.filter_eq_nil_iff]
    exact fun _ _ => Bool.false_ne_true

end Target
end RecordRules
