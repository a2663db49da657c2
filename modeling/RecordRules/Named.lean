/-!
# Named values

The fields of a record, the functions of a registry and the members of an object are lists of
named values.  A value put under a name that is there already takes the place of the first
value of that name; under a new name it comes last.  Looking a name up is `List.lookup`.

* `Named.map_fst_put`      the names after putting
* `Named.lookup_put`       looking up after putting
* `Named.lookup_of_mem`    among distinct names every value is found
-/

namespace RecordRules
namespace Named

variable {α : Type}

/-- Puts a value under a name, in the place of the first value of that name. -/
def put (name : String) (value : α) : List (String × α) → List (String × α)
  | [] => [(name, value)]
  | (n, v) :: rest => if n = name then (n, value) :: rest else (n, v) :: put name value rest

/-- Putting a value adds its name at the end, unless it is there. -/
theorem map_fst_put (name : String) (value : α) (fields : List (String × α)) :
    (put name value fields).map Prod.fst =
      if name ∈ fields.map Prod.fst then fields.map Prod.fst
      else fields.map Prod.fst ++ [name] := by
  induction fields with
  | nil => simp [put]
  | cons f rest ih =>
    obtain ⟨n, v⟩ := f
    by_cases h : n = name
    · simp [put, h]
    · simp only [put, h, if_false, List.map_cons, ih, List.mem_cons]
      by_cases hm : name ∈ rest.map Prod.fst
      · simp [hm]
      · simp [hm, Ne.symm h]

/-- Putting a value keeps the names distinct. -/
theorem nodup_put {name : String} {value : α} {fields : List (String × α)}
    (h : (fields.map Prod.fst).Nodup) : ((put name value fields).map Prod.fst).Nodup := by
  rw [map_fst_put]
  split
  · exact h
  · next hm =>
    rw [List.nodup_append]
    refine ⟨h, by simp, ?_⟩
    intro a ha b hb
    simp only [List.mem_singleton] at hb
    rintro rfl
    exact hm (hb ▸ ha)

/-- The first value is found under its own name and passed over under all others. -/
theorem lookup_cons (name other : String) (value : α) (rest : List (String × α)) :
    ((name, value) :: rest).lookup other =
      if name = other then some value else rest.lookup other := by
  by_cases h : name = other
  · rw [if_pos h, h, List.lookup_cons_self]
  · rw [if_neg h, List.lookup_cons, beq_eq_false_iff_ne.mpr (Ne.symm h)]

/-- After putting a value its name finds it, and the other names find what they found. -/
theorem lookup_put (name other : String) (value : α) (fields : List (String × α)) :
    (put name value fields).lookup other =
      if other = name then some value else fields.lookup other := by
  induction fields with
  | nil => simp [put, lookup_cons, eq_comm]
  | cons f rest ih =>
    obtain ⟨n, v⟩ := f
    -- the first value is replaced if it has the name that is put, and found if it has the name
    -- that is asked for; these may be different names
    by_cases hput : n = name <;> by_cases hask : n = other <;>
      simp_all [put, lookup_cons, eq_comm]

/-- A value under a new name comes last. -/
theorem put_of_notMem {name : String} {fields : List (String × α)} (value : α)
    (h : name ∉ fields.map Prod.fst) : put name value fields = fields ++ [(name, value)] := by
  induction fields with
  | nil => rfl
  | cons field fields ih =>
    rw [List.map_cons, List.mem_cons, not_or] at h
    rw [put, if_neg (Ne.symm h.1), ih h.2, List.cons_append]

/-- What is there after putting a value was put or was there before. -/
theorem mem_put {name : String} {value : α} {fields : List (String × α)} {f : String × α}
    (hf : f ∈ put name value fields) : f = (name, value) ∨ f ∈ fields := by
  induction fields with
  | nil => exact .inl (List.mem_singleton.mp hf)
  | cons first rest ih =>
    obtain ⟨n, v⟩ := first
    unfold put at hf
    split at hf
    · next hname =>
      rcases List.mem_cons.mp hf with rfl | hf
      · exact .inl (by rw [hname])
      · exact .inr (List.mem_cons_of_mem _ hf)
    · rcases List.mem_cons.mp hf with rfl | hf
      · exact .inr List.mem_cons_self
      · exact (ih hf).imp_right (List.mem_cons_of_mem _)

/-! ### Looking up -/

/-- Something is found under the names that are there. -/
theorem isSome_lookup_iff {name : String} {fields : List (String × α)} :
    (fields.lookup name).isSome ↔ name ∈ fields.map Prod.fst := by
  rw [List.lookup_isSome_iff, List.mem_map]
  simp only [beq_iff_eq, @eq_comm _ name]

/-- Nothing is found under a name that is not there. -/
theorem lookup_eq_none {name : String} {fields : List (String × α)}
    (h : name ∉ fields.map Prod.fst) : fields.lookup name = none := by
  rwa [← isSome_lookup_iff, Option.not_isSome_iff_eq_none] at h

/-- What is found under a name is there under that name. -/
theorem mem_of_lookup {name : String} {value : α} {fields : List (String × α)}
    (h : fields.lookup name = some value) : (name, value) ∈ fields := by
  obtain ⟨before, after, rfl, -⟩ := List.lookup_eq_some_iff.mp h
  exact List.mem_append_cons_self

/-- Among distinct names every value is found, since no earlier one has its name. -/
theorem lookup_of_mem {name : String} {value : α} {fields : List (String × α)}
    (hn : (fields.map Prod.fst).Nodup) (h : (name, value) ∈ fields) :
    fields.lookup name = some value := by
  obtain ⟨before, after, rfl⟩ := List.append_of_mem h
  refine List.lookup_eq_some_iff.mpr ⟨before, after, rfl, fun f hf => ?_⟩
  rw [List.map_append, List.nodup_append] at hn
  have hne : f.1 ≠ name :=
    hn.2.2 f.1 (List.mem_map_of_mem hf) name (List.mem_map_of_mem List.mem_cons_self)
  exact bne_iff_ne.mpr (Ne.symm hne)

end Named
end RecordRules
