import RecordRules.Json.Basic
import RecordRules.Named

/-!
# Sorting the members of an object

`Json.ofMembers` sorts members by key.  Of members with distinct keys it loses none, so what is
found under a key does not depend on the order in which they came.

## Key results

- `Json.mem_of_mem_sorted`: what is left after sorting was there before
- `Json.sorted_perm`: of members with distinct keys sorting loses none
- `Json.get?_ofMembers`: so all of them are found in the sorted object
-/

namespace RecordRules.Json

/-- Inserting a member leaves the others as they are. -/
theorem mem_insertMember {key : String} {value : Json} {ms : List (String × Json)}
    {m : String × Json} (hm : m ∈ insertMember key value ms) : m = (key, value) ∨ m ∈ ms := by
  induction ms with
  | nil => simpa [insertMember] using hm
  | cons first ms ih =>
    obtain ⟨k, v⟩ := first
    -- the member takes its place in front, replaces one of its key, or goes further back
    unfold insertMember at hm
    split at hm
    · simpa using hm
    · split at hm
      · rcases List.mem_cons.mp hm with h | h
        · exact .inl h
        · exact .inr (List.mem_cons_of_mem _ h)
      · rcases List.mem_cons.mp hm with h | h
        · exact .inr (h ▸ List.mem_cons_self)
        · exact (ih h).imp_right (List.mem_cons_of_mem _)

/-- A member with a new key is added to the others. -/
theorem insertMember_perm {key : String} {value : Json} {ms : List (String × Json)}
    (hkey : key ∉ ms.map Prod.fst) : (insertMember key value ms).Perm ((key, value) :: ms) := by
  induction ms with
  | nil => exact .refl _
  | cons first ms ih =>
    obtain ⟨k, v⟩ := first
    simp only [List.map_cons, List.mem_cons, not_or] at hkey
    unfold insertMember
    split
    · exact .refl _
    -- the key is new, so no member is replaced
    · rw [if_neg hkey.1]
      exact ((ih hkey.2).cons _).trans (.swap _ _ _)

/-- Every member of a sorted object is one of those that were sorted. -/
private theorem mem_foldl_insertMember {ms sorted : List (String × Json)} {m : String × Json}
    (hm : m ∈ ms.foldl (fun sorted (k, v) => insertMember k v sorted) sorted) :
    m ∈ ms ∨ m ∈ sorted := by
  -- the sorted members grow, so the induction is for all of them
  induction ms generalizing sorted with
  | nil => exact .inr hm
  | cons first ms ih =>
    obtain ⟨key, value⟩ := first
    rcases ih hm with h | h
    · exact .inl (List.mem_cons_of_mem _ h)
    · rcases mem_insertMember h with rfl | h
      · exact .inl List.mem_cons_self
      · exact .inr h

/-- Members with keys that are distinct and new are all added to the sorted ones. -/
private theorem foldl_insertMember_perm {ms sorted : List (String × Json)}
    (hn : ((ms ++ sorted).map Prod.fst).Nodup) :
    (ms.foldl (fun sorted (k, v) => insertMember k v sorted) sorted).Perm (ms ++ sorted) := by
  induction ms generalizing sorted with
  | nil => exact .refl _
  | cons first ms ih =>
    obtain ⟨key, value⟩ := first
    rw [List.cons_append, List.map_cons, List.nodup_cons, List.map_append, List.mem_append,
      not_or] at hn
    -- inserting one member is a permutation, and the keys stay distinct under it
    have hone : (insertMember key value sorted).Perm ((key, value) :: sorted) :=
      insertMember_perm hn.1.2
    have hall : (ms ++ insertMember key value sorted).Perm ((key, value) :: (ms ++ sorted)) :=
      (hone.append_left ms).trans List.perm_middle
    refine (ih ?_).trans hall
    rw [(hall.map Prod.fst).nodup_iff, List.map_cons, List.nodup_cons, List.map_append,
      List.mem_append, not_or]
    exact hn

/-- The members of a sorted object. -/
def sorted (ms : List (String × Json)) : List (String × Json) :=
  ms.foldl (fun sorted (k, v) => insertMember k v sorted) []

theorem ofMembers_eq (ms : List (String × Json)) : ofMembers ms = .object (sorted ms) :=
  rfl

theorem mem_of_mem_sorted {ms : List (String × Json)} {m : String × Json}
    (hm : m ∈ sorted ms) : m ∈ ms := by
  simpa using mem_foldl_insertMember hm

/-- Sorting members with distinct keys loses none. -/
theorem sorted_perm {ms : List (String × Json)} (hn : (ms.map Prod.fst).Nodup) :
    (sorted ms).Perm ms := by
  have h := @foldl_insertMember_perm ms [] (by rwa [List.append_nil])
  rwa [List.append_nil] at h

/-- Among members with distinct keys every member is found, sorted as they are. -/
theorem get?_ofMembers {key : String} {value : Json} {ms : List (String × Json)}
    (hn : (ms.map Prod.fst).Nodup) (hm : (key, value) ∈ ms) :
    (ofMembers ms).get? key = some value := by
  -- a permutation keeps the keys distinct, and with distinct keys membership decides
  have hperm : (sorted ms).Perm ms := sorted_perm hn
  rw [ofMembers_eq]
  exact Named.lookup_of_mem ((hperm.map Prod.fst).nodup_iff.mpr hn) (hperm.mem_iff.mpr hm)

end RecordRules.Json
