import Mathlib.Data.List.Nodup
import Mathlib.Data.List.Pairwise
import RecordRules.Unicode.CaseFolding
import RecordRules.Word

/-!
# Case folding puts characters into classes

The table of simple case folding is a list of classes, and no character is in two of them.  So
the entries that are searched have different keys, the search finds every one of them, and
folding together is being in one class.

## Key results

- `CaseFolding.nodup_classes`: no character is in two classes
- `CaseFolding.small_of_mem_classes`: a class has four members at most
- `CaseFolding.mem_others`: what the search finds are the other members of the class
- `foldsTogether_iff`: characters fold together when they are equal or in one class
-/

namespace RecordRules

/-! ## Tables in order -/

section

variable {α : Type}

/-- Sorting by a key puts the keys in order. -/
theorem pairwise_mergeSort_key (key : α → Nat) (l : List α) :
    (l.mergeSort fun a b => key a ≤ key b).Pairwise fun a b => key a ≤ key b := by
  refine List.Pairwise.imp of_decide_eq_true (List.pairwise_mergeSort ?_ ?_ l)
  · intro a b c hab hbc
    simp only [decide_eq_true_eq] at hab hbc ⊢
    exact Nat.le_trans hab hbc
  · intro a b
    simp only [Bool.or_eq_true, decide_eq_true_eq]
    exact Nat.le_total (key a) (key b)

/-- What holds of a list in order holds of the entries at two places. -/
theorem rel_of_pairwise {R : α → α → Prop} {l : List α} (h : l.Pairwise R) {i j : Nat}
    (hij : i < j) {a b : α} (ha : l[i]? = some a) (hb : l[j]? = some b) : R a b := by
  obtain ⟨hi, rfl⟩ := List.getElem?_eq_some_iff.mp ha
  obtain ⟨hj, rfl⟩ := List.getElem?_eq_some_iff.mp hb
  exact List.pairwise_iff_getElem.mp h i j hi hj hij

end

namespace CaseFolding

/-! ## The classes of the table -/

/-- The classes of characters that fold together. -/
def classes : List (List Nat) :=
  let numbers := BaseLetters.decode classesText
  classesFrom numbers.length 0 numbers

/-- Equal up to simple case folding: equal, or in one class of the table. -/
def Alike (a b : Char) : Prop :=
  a = b ∨ ∃ members ∈ classes, a.toNat ∈ members ∧ b.toNat ∈ members

/-- Whether the numbers of a list are different from each other and from those that are marked
    in a mask. -/
def areFresh (mask : Nat) : List Nat → Bool
  | [] => true
  | n :: rest => !mask.testBit n && areFresh (mask ||| twoTo n) rest

theorem testBit_twoTo (m n : Nat) : (twoTo m).testBit n = decide (m = n) :=
  Nat.testBit_two_pow

/-- Numbers that are found to be fresh are different, and none of them was marked before. -/
theorem nodup_of_areFresh {mask : Nat} {ns : List Nat} (h : areFresh mask ns = true) :
    ns.Nodup ∧ ∀ n ∈ ns, mask.testBit n = false := by
  -- the mask has a bit for every number that came before
  induction ns generalizing mask with
  | nil => exact ⟨List.nodup_nil, nofun⟩
  | cons m rest ih =>
    rw [areFresh, Bool.and_eq_true, Bool.not_eq_true'] at h
    obtain ⟨hnodup, hfresh⟩ := ih h.2
    -- the rest is different from what was marked, and from the number that is marked now
    have hrest : ∀ n ∈ rest, mask.testBit n = false ∧ m ≠ n := by
      intro n hn
      have hbit := hfresh n hn
      rw [Nat.testBit_or, Bool.or_eq_false_iff, testBit_twoTo, decide_eq_false_iff_not] at hbit
      exact hbit
    refine ⟨List.nodup_cons.mpr ⟨fun hm => (hrest m hm).2 rfl, hnodup⟩, ?_⟩
    rw [List.forall_mem_cons]
    exact ⟨h.1, fun n hn => (hrest n hn).1⟩

/-- The letters of joined texts are those of the first and of the others. -/
theorem toList_join_cons {s : String} {rest : List String} {cs ds : List Char}
    (hs : s = String.ofList cs) (hrest : (String.join rest).toList = ds) :
    (String.join (s :: rest)).toList = cs ++ ds := by
  rw [String.join_cons, String.toList_append, hs, String.toList_ofList, hrest]

/-- Whether lists of numbers can be classes: no number comes twice, and there are four members
    of a class at most, all of them code points. -/
def areClasses (lists : List (List Nat)) : Bool :=
  areFresh 0 lists.flatten &&
    lists.all fun members => members.length ≤ 4 && members.all (· ≤ 0x10FFFF)

/-- The lists of the table can be classes. -/
theorem areClasses_classes : areClasses classes = true := by
  -- the letters of the table are written out before anything is computed from them
  have hletters : ∃ letters, classesText.toList = letters ∧
      areClasses (classesFrom (BaseLetters.decodeFrom 0 letters).length 0
        (BaseLetters.decodeFrom 0 letters)) = true := by
    apply Exists.intro
    constructor
    · unfold classesText
      repeat (apply toList_join_cons; case hs => rfl)
      exact rfl
    · decide +kernel
  obtain ⟨letters, htext, hclasses⟩ := hletters
  unfold classes BaseLetters.decode
  rw [htext]
  exact hclasses

/-- No character is in two classes. -/
theorem nodup_classes : classes.flatten.Nodup :=
  (nodup_of_areFresh (Bool.and_eq_true_iff.mp areClasses_classes).1).1

/-- Classes are small, and their members are code points. -/
theorem small_of_mem_classes {members : List Nat} (h : members ∈ classes) :
    members.length ≤ 4 ∧ ∀ n ∈ members, n ≤ 0x10FFFF := by
  have hsmall := List.all_eq_true.mp (Bool.and_eq_true_iff.mp areClasses_classes).2 members h
  rw [Bool.and_eq_true, decide_eq_true_eq, List.all_eq_true] at hsmall
  exact ⟨hsmall.1, fun n hn => of_decide_eq_true (hsmall.2 n hn)⟩

/-- A character is in one class only. -/
theorem eq_of_mem_classes {a b : List Nat} (ha : a ∈ classes) (hb : b ∈ classes) {n : Nat}
    (hna : n ∈ a) (hnb : n ∈ b) : a = b := by
  by_contra hne
  -- two classes of a list without repetition have nothing in common
  have hdisjoint : classes.Pairwise List.Disjoint := (List.nodup_flatten.mp nodup_classes).2
  have hsymm : Std.Symm (List.Disjoint : List Nat → List Nat → Prop) :=
    ⟨fun _ _ h _ hb ha => h ha hb⟩
  exact hdisjoint.forall ha hb hne hna hnb

/-! ## The entries -/

/-- A character with the other members of its class. -/
def pairs : List (Nat × List Nat) :=
  classes.flatMap fun members => members.map fun n => (n, members.filter (· ≠ n))

/-- The entries are the pairs in order. -/
theorem toList_entries : entries.toList = pairs.mergeSort fun a b => a.1 ≤ b.1 := by
  unfold entries pairs classes
  exact List.toList_toArray

/-- A character has an entry if it is in a class, and the entry holds the other members. -/
theorem mem_entries {n : Nat} {others : List Nat} :
    (n, others) ∈ entries.toList ↔
      ∃ members ∈ classes, n ∈ members ∧ others = members.filter (· ≠ n) := by
  rw [toList_entries, List.mem_mergeSort, pairs, List.mem_flatMap]
  refine exists_congr fun members => and_congr_right fun _ => ?_
  rw [List.mem_map]
  constructor
  · rintro ⟨m, hm, heq⟩
    obtain ⟨rfl, rfl⟩ := Prod.mk.inj heq
    exact ⟨hm, rfl⟩
  · rintro ⟨hn, rfl⟩
    exact ⟨n, hn, rfl⟩

theorem map_fst_pairs : pairs.map Prod.fst = classes.flatten := by
  unfold pairs
  rw [List.map_flatMap, ← List.flatMap_id]
  congr 1
  funext members
  rw [List.map_map]
  exact List.map_id members

/-- The keys of the entries ascend. -/
theorem entries_ascending : entries.toList.Pairwise fun a b => a.1 < b.1 := by
  have hsorted : entries.toList.Pairwise fun a b => a.1 ≤ b.1 := by
    rw [toList_entries]
    exact pairwise_mergeSort_key Prod.fst pairs
  have hnodup : (entries.toList.map Prod.fst).Nodup := by
    rw [toList_entries, ((List.mergeSort_perm ..).map Prod.fst).nodup_iff, map_fst_pairs]
    exact nodup_classes
  rw [List.Nodup, List.pairwise_map] at hnodup
  exact (hsorted.and hnodup).imp fun h => Nat.lt_of_le_of_ne h.1 h.2

/-! ## Searching -/

section Search

variable {table : Array (Nat × List Nat)}

/-- The keys of a table ascend with their places. -/
theorem key_lt_key (hascending : table.toList.Pairwise fun a b => a.1 < b.1) {i j : Nat}
    (hij : i < j) {a b : Nat × List Nat} (ha : table[i]? = some a) (hb : table[j]? = some b) :
    a.1 < b.1 := by
  rw [← Array.getElem?_toList] at ha hb
  exact rel_of_pairwise hascending hij ha hb

/-- A search finds what the entry of its key holds, if there is one in its reach. -/
theorem mem_search (hascending : table.toList.Pairwise fun a b => a.1 < b.1)
    {n m fuel lo hi : Nat} (hfuel : hi - lo < fuel) (hhi : hi ≤ table.size) :
    m ∈ search table n fuel lo hi ↔
      ∃ i, (lo ≤ i ∧ i < hi) ∧ ∃ others, table[i]? = some (n, others) ∧ m ∈ others := by
  -- the place of the key stays between the two bounds
  fun_induction search table n fuel lo hi with
  | case1 => exact absurd hfuel (Nat.not_lt_zero _)
  | case2 fuel lo hi hempty =>
    refine ⟨nofun, ?_⟩
    rintro ⟨i, hi, -⟩
    omega
  | case3 fuel lo hi hne mid hnone =>
    have hmid : mid < table.size := by omega
    exact absurd hnone (by simp [hmid])
  | case4 fuel lo hi hne mid key others hentry hlt ih =>
    -- the key that is searched for is smaller than that in the middle, so its place is before
    rw [ih (by omega) (by omega)]
    refine exists_congr fun i => and_congr_left fun ⟨found, hfound, _⟩ => ?_
    have hplace : i < mid := by
      by_contra hle
      rcases Nat.lt_or_eq_of_le (Nat.le_of_not_lt hle) with h | rfl
      · have := key_lt_key hascending h hentry hfound
        omega
      · rw [hentry] at hfound
        simp only [Option.some.injEq, Prod.mk.injEq] at hfound
        omega
    omega
  | case5 fuel lo hi hne mid key others hentry hge hlt ih =>
    -- it is greater than that in the middle, so its place is behind
    rw [ih (by omega) (by omega)]
    refine exists_congr fun i => and_congr_left fun ⟨found, hfound, _⟩ => ?_
    have hplace : mid < i := by
      by_contra hle
      rcases Nat.lt_or_eq_of_le (Nat.le_of_not_lt hle) with h | rfl
      · have := key_lt_key hascending h hfound hentry
        omega
      · rw [hentry] at hfound
        simp only [Option.some.injEq, Prod.mk.injEq] at hfound
        omega
    omega
  | case6 fuel lo hi hne mid key others hentry hge hle =>
    obtain rfl : key = n := by omega
    constructor
    · intro hm
      exact ⟨mid, by omega, others, hentry, hm⟩
    · rintro ⟨i, -, found, hfound, hm⟩
      -- keys are different, so there is no other place with this one
      obtain rfl : i = mid := by
        rcases Nat.lt_trichotomy i mid with h | h | h
        · exact absurd (key_lt_key hascending h hfound hentry) (Nat.lt_irrefl _)
        · exact h
        · exact absurd (key_lt_key hascending h hentry hfound) (Nat.lt_irrefl _)
      rw [hentry] at hfound
      obtain ⟨-, rfl⟩ := Prod.mk.inj (Option.some.inj hfound)
      exact hm

/-- A search of the whole table finds what the entry of its key holds. -/
theorem mem_search_table (hascending : table.toList.Pairwise fun a b => a.1 < b.1) {n m : Nat} :
    m ∈ search table n (table.size + 1) 0 table.size ↔
      ∃ others, (n, others) ∈ table.toList ∧ m ∈ others := by
  rw [mem_search hascending (by omega) (Nat.le_refl _)]
  constructor
  · rintro ⟨i, -, found, hfound, hm⟩
    rw [← Array.getElem?_toList] at hfound
    exact ⟨found, List.mem_of_getElem? hfound, hm⟩
  · rintro ⟨found, hmem, hm⟩
    -- an entry of the table stands somewhere, and the search reaches all places
    obtain ⟨i, hfound⟩ := List.mem_iff_getElem?.mp hmem
    rw [Array.getElem?_toList] at hfound
    exact ⟨i, ⟨Nat.zero_le i, (Array.getElem?_eq_some_iff.mp hfound).1⟩, found, hfound, hm⟩

end Search

/-- What is found for a character are the other members of its class. -/
theorem mem_others {n m : Nat} :
    m ∈ others n ↔ ∃ members ∈ classes, n ∈ members ∧ m ∈ members ∧ m ≠ n := by
  unfold others
  rw [mem_search_table entries_ascending]
  constructor
  · rintro ⟨found, hmem, hm⟩
    obtain ⟨members, hclass, hn, rfl⟩ := mem_entries.mp hmem
    rw [List.mem_filter, decide_eq_true_eq] at hm
    exact ⟨members, hclass, hn, hm⟩
  · rintro ⟨members, hclass, hn, hm, hne⟩
    refine ⟨_, mem_entries.mpr ⟨members, hclass, hn, rfl⟩, ?_⟩
    rw [List.mem_filter, decide_eq_true_eq]
    exact ⟨hm, hne⟩

end CaseFolding

/-- Characters fold together when they are equal or in one class. -/
theorem foldsTogether_iff {a b : Char} : foldsTogether a b ↔ CaseFolding.Alike a b := by
  unfold foldsTogether CaseFolding.Alike
  rw [Bool.or_eq_true, decide_eq_true_eq, List.contains_iff_mem, CaseFolding.mem_others]
  constructor
  · rintro (heq | ⟨members, hclass, ha, hb, -⟩)
    · exact .inl heq
    · exact .inr ⟨members, hclass, ha, hb⟩
  · rintro (heq | ⟨members, hclass, ha, hb⟩)
    · exact .inl heq
    · by_cases heq : a = b
      · exact .inl heq
      · exact .inr ⟨members, hclass, ha, hb, fun h => heq (Char.toNat_inj.mp h.symm)⟩

end RecordRules
