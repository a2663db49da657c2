import Mathlib.Data.List.Perm.Subperm
import RecordRules.Proofs.Unicode.CaseFolding
import RecordRules.Unicode.CodeSet

/-!
# What sets of code points hold

A set is a list of ranges, and what it holds are the code points of its ranges (`Covers`).  The
normal form holds the same, and since its ranges ascend and are apart, the search in it finds
exactly what it holds.  Folding a set adds the classes of its members.

## Key results

- `CodeSet.covers_normal`, `CodeSet.ascending_normal`: the normal form
- `CodeSet.contains_toRanges`: searching a set whose ranges ascend
- `CodeSet.covers_foldCase`: what a set holds up to case
-/

namespace RecordRules
namespace CodeSet

/-- A code point is in one of the ranges of a set. -/
def Covers (s : CodeSet) (n : Nat) : Prop :=
  ∃ r ∈ s, r.1 ≤ n ∧ n ≤ r.2

theorem not_covers_nil (n : Nat) : ¬ Covers [] n := by
  rintro ⟨r, hr, -⟩
  exact nomatch hr

/-- A set holds what its first range has, and what its other ranges have. -/
theorem covers_cons {r : Nat × Nat} {s : CodeSet} {n : Nat} :
    Covers (r :: s) n ↔ (r.1 ≤ n ∧ n ≤ r.2) ∨ s.Covers n := by
  unfold Covers
  simp only [List.mem_cons, exists_eq_or_imp]

theorem covers_append {s t : CodeSet} {n : Nat} :
    Covers (s ++ t) n ↔ s.Covers n ∨ t.Covers n := by
  unfold Covers
  simp only [List.mem_append, or_and_right, exists_or]

theorem covers_perm {s t : CodeSet} (h : s.Perm t) (n : Nat) : s.Covers n ↔ t.Covers n :=
  exists_congr fun _ => and_congr_left fun _ => h.mem_iff

/-- The code point of a character is at most the greatest one. -/
theorem toNat_le_greatest (c : Char) : c.toNat ≤ greatest := by
  have hvalid : c.toNat < 0xD800 ∨ 0xDFFF < c.toNat ∧ c.toNat < 0x110000 := c.valid
  unfold greatest
  omega

/-! ## The normal form -/

/-- The ranges of a set ascend, and each ends before the next begins. -/
def Ascending (s : CodeSet) : Prop :=
  s.Pairwise fun a b => a.1 ≤ b.1 ∧ a.2 < b.1

/-- No range begins before one that precedes it. -/
def Sorted (s : CodeSet) : Prop :=
  s.Pairwise fun a b => a.1 ≤ b.1

/-- Joining ranges that overlap or touch keeps what they hold. -/
theorem covers_joinFrom {first final : Nat} {s : CodeSet} (hsorted : Sorted ((first, final) :: s))
    {n : Nat} : (joinFrom first final s).Covers n ↔ (first ≤ n ∧ n ≤ final) ∨ s.Covers n := by
  -- a range that overlaps or touches the first one is taken into it
  fun_induction joinFrom first final s with
  | case1 first final => exact covers_cons
  | case2 first final a b rest htouch ih =>
    obtain ⟨hfirst, hrest⟩ := List.pairwise_cons.mp hsorted
    have hle : first ≤ a := hfirst (a, b) List.mem_cons_self
    have hjoined : Sorted ((first, max final b) :: rest) :=
      List.pairwise_cons.mpr
        ⟨fun r hr => hfirst r (List.mem_cons_of_mem _ hr), (List.pairwise_cons.mp hrest).2⟩
    rw [ih hjoined, covers_cons, ← or_assoc]
    refine or_congr_left ?_
    simp only
    omega
  | case3 first final a b rest hapart ih =>
    rw [covers_cons, ih (List.pairwise_cons.mp hsorted).2, covers_cons]

/-- Joined ranges do not begin before the first of them. -/
theorem first_le_of_mem_joinFrom {first final : Nat} {s : CodeSet}
    (hsorted : Sorted ((first, final) :: s)) {r : Nat × Nat} (hr : r ∈ joinFrom first final s) :
    first ≤ r.1 := by
  -- the first range only grows at its end
  fun_induction joinFrom first final s with
  | case1 first final =>
    obtain rfl := List.mem_singleton.mp hr
    exact Nat.le_refl _
  | case2 first final a b rest htouch ih =>
    obtain ⟨hfirst, hrest⟩ := List.pairwise_cons.mp hsorted
    refine ih (List.pairwise_cons.mpr ⟨?_, (List.pairwise_cons.mp hrest).2⟩) hr
    exact fun r hr => hfirst r (List.mem_cons_of_mem _ hr)
  | case3 first final a b rest hapart ih =>
    obtain ⟨hfirst, hrest⟩ := List.pairwise_cons.mp hsorted
    rcases List.mem_cons.mp hr with rfl | hr
    · exact Nat.le_refl _
    · exact Nat.le_trans (hfirst (a, b) List.mem_cons_self) (ih hrest hr)

/-- Joined ranges ascend. -/
theorem ascending_joinFrom {first final : Nat} {s : CodeSet}
    (hsorted : Sorted ((first, final) :: s)) : Ascending (joinFrom first final s) := by
  fun_induction joinFrom first final s with
  | case1 first final => exact List.pairwise_singleton ..
  | case2 first final a b rest htouch ih =>
    obtain ⟨hfirst, hrest⟩ := List.pairwise_cons.mp hsorted
    refine ih (List.pairwise_cons.mpr ⟨?_, (List.pairwise_cons.mp hrest).2⟩)
    exact fun r hr => hfirst r (List.mem_cons_of_mem _ hr)
  | case3 first final a b rest hapart ih =>
    obtain ⟨hfirst, hrest⟩ := List.pairwise_cons.mp hsorted
    -- this range is done with, since all others begin behind its end
    refine List.pairwise_cons.mpr ⟨fun r hr => ?_, ih hrest⟩
    have hle : first ≤ a := hfirst (a, b) List.mem_cons_self
    have hr := first_le_of_mem_joinFrom hrest hr
    simp only
    omega

theorem sorted_mergeSort (s : CodeSet) : Sorted (s.mergeSort fun x y => x.1 ≤ y.1) :=
  pairwise_mergeSort_key Prod.fst s

/-- The normal form of a set holds what the set holds. -/
theorem covers_normal {s : CodeSet} {n : Nat} : s.normal.Covers n ↔ s.Covers n := by
  have hsorted := sorted_mergeSort s
  -- sorting is a permutation, and joining comes after it
  rw [← covers_perm (List.mergeSort_perm s fun x y => x.1 ≤ y.1) n]
  unfold normal
  split
  · next hnil => rw [hnil]
  · next a b rest hcons =>
    rw [hcons] at hsorted ⊢
    rw [covers_joinFrom hsorted, covers_cons]

/-- The ranges of a normal form ascend. -/
theorem ascending_normal (s : CodeSet) : Ascending s.normal := by
  have hsorted := sorted_mergeSort s
  unfold normal
  split
  · exact List.Pairwise.nil
  · next a b rest hcons =>
    rw [hcons] at hsorted
    exact ascending_joinFrom hsorted

/-! ## Searching -/

/-- The search between two places finds the ranges there that have the code point. -/
theorem search_iff {s : CodeSet} (h : Ascending s) {n fuel lo hi : Nat} (hfuel : hi - lo < fuel)
    (hhi : hi ≤ s.length) :
    CodeRanges.search s.toArray n fuel lo hi = true ↔
      ∃ i, (lo ≤ i ∧ i < hi) ∧ ∃ r, s[i]? = some r ∧ r.1 ≤ n ∧ n ≤ r.2 := by
  -- what is searched for stays between the two places
  fun_induction CodeRanges.search s.toArray n fuel lo hi with
  | case1 => exact absurd hfuel (Nat.not_lt_zero _)
  | case2 fuel lo hi hempty =>
    refine ⟨nofun, ?_⟩
    rintro ⟨i, hi, -⟩
    omega
  | case3 fuel lo hi hne mid hnone =>
    have hmid : mid < s.length := by omega
    rw [List.getElem?_toArray, List.getElem?_eq_getElem hmid] at hnone
    exact nomatch hnone
  | case4 fuel lo hi hne mid first last hrange hlt ih =>
    -- the code point is below the range in the middle, and so below what is behind it
    rw [List.getElem?_toArray] at hrange
    rw [ih (by omega) (by omega)]
    refine exists_congr fun i => and_congr_left fun ⟨r, hr, hle⟩ => ?_
    have hplace : i < mid := by
      by_contra hnot
      rcases Nat.lt_or_eq_of_le (Nat.le_of_not_lt hnot) with hafter | rfl
      · have := rel_of_pairwise h hafter hrange hr
        simp only at this
        omega
      · rw [hrange] at hr
        obtain rfl := Option.some.inj hr
        simp only at hle
        omega
    omega
  | case5 fuel lo hi hne mid first last hrange hge hlt ih =>
    -- it is above the range in the middle, and so above what is before it
    rw [List.getElem?_toArray] at hrange
    rw [ih (by omega) (by omega)]
    refine exists_congr fun i => and_congr_left fun ⟨r, hr, hle⟩ => ?_
    have hplace : mid < i := by
      by_contra hnot
      rcases Nat.lt_or_eq_of_le (Nat.le_of_not_lt hnot) with hbefore | rfl
      · have := rel_of_pairwise h hbefore hr hrange
        simp only at this
        omega
      · rw [hrange] at hr
        obtain rfl := Option.some.inj hr
        simp only at hle
        omega
    omega
  | case6 fuel lo hi hne mid first last hrange hge hle =>
    rw [List.getElem?_toArray] at hrange
    refine ⟨fun _ => ⟨mid, by omega, (first, last), hrange, by omega⟩, fun _ => rfl⟩

/-- The search in a set whose ranges ascend finds what the set holds. -/
theorem contains_toRanges {s : CodeSet} (h : Ascending s) {n : Nat} :
    s.toRanges.contains n = true ↔ s.Covers n := by
  have hsize : s.toArray.size = s.length := List.size_toArray
  unfold CodeRanges.contains toRanges
  simp only [hsize]
  rw [search_iff h (by omega) (Nat.le_refl _)]
  constructor
  · rintro ⟨i, -, r, hr, hle⟩
    exact ⟨r, List.mem_of_getElem? hr, hle⟩
  · rintro ⟨r, hmem, hle⟩
    -- the range stands at some place, and the whole list is searched
    obtain ⟨i, hr⟩ := List.mem_iff_getElem?.mp hmem
    exact ⟨i, ⟨Nat.zero_le i, (List.getElem?_eq_some_iff.mp hr).1⟩, r, hr, hle⟩

/-! ## Operations -/

/-- The ranges of a set begin before they end, and end at the greatest code point at most. -/
def Proper (s : CodeSet) : Prop :=
  ∀ r ∈ s, r.1 ≤ r.2 ∧ r.2 ≤ greatest

/-- A proper set holds no more than the code points that there are. -/
theorem Proper.le_greatest {s : CodeSet} (h : Proper s) {n : Nat} (hn : s.Covers n) :
    n ≤ greatest := by
  obtain ⟨r, hr, -, hle⟩ := hn
  exact Nat.le_trans hle (h r hr).2

theorem Proper.append {s t : CodeSet} (hs : Proper s) (ht : Proper t) : Proper (s ++ t) := by
  intro r hr
  rcases List.mem_append.mp hr with hr | hr
  · exact hs r hr
  · exact ht r hr

/-- Joining the ranges of a proper set leaves it proper. -/
theorem proper_joinFrom {first final : Nat} {s : CodeSet} (h : Proper ((first, final) :: s)) :
    Proper (joinFrom first final s) := by
  fun_induction joinFrom first final s with
  | case1 first final => exact h
  | case2 first final a b rest htouch ih =>
    obtain ⟨hfirst, hrest⟩ := List.forall_mem_cons.mp h
    obtain ⟨hsecond, hrest⟩ := List.forall_mem_cons.mp hrest
    refine ih (List.forall_mem_cons.mpr ⟨?_, hrest⟩)
    simp only at hfirst hsecond ⊢
    omega
  | case3 first final a b rest hapart ih =>
    obtain ⟨hfirst, hrest⟩ := List.forall_mem_cons.mp h
    exact List.forall_mem_cons.mpr ⟨hfirst, ih hrest⟩

/-- The normal form of a proper set is proper. -/
theorem proper_normal {s : CodeSet} (h : Proper s) : Proper s.normal := by
  have hperm : Proper (s.mergeSort fun x y => x.1 ≤ y.1) := by
    intro r hr
    exact h r (List.mem_mergeSort.mp hr)
  unfold normal
  split
  · next hnil => exact nofun
  · next a b rest hcons =>
    rw [hcons] at hperm
    exact proper_joinFrom hperm

/-- What a set holds lies behind a bound if its ranges begin there. -/
theorem lt_of_covers {s : CodeSet} {bound : Nat} (h : ∀ r ∈ s, bound < r.1) {n : Nat}
    (hn : s.Covers n) : bound < n := by
  obtain ⟨r, hr, hle, -⟩ := hn
  exact Nat.lt_of_lt_of_le (h r hr) hle

/-- From a code point on, the gaps between ranges that ascend hold what the ranges do not. -/
theorem covers_complementFrom {next : Nat} {s : CodeSet} (hascending : Ascending s)
    (hproper : Proper s) (hnext : ∀ r ∈ s, next ≤ r.1) {n : Nat} :
    (complementFrom next s).Covers n ↔ next ≤ n ∧ n ≤ greatest ∧ ¬ s.Covers n := by
  -- the gap before a range is either empty or the first of the ranges
  fun_induction complementFrom next s with
  | case1 next hle =>
    rw [covers_cons]
    simp only [not_covers_nil, or_false, not_false_eq_true, and_true]
  | case2 next hgt =>
    simp only [not_covers_nil, not_false_eq_true, and_true, false_iff]
    omega
  | case3 next a b rest hgap ih =>
    obtain ⟨hbehind, hrest⟩ := List.pairwise_cons.mp hascending
    obtain ⟨hrange, hproper⟩ := List.forall_mem_cons.mp hproper
    rw [covers_cons, covers_cons, ih hrest hproper fun r hr => (hbehind r hr).2]
    simp only at hrange ⊢
    -- what the rest holds lies behind its first range, so it is in no gap before
    by_cases hcovers : Covers rest n
    · have hlt := lt_of_covers (fun r hr => (hbehind r hr).2) hcovers
      simp only [hcovers, not_true_eq_false, and_false, or_true, or_false, iff_false]
      omega
    · simp only [hcovers, not_false_eq_true, and_true, or_false]
      omega
  | case4 next a b rest hgap ih =>
    obtain ⟨hbehind, hrest⟩ := List.pairwise_cons.mp hascending
    obtain ⟨hrange, hproper⟩ := List.forall_mem_cons.mp hproper
    have hfirst : next ≤ a := hnext (a, b) List.mem_cons_self
    rw [covers_cons, ih hrest hproper fun r hr => (hbehind r hr).2]
    simp only at hrange ⊢
    by_cases hcovers : Covers rest n
    · simp only [hcovers, not_true_eq_false, and_false, or_true]
    · simp only [hcovers, not_false_eq_true, and_true, or_false]
      omega

/-- The gaps from a code point on do not begin before it. -/
theorem le_of_mem_complementFrom {next : Nat} {s : CodeSet} (hproper : Proper s)
    (hascending : Ascending s) (hnext : ∀ r ∈ s, next ≤ r.1) {r : Nat × Nat}
    (hr : r ∈ complementFrom next s) : next ≤ r.1 := by
  -- the next gap begins behind the range that ends this one
  fun_induction complementFrom next s with
  | case1 next hle =>
    obtain rfl := List.mem_singleton.mp hr
    exact Nat.le_refl _
  | case2 next hgt => exact absurd hr List.not_mem_nil
  | case3 next a b rest hgap ih =>
    obtain ⟨hbehind, hrest⟩ := List.pairwise_cons.mp hascending
    obtain ⟨hrange, hproper⟩ := List.forall_mem_cons.mp hproper
    rcases List.mem_cons.mp hr with rfl | hr
    · exact Nat.le_refl _
    · have hle := ih hproper hrest (fun r hr => (hbehind r hr).2) hr
      simp only at hrange
      omega
  | case4 next a b rest hgap ih =>
    obtain ⟨hbehind, hrest⟩ := List.pairwise_cons.mp hascending
    obtain ⟨hrange, hproper⟩ := List.forall_mem_cons.mp hproper
    have hfirst : next ≤ a := hnext (a, b) List.mem_cons_self
    have hle := ih hproper hrest (fun r hr => (hbehind r hr).2) hr
    simp only at hrange
    omega

/-- The gaps between ranges ascend. -/
theorem ascending_complementFrom {next : Nat} {s : CodeSet} (hproper : Proper s)
    (hascending : Ascending s) (hnext : ∀ r ∈ s, next ≤ r.1) :
    Ascending (complementFrom next s) := by
  fun_induction complementFrom next s with
  | case1 next hle => exact List.pairwise_singleton ..
  | case2 next hgt => exact List.Pairwise.nil
  | case3 next a b rest hgap ih =>
    obtain ⟨hbehind, hrest⟩ := List.pairwise_cons.mp hascending
    obtain ⟨hrange, hproper⟩ := List.forall_mem_cons.mp hproper
    refine List.pairwise_cons.mpr ⟨fun r hr => ?_, ih hproper hrest fun r hr => (hbehind r hr).2⟩
    have hle := le_of_mem_complementFrom hproper hrest (fun r hr => (hbehind r hr).2) hr
    simp only at hrange hle ⊢
    omega
  | case4 next a b rest hgap ih =>
    obtain ⟨hbehind, hrest⟩ := List.pairwise_cons.mp hascending
    obtain ⟨hrange, hproper⟩ := List.forall_mem_cons.mp hproper
    exact ih hproper hrest fun r hr => (hbehind r hr).2

/-- The gaps between proper ranges are proper. -/
theorem proper_complementFrom {next : Nat} {s : CodeSet} (hproper : Proper s) :
    Proper (complementFrom next s) := by
  fun_induction complementFrom next s with
  | case1 next hle => exact List.forall_mem_singleton.mpr ⟨hle, Nat.le_refl _⟩
  | case2 next hgt => exact hproper
  | case3 next a b rest hgap ih =>
    obtain ⟨hrange, hproper⟩ := List.forall_mem_cons.mp hproper
    refine List.forall_mem_cons.mpr ⟨?_, ih hproper⟩
    simp only at hrange ⊢
    omega
  | case4 next a b rest hgap ih => exact ih (List.forall_mem_cons.mp hproper).2

section

variable {s t : CodeSet} {n : Nat}

/-- The complement of a set holds the code points that the set does not. -/
theorem covers_complement (hs : Proper s) :
    s.complement.Covers n ↔ n ≤ greatest ∧ ¬ s.Covers n := by
  unfold complement
  rw [covers_complementFrom (ascending_normal s) (proper_normal hs) fun _ _ => Nat.zero_le _,
    covers_normal]
  exact and_iff_right (Nat.zero_le n)

theorem ascending_complement (hs : Proper s) : Ascending s.complement :=
  ascending_complementFrom (proper_normal hs) (ascending_normal s) fun _ _ => Nat.zero_le _

theorem proper_complement (hs : Proper s) : Proper s.complement :=
  proper_complementFrom (proper_normal hs)

/-- A union holds what either set does. -/
theorem covers_union : (s.union t).Covers n ↔ s.Covers n ∨ t.Covers n := by
  unfold union
  rw [covers_normal, covers_append]

theorem proper_union (hs : Proper s) (ht : Proper t) : Proper (s.union t) :=
  proper_normal (hs.append ht)

/-- An intersection holds what both sets do. -/
theorem covers_inter (hs : Proper s) (ht : Proper t) :
    (s.inter t).Covers n ↔ s.Covers n ∧ t.Covers n := by
  -- an intersection is the complement of a union of complements
  have hunion := proper_union (proper_complement hs) (proper_complement ht)
  unfold inter
  rw [covers_complement hunion, covers_union, covers_complement hs, covers_complement ht]
  constructor
  · intro ⟨hle, hnot⟩
    simp only [hle, true_and, not_or, not_not] at hnot
    exact hnot
  · intro ⟨hmem, hmem'⟩
    refine ⟨hs.le_greatest hmem, ?_⟩
    simp only [hmem, hmem', not_true_eq_false, and_false, or_self, not_false_eq_true]

/-- A difference holds what the first set does and the second does not. -/
theorem covers_diff (hs : Proper s) (ht : Proper t) :
    (s.diff t).Covers n ↔ s.Covers n ∧ ¬ t.Covers n := by
  unfold diff
  rw [covers_inter hs (proper_complement ht), covers_complement ht]
  constructor
  · intro ⟨hmem, _, hnot⟩
    exact ⟨hmem, hnot⟩
  · intro ⟨hmem, hnot⟩
    exact ⟨hmem, hs.le_greatest hmem, hnot⟩

theorem ascending_diff (hs : Proper s) (ht : Proper t) : Ascending (s.diff t) :=
  ascending_complement
    (proper_union (proper_complement hs) (proper_complement (proper_complement ht)))

end

/-! ## Counting -/

/-- The code points of a set, one range after the other. -/
def points (s : CodeSet) : List Nat :=
  s.flatMap fun r => List.range' r.1 (r.2 + 1 - r.1)

/-- The code points of a set are those that it holds. -/
theorem mem_points {s : CodeSet} {n : Nat} : n ∈ s.points ↔ s.Covers n := by
  unfold points Covers
  rw [List.mem_flatMap]
  refine exists_congr fun r => and_congr_right fun _ => ?_
  rw [List.mem_range'_1]
  omega

/-- In ranges that ascend no code point comes twice. -/
theorem nodup_points {s : CodeSet} (h : Ascending s) : s.points.Nodup := by
  unfold points
  refine List.nodup_flatMap.mpr ⟨fun r _ => List.nodup_range', h.imp fun hab => ?_⟩
  intro n hn hn'
  rw [List.mem_range'_1] at hn hn'
  omega

/-- No range is empty. -/
theorem length_le_length_points {s : CodeSet} (h : Proper s) : s.length ≤ s.points.length := by
  induction s with
  | nil => exact Nat.zero_le _
  | cons r s ih =>
    obtain ⟨⟨hrange, -⟩, hs⟩ := List.forall_mem_cons.mp h
    have hrest := ih hs
    unfold points at hrest ⊢
    rw [List.flatMap_cons, List.length_append, List.length_range', List.length_cons]
    omega

/-- There are no more code points in ranges that ascend than in a list that has them all. -/
theorem length_points_le {s : CodeSet} (h : Ascending s) {ns : List Nat}
    (hns : ∀ n, s.Covers n → n ∈ ns) : s.points.length ≤ ns.length := by
  -- a list without repetition is no longer than one that has all of its members
  have hsubset : s.points ⊆ ns := fun n hn => hns n (mem_points.mp hn)
  exact (List.subperm_of_subset (nodup_points h) hsubset).length_le

/-! ## Case -/

theorem covers_singleton {m n : Nat} : Covers [(m, m)] n ↔ n = m := by
  rw [covers_cons]
  simp only [not_covers_nil, or_false]
  omega

/-- What the entries of the members of a set add to it. -/
def added (s : CodeSet) : CodeSet :=
  (CaseFolding.entries.toList.filterMap fun (m, others) =>
    if s.normal.toRanges.contains m then some (others.map fun k => (k, k)) else none).flatten

theorem foldCase_eq (s : CodeSet) : s.foldCase = normal (s ++ s.added) := rfl

/-- The entries of members add the other members of their classes. -/
theorem mem_added {s : CodeSet} {r : Nat × Nat} :
    r ∈ s.added ↔ ∃ members ∈ CaseFolding.classes, ∃ m ∈ members, s.Covers m ∧
      ∃ n ∈ members, n ≠ m ∧ r = (n, n) := by
  -- an entry is taken if its key is found in the normal form
  have hmember (m : Nat) : s.normal.toRanges.contains m = true ↔ s.Covers m :=
    (contains_toRanges (ascending_normal s)).trans covers_normal
  unfold added
  rw [List.mem_flatten]
  constructor
  · rintro ⟨ranges, hranges, hr⟩
    obtain ⟨⟨m, others⟩, hentry, hsome⟩ := List.mem_filterMap.mp hranges
    obtain ⟨members, hclass, hm, rfl⟩ := CaseFolding.mem_entries.mp hentry
    obtain ⟨hcontains, hsome⟩ := Option.ite_none_right_eq_some.mp hsome
    obtain rfl := Option.some.inj hsome
    obtain ⟨n, hn, rfl⟩ := List.mem_map.mp hr
    rw [List.mem_filter, decide_eq_true_eq] at hn
    exact ⟨members, hclass, m, hm, (hmember m).mp hcontains, n, hn.1, hn.2, rfl⟩
  · rintro ⟨members, hclass, m, hm, hcovers, n, hn, hne, rfl⟩
    refine ⟨(members.filter (· ≠ m)).map fun k => (k, k), List.mem_filterMap.mpr
      ⟨(m, members.filter (· ≠ m)), CaseFolding.mem_entries.mpr ⟨members, hclass, hm, rfl⟩,
        if_pos ((hmember m).mpr hcovers)⟩, List.mem_map.mpr ⟨n, ?_, rfl⟩⟩
    rw [List.mem_filter, decide_eq_true_eq]
    exact ⟨hn, hne⟩

/-- A set up to case holds its members and the members of their classes. -/
theorem covers_foldCase {s : CodeSet} {n : Nat} :
    s.foldCase.Covers n ↔ s.Covers n ∨
      ∃ members ∈ CaseFolding.classes, n ∈ members ∧ ∃ m ∈ members, s.Covers m := by
  rw [foldCase_eq, covers_normal, covers_append]
  constructor
  · rintro (hn | ⟨r, hr, hle, hge⟩)
    · exact .inl hn
    · obtain ⟨members, hclass, m, hm, hcovers, k, hk, -, rfl⟩ := mem_added.mp hr
      obtain rfl : k = n := Nat.le_antisymm hle hge
      exact .inr ⟨members, hclass, hk, m, hm, hcovers⟩
  · rintro (hn | ⟨members, hclass, hn, m, hm, hcovers⟩)
    · exact .inl hn
    -- a member of the class is held already, or it is one of the others
    · by_cases heq : n = m
      · exact .inl (heq ▸ hcovers)
      · exact .inr ⟨(n, n), mem_added.mpr ⟨members, hclass, m, hm, hcovers, n, hn, heq, rfl⟩,
          Nat.le_refl n, Nat.le_refl n⟩

/-- A character up to case: what equals it up to simple case folding. -/
theorem covers_foldCase_singleton {c d : Char} :
    (foldCase [(c.toNat, c.toNat)]).Covers d.toNat ↔ CaseFolding.Alike c d := by
  rw [covers_foldCase, covers_singleton]
  unfold CaseFolding.Alike
  constructor
  · rintro (heq | ⟨members, hclass, hd, m, hm, hcovers⟩)
    · exact .inl (Char.toNat_inj.mp heq).symm
    · obtain rfl := covers_singleton.mp hcovers
      exact .inr ⟨members, hclass, hm, hd⟩
  · rintro (rfl | ⟨members, hclass, hc, hd⟩)
    · exact .inl rfl
    · exact .inr ⟨members, hclass, hd, c.toNat, hc, covers_singleton.mpr rfl⟩

/-- A proper set stays proper when its case is folded, as classes have code points for members. -/
theorem proper_foldCase {s : CodeSet} (hs : Proper s) : Proper s.foldCase := by
  -- what is added is a range of one code point
  have hadded : Proper s.added := by
    intro r hr
    obtain ⟨members, hclass, -, -, -, n, hn, -, rfl⟩ := mem_added.mp hr
    exact ⟨Nat.le_refl n, (CaseFolding.small_of_mem_classes hclass).2 n hn⟩
  rw [foldCase_eq]
  exact proper_normal (hs.append hadded)

/-- There are few characters that equal one up to case. -/
theorem length_points_foldCase_singleton_le (m : Nat) : (foldCase [(m, m)]).points.length ≤ 5 := by
  -- all of them are the character itself or in its class
  obtain ⟨members, hfew, hmembers⟩ : ∃ members : List Nat, members.length ≤ 4 ∧
      ∀ n, (foldCase [(m, m)]).Covers n → n = m ∨ n ∈ members := by
    simp only [covers_foldCase, covers_singleton]
    by_cases hclass : ∃ members ∈ CaseFolding.classes, m ∈ members
    · obtain ⟨members, hclass, hm⟩ := hclass
      refine ⟨members, (CaseFolding.small_of_mem_classes hclass).1, fun n hn => ?_⟩
      obtain heq | ⟨others, hothers, hn, _, hm', rfl⟩ := hn
      · exact .inl heq
      · exact .inr (CaseFolding.eq_of_mem_classes hothers hclass hm' hm ▸ hn)
    · refine ⟨[], Nat.zero_le _, fun n hn => ?_⟩
      obtain heq | ⟨members, hmem, -, _, hm, rfl⟩ := hn
      · exact .inl heq
      · exact absurd ⟨members, hmem, hm⟩ hclass
  calc (foldCase [(m, m)]).points.length
    _ ≤ (m :: members).length :=
      length_points_le (ascending_normal _) fun n hn => List.mem_cons.mpr (hmembers n hn)
    _ ≤ 5 := Nat.succ_le_succ hfew

end CodeSet
end RecordRules
