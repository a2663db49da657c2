import RecordRules.Proofs.Regex.Size
import RecordRules.Target

/-!
# Short globs are never too large

A glob whose pattern takes too much memory selects nothing.  Every character of a glob and every
asterisk takes a bounded memory, so globs up to the safe length stay within the bound, and the
test of their length that is made first decides nothing that the memory would not.

## Key results

- `Target.size_globTree_le`: the memory of a glob grows with its length
- `Target.fits_iff`: whether a glob is used is a matter of its memory
-/

namespace RecordRules.Target

open Regex (Tree)

/-! ## Characters and gaps -/

/-- The flags of a glob add the other cases. -/
theorem fold_globMode (s : CodeSet) : globMode.fold s = s.foldCase := rfl

/-- More memory than any part of a glob takes. -/
def partSize : Nat := 4096

/-- A character of a glob takes no more memory than a part may. -/
theorem size_globChar_le (direction : Regex.Direction) (p : Char) :
    (globChar p).size direction ≤ partSize := by
  have hproper : CodeSet.Proper [(p.toNat, p.toNat)] :=
    List.forall_mem_singleton.mpr ⟨Nat.le_refl _, CodeSet.toNat_le_greatest p⟩
  -- a character has few others that are like it, and small sets are small automata
  have hfolded := Regex.setSize_le_of_proper direction (CodeSet.proper_foldCase hproper)
  have hfew := CodeSet.length_points_foldCase_singleton_le p.toNat
  unfold globChar
  rw [fold_globMode]
  generalize CodeSet.foldCase [(p.toNat, p.toNat)] = codes at hfolded hfew
  unfold Regex.byteSize Regex.stateSize Regex.transitionSize at hfolded
  unfold partSize
  by_cases hself : codes = [(p.toNat, p.toNat)]
  · have hbytes := p.utf8Size_le_four
    rw [if_pos hself, Tree.size, Regex.stateSize]
    omega
  · rw [if_neg hself, Tree.size]
    omega

theorem complement_lineFeed : CodeSet.complement [(10, 10)] = [(0, 9), (11, CodeSet.greatest)] := by
  simp [CodeSet.complement, CodeSet.normal, CodeSet.joinFrom, CodeSet.complementFrom,
    CodeSet.greatest]

theorem size_globGap_le (direction : Regex.Direction) : globGap.size direction ≤ partSize := by
  -- without the surrogates there are three ranges, spelled by ten sequences
  have hranges : CodeSet.diff [(0, 9), (11, CodeSet.greatest)] [(0xD800, 0xDFFF)] =
      [(0, 9), (11, 0xD7FF), (0xE000, CodeSet.greatest)] := by
    simp [CodeSet.diff, CodeSet.inter, CodeSet.union, CodeSet.complement, CodeSet.normal,
      CodeSet.joinFrom, CodeSet.complementFrom, CodeSet.greatest, List.mergeSort,
      List.MergeSort.Internal.splitInTwo]
  have hsequences : (Regex.utf8Sequences [(0, 9), (11, CodeSet.greatest)]).length = 10 := by
    unfold Regex.utf8Sequences
    rw [hranges]
    decide
  have hset := Regex.setSize_le direction [(0, 9), (11, CodeSet.greatest)]
  rw [hsequences] at hset
  unfold globGap
  rw [complement_lineFeed]
  simp only [Tree.size, Tree.bounds, Tree.isEmptyOnly, Tree.mayBeEmpty, Bool.false_eq_true,
    if_false, and_false, Nat.zero_le, Nat.max_eq_right, Nat.one_mul]
  unfold partSize Regex.branchSize
  unfold Regex.byteSize Regex.stateSize Regex.transitionSize at *
  simp only [List.length_cons, List.length_nil] at hset
  omega

/-! ## Globs -/

/-- The parts of a glob are characters and gaps, together as many as the text of the glob has. -/
theorem length_joined {piece : List Char} {more : List (List Char)} (n : Nat) :
    (piece :: more).foldl (fun n p => n + p.length + 1) n =
      n + ([globGap].intercalate ((piece :: more).map fun p => p.map globChar)).length + 1 := by
  -- a further piece comes with a gap before it
  induction more generalizing piece n with
  | nil =>
    rw [List.map_singleton, List.intercalate_singleton, List.length_map]
    rfl
  | cons next more ih =>
    rw [List.foldl_cons, ih, List.map_cons, List.map_cons, List.map_cons,
      List.intercalate_cons_cons, List.length_append, List.length_append, List.length_map,
      List.length_singleton]
    omega

/-- No character and no gap of a glob takes more memory than a part may. -/
theorem size_le_of_mem_joined {direction : Regex.Direction} {piece : List Char}
    {more : List (List Char)} {part : Tree}
    (hpart : part ∈ [globGap].intercalate ((piece :: more).map fun p => p.map globChar)) :
    part.size direction ≤ partSize := by
  have hpiece (p : List Char) (h : part ∈ p.map globChar) : part.size direction ≤ partSize := by
    obtain ⟨c, -, rfl⟩ := List.mem_map.mp h
    exact size_globChar_le direction c
  induction more generalizing piece with
  | nil =>
    rw [List.map_singleton, List.intercalate_singleton] at hpart
    exact hpiece piece hpart
  | cons next more ih =>
    rw [List.map_cons, List.map_cons, List.intercalate_cons_cons, List.mem_append,
      List.mem_append, List.mem_singleton] at hpart
    obtain (hfirst | rfl) | hrest := hpart
    · exact hpiece piece hfirst
    · exact size_globGap_le direction
    · exact ih hrest

/-- A glob takes as many times the memory of a part as its text has characters, and one more. -/
theorem size_globTree_le (direction : Regex.Direction) (piece : List Char)
    (more : List (List Char)) :
    (globTree (piece :: more)).size direction ≤
      (piece :: more).foldl (fun n p => n + p.length + 1) 0 * partSize + partSize := by
  have hstate : Regex.stateSize ≤ partSize := by decide
  have hlook (condition : Regex.Look) : (Tree.look condition).size direction ≤ partSize := by
    rw [Tree.size]
    exact hstate
  -- the conditions at both ends take a state each
  have hparts : ∀ part ∈ Tree.look .startText ::
      ([globGap].intercalate ((piece :: more).map fun p => p.map globChar) ++ [.look .endText]),
      part.size direction ≤ partSize := by
    intro part hpart
    rw [List.mem_cons, List.mem_append, List.mem_singleton] at hpart
    obtain rfl | hpart | rfl := hpart
    · exact hlook _
    · exact size_le_of_mem_joined hpart
    · exact hlook _
  have hsum := Regex.Tree.sizeSum_le hparts
  unfold globTree
  rw [Tree.size, length_joined, Nat.zero_add, ← Nat.succ_mul]
  rw [List.length_cons, List.length_append, List.length_singleton] at hsum
  split
  · exact Nat.le_trans hstate (Nat.le_mul_of_pos_left _ (Nat.succ_pos _))
  · exact hsum

/-- Globs up to the safe length stay within the bound on the size of patterns, so whether a glob
    does is a matter of its tree alone. -/
theorem fits_iff {piece : List Char} {more : List (List Char)} :
    fits (piece :: more) = true ↔ (globTree (piece :: more)).fits = true := by
  unfold fits
  rw [Bool.or_eq_true, decide_eq_true_eq, or_iff_right_iff_imp]
  intro hshort
  have hforward := size_globTree_le .forward piece more
  have hbackward := size_globTree_le .backward piece more
  have hbound := Nat.mul_le_mul_right partSize hshort
  -- the safe length was chosen so that this holds
  have hlimit : safeLength * partSize + partSize + 5 * Regex.stateSize ≤ Tree.sizeLimit := by decide
  have hthree : 3 * Regex.stateSize ≤ 5 * Regex.stateSize := by decide
  unfold Tree.fits
  rw [Bool.and_eq_true, decide_eq_true_eq, decide_eq_true_eq]
  omega

end RecordRules.Target
