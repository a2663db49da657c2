import RecordRules.Proofs.Unicode.CodeSet
import RecordRules.Regex.Size

/-!
# Small sets make small automata

The memory of the automaton of a set grows with the byte sequences that spell its characters,
and of these there are no more than characters.  So a set of few characters takes little.

## Key results

- `Regex.length_utf8Sequences_le`: no more sequences than characters
- `Regex.memory_shareSuffixes_le`: the states that sequences add
- `Regex.setSize_le`: the memory of a set
-/

namespace RecordRules.Regex

/-! ## Byte sequences -/

/-- A cut leaves something on both sides. -/
theorem cutPoint?_spec {first last cut : Nat} (hle : first ≤ last)
    (hcut : cutPoint? first last = some cut) : first ≤ cut ∧ cut < last := by
  unfold cutPoint? at hcut
  simp only at hcut
  split at hcut
  · next lengths greatest rest hlengths =>
    have hmem : greatest ∈ [1, 2, 3].filterMap fun i =>
        if first ≤ greatestOfLength i ∧ greatestOfLength i < last then some (greatestOfLength i)
        else none := by
      rw [hlengths]
      exact List.mem_cons_self
    obtain ⟨i, -, hi⟩ := List.mem_filterMap.mp hmem
    obtain ⟨hbounds, hi⟩ := Option.ite_none_right_eq_some.mp hi
    obtain rfl := Option.some.inj hi
    obtain rfl := Option.some.inj hcut
    exact hbounds
  · split at hcut
    · exact nomatch hcut
    · -- the first and the last code point differ in what is before the bits of a later byte
      obtain ⟨bits, hbits, hcut⟩ := List.exists_of_findSome?_eq_some hcut
      have hsize : twoTo bits = 64 ∨ twoTo bits = 4096 ∨ twoTo bits = 262144 := by
        simp only [List.mem_cons, List.not_mem_nil, or_false] at hbits
        rcases hbits with rfl | rfl | rfl
        · exact .inl rfl
        · exact .inr (.inl rfl)
        · exact .inr (.inr rfl)
      generalize twoTo bits = size at hcut hsize
      split at hcut
      · exact nomatch hcut
      · split at hcut
        · obtain rfl := Option.some.inj hcut
          rcases hsize with rfl | rfl | rfl <;> omega
        · split at hcut
          · obtain rfl := Option.some.inj hcut
            rcases hsize with rfl | rfl | rfl <;> omega
          · exact nomatch hcut

/-- A range is spelled by no more sequences than it has code points. -/
theorem length_utf8SequencesFrom_le (fuel first last : Nat) :
    (utf8SequencesFrom fuel first last).length ≤ last + 1 - first := by
  -- a cut splits the range in two, and the code points with it
  fun_induction utf8SequencesFrom fuel first last with
  | case1 first last => exact Nat.zero_le _
  | case2 fuel first last hempty => exact Nat.zero_le _
  | case3 fuel first last hne cut hcut ihfirst ihlast =>
    have hspec := cutPoint?_spec (Nat.le_of_not_lt hne) hcut
    rw [List.length_append]
    omega
  | case4 fuel first last hne hnone =>
    rw [List.length_singleton]
    omega

/-- A code point is spelled with at most four bytes. -/
theorem length_utf8Bytes_le (n : Nat) : (utf8Bytes n).length ≤ 4 := by
  unfold utf8Bytes
  split
  · exact Nat.le_of_ble_eq_true rfl
  · split
    · exact Nat.le_of_ble_eq_true rfl
    · split
      · exact Nat.le_of_ble_eq_true rfl
      · exact Nat.le_of_ble_eq_true rfl

theorem length_le_of_mem_utf8SequencesFrom {fuel first last : Nat} {bytes : List ByteRange}
    (h : bytes ∈ utf8SequencesFrom fuel first last) : bytes.length ≤ 4 := by
  fun_induction utf8SequencesFrom fuel first last with
  | case1 first last => exact absurd h List.not_mem_nil
  | case2 fuel first last hempty => exact absurd h List.not_mem_nil
  | case3 fuel first last hne cut hcut ihfirst ihlast =>
    rcases List.mem_append.mp h with h | h
    · exact ihfirst h
    · exact ihlast h
  | case4 fuel first last hne hnone =>
    obtain rfl := List.mem_singleton.mp h
    rw [List.length_zip]
    exact Nat.le_trans (Nat.min_le_left ..) (length_utf8Bytes_le first)

/-- The sequences for a set have at most four bytes each. -/
theorem length_le_of_mem_utf8Sequences {s : CodeSet} {bytes : List ByteRange}
    (h : bytes ∈ utf8Sequences s) : bytes.length ≤ 4 := by
  obtain ⟨range, -, h⟩ := List.mem_flatMap.mp h
  exact length_le_of_mem_utf8SequencesFrom h

/-- The characters of a set are spelled by no more sequences than there are code points in it. -/
theorem length_utf8Sequences_le {s : CodeSet} (hs : s.Proper) :
    (utf8Sequences s).length ≤ s.points.length := by
  have hsurrogates : CodeSet.Proper [(0xD800, 0xDFFF)] := by
    unfold CodeSet.Proper
    decide
  -- the surrogates are taken out first, which leaves code points of the set only
  have hcovers (n : Nat) (hn : (s.diff [(0xD800, 0xDFFF)]).Covers n) : n ∈ s.points :=
    CodeSet.mem_points.mpr ((CodeSet.covers_diff hs hsurrogates).mp hn).1
  refine Nat.le_trans ?_ (CodeSet.length_points_le (CodeSet.ascending_diff hs hsurrogates) hcovers)
  unfold utf8Sequences CodeSet.points
  generalize s.diff [(0xD800, 0xDFFF)] = ranges
  induction ranges with
  | nil => exact Nat.le_refl _
  | cons r ranges ih =>
    rw [List.flatMap_cons, List.flatMap_cons, List.length_append, List.length_append,
      List.length_range']
    exact Nat.add_le_add (length_utf8SequencesFrom_le 16 r.1 r.2) ih

/-! ## Shared states -/

/-- The memory of states. -/
def memory : List Transitions → Nat
  | [] => 0
  | t :: states => stateSize + transitionSize * t.length + memory states

/-- Sharing a state adds at most the memory of that state. -/
theorem memory_shareState_le (states : List Transitions) (state : Transitions) :
    memory (shareState states state).2 ≤
      memory states + (stateSize + transitionSize * state.length) := by
  unfold shareState
  -- a state that is there already is not added again
  split
  · exact Nat.le_add_right _ _
  · rw [memory]
    omega

/-- The number of sequences in groups. -/
def groupedCount : List (ByteRange × List (List ByteRange)) → Nat
  | [] => 0
  | group :: groups => group.2.length + groupedCount groups

/-- No group is empty, and no sequence is in two of them. -/
theorem length_groupByHead_le (sequences : List (List ByteRange)) :
    (groupByHead sequences).length ≤ groupedCount (groupByHead sequences) ∧
      groupedCount (groupByHead sequences) ≤ sequences.length := by
  -- a sequence joins the first group or opens a new one
  fun_induction groupByHead sequences with
  | case1 => exact ⟨Nat.le_refl _, Nat.le_refl _⟩
  | case2 rest ih => exact ⟨ih.1, Nat.le_succ_of_le ih.2⟩
  | case3 tail rest head tails groups hgroups ih =>
    rw [hgroups] at ih
    simp only [List.length_cons, groupedCount] at ih ⊢
    omega
  | case4 head tail rest h tails groups hgroups hne ih =>
    rw [hgroups] at ih
    simp only [List.length_cons, groupedCount, List.length_nil] at ih ⊢
    omega
  | case5 head tail rest hgroups ih =>
    simp only [List.length_cons, groupedCount, List.length_nil]
    omega

/-- Adds the states of the sequences of a group, and a transition to the first of them. -/
def shareGroup (depth : Nat) : Transitions × List Transitions →
    ByteRange × List (List ByteRange) → Transitions × List Transitions
  | (acc, states), (range, tails) =>
    let (target, states) := shareSuffixes depth states tails
    (acc ++ [(range, target)], states)

/-- Sequences are grouped by their first byte, and each group shares the states of its tails. -/
theorem shareSuffixes_succ (depth : Nat) (states : List Transitions)
    (sequences : List (List ByteRange)) :
    shareSuffixes (depth + 1) states sequences =
      if sequences.all List.isEmpty then (0, states)
      else
        let (state, states) := (groupByHead sequences).foldl (shareGroup depth) ([], states)
        shareState states state := rfl

/-- The memory that a sequence adds for each of its bytes. -/
def byteSize : Nat := stateSize + transitionSize

/-- Groups add the memory of their tails, and one transition each. -/
theorem memory_foldl_shareGroup_le {depth : Nat}
    (h : ∀ states sequences, memory (shareSuffixes depth states sequences).2 ≤
      memory states + depth * (byteSize * sequences.length))
    (groups : List (ByteRange × List (List ByteRange))) (acc : Transitions)
    (states : List Transitions) :
    (groups.foldl (shareGroup depth) (acc, states)).1.length = acc.length + groups.length ∧
      memory (groups.foldl (shareGroup depth) (acc, states)).2 ≤
        memory states + depth * (byteSize * groupedCount groups) := by
  -- the states grow from group to group, so the induction is for all of them
  induction groups generalizing acc states with
  | nil => exact ⟨rfl, Nat.le_add_right _ _⟩
  | cons group groups ih =>
    have hgroup := h states group.2
    obtain ⟨hlength, hmemory⟩ := ih (acc ++ [(group.1, (shareSuffixes depth states group.2).1)])
      (shareSuffixes depth states group.2).2
    rw [List.length_append, List.length_singleton] at hlength
    rw [List.foldl_cons, groupedCount, List.length_cons, Nat.mul_add, Nat.mul_add]
    refine ⟨hlength.trans (by omega), Nat.le_trans hmemory ?_⟩
    omega

/-- Sequences add no more states than they have bytes. -/
theorem memory_shareSuffixes_le (depth : Nat) (states : List Transitions)
    (sequences : List (List ByteRange)) :
    memory (shareSuffixes depth states sequences).2 ≤
      memory states + depth * (byteSize * sequences.length) := by
  -- the tails are one byte shorter, so the depth falls
  induction depth generalizing states sequences with
  | zero => exact Nat.le_add_right _ _
  | succ depth ih =>
    rw [shareSuffixes_succ]
    split
    · exact Nat.le_add_right _ _
    · next hsome =>
      have hne : 1 ≤ sequences.length := by
        rw [Nat.one_le_iff_ne_zero, Ne, List.length_eq_zero_iff]
        rintro rfl
        exact hsome rfl
      obtain ⟨hgroups, hsequences⟩ := length_groupByHead_le sequences
      obtain ⟨hlength, hmemory⟩ := memory_foldl_shareGroup_le ih (groupByHead sequences) [] states
      have hstate := memory_shareState_le
        ((groupByHead sequences).foldl (shareGroup depth) ([], states)).2
        ((groupByHead sequences).foldl (shareGroup depth) ([], states)).1
      have hdeep := Nat.mul_le_mul_left depth (Nat.mul_le_mul_left byteSize hsequences)
      rw [hlength] at hstate
      -- the state itself has a transition for each group
      have hown : stateSize + transitionSize * (groupByHead sequences).length ≤
          byteSize * sequences.length := by
        unfold byteSize stateSize transitionSize
        omega
      rw [List.length_nil, Nat.zero_add] at hstate
      rw [Nat.succ_mul]
      exact Nat.le_trans hstate (by omega)

/-! ## Sets -/

/-- The memory of a set read forwards grows with its sequences. -/
theorem forwardSetSize_le (sequences : List (List ByteRange)) :
    forwardSetSize sequences ≤ stateSize + 5 * (byteSize * sequences.length) := by
  -- the sum over the states is their memory
  have hfold (states : List Transitions) (n : Nat) :
      states.foldl (fun n t => n + stateSize + transitionSize * t.length) n =
        n + memory states := by
    induction states generalizing n with
    | nil => rfl
    | cons t states ih =>
      rw [List.foldl_cons, ih, memory]
      omega
  have hshare := memory_shareSuffixes_le 5 [] sequences
  have hnone : memory [] = 0 := rfl
  unfold forwardSetSize
  simp only
  rw [hfold]
  omega

/-- The memory of a set read backwards grows with its sequences. -/
theorem backwardSetSize_le {sequences : List (List ByteRange)}
    (hbytes : ∀ bytes ∈ sequences, bytes.length ≤ 4) :
    backwardSetSize sequences ≤
      3 * stateSize + (branchSize + 4 * stateSize) * sequences.length := by
  -- a sequence of four bytes has four beginnings
  have hbeginnings : (sequences.flatMap fun s =>
      (List.range s.length).map fun i => s.take (i + 1)).length ≤ 4 * sequences.length := by
    induction sequences with
    | nil => exact Nat.le_refl _
    | cons bytes sequences ih =>
      obtain ⟨hfirst, hrest⟩ := List.forall_mem_cons.mp hbytes
      have hle := ih hrest
      rw [List.flatMap_cons, List.length_append, List.length_map, List.length_range,
        List.length_cons]
      omega
  -- the beginnings that differ are no more than the beginnings
  have hdistinct (keys : List Nat) (p : Nat × Nat → Bool) :
      (keys.zip (keys.drop 1)).countP p ≤ keys.length := by
    refine Nat.le_trans List.countP_le_length ?_
    rw [List.length_zip]
    exact Nat.min_le_left ..
  unfold backwardSetSize
  simp only
  refine Nat.le_trans (Nat.add_le_add_left (Nat.mul_le_mul_left _ (Nat.add_le_add_right
    (hdistinct _ _) 1)) _) ?_
  rw [List.length_mergeSort, List.length_map]
  unfold branchSize stateSize
  omega

/-- The memory of a set grows with its ranges and with the sequences that spell it. -/
theorem setSize_le (direction : Direction) (s : CodeSet) :
    setSize direction s ≤
      4 * stateSize + transitionSize * s.length + 5 * (byteSize * (utf8Sequences s).length) := by
  -- the empty set and a set of one character are special, and take less
  unfold setSize
  split
  · omega
  · next a b rest =>
    split
    · have hbytes := Nat.mul_le_mul_left stateSize (length_utf8Bytes_le a)
      omega
    · split
      · omega
      · cases direction with
        | forward =>
          have hforward := forwardSetSize_le (utf8Sequences ((a, b) :: rest))
          simp only
          omega
        | backward =>
          have hbytes (bytes : List ByteRange) (h : bytes ∈ utf8Sequences ((a, b) :: rest)) :=
            length_le_of_mem_utf8Sequences h
          have hbackward := backwardSetSize_le hbytes
          have hsequences : (branchSize + 4 * stateSize) * (utf8Sequences ((a, b) :: rest)).length ≤
              5 * (byteSize * (utf8Sequences ((a, b) :: rest)).length) := by
            unfold branchSize byteSize stateSize transitionSize
            omega
          simp only
          omega

/-- The memory of a set grows with its characters. -/
theorem setSize_le_of_proper (direction : Direction) {s : CodeSet} (hs : s.Proper) :
    setSize direction s ≤ 4 * stateSize + (transitionSize + 5 * byteSize) * s.points.length := by
  have hsize := setSize_le direction s
  have hranges := CodeSet.length_le_length_points hs
  have hsequences := length_utf8Sequences_le hs
  unfold byteSize stateSize transitionSize at *
  omega

/-! ## Trees -/

/-- A sequence of trees takes no more than as many times the largest. -/
theorem Tree.sizeSum_le {direction : Direction} {bound : Nat} {parts : List Tree}
    (h : ∀ t ∈ parts, t.size direction ≤ bound) :
    Tree.sizeSum direction parts ≤ parts.length * bound := by
  induction parts with
  | nil => exact Nat.zero_le _
  | cons t parts ih =>
    obtain ⟨ht, hparts⟩ := List.forall_mem_cons.mp h
    have hsum := ih hparts
    rw [List.length_cons, Nat.succ_mul]
    -- an empty tree is left out of the sum
    by_cases hempty : t = .empty
    · rw [hempty, Tree.sizeSum]
      omega
    · have hcons : Tree.sizeSum direction (t :: parts) =
          t.size direction + Tree.sizeSum direction parts := by
        simp only [Tree.sizeSum]
      omega

end RecordRules.Regex
