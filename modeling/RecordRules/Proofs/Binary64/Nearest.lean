import RecordRules.Proofs.Binary64.Magnitude

/-!
# Integers as numbers

A number keeps 53 significant bits, so an integer becomes the nearest one with no more than
that.  This module describes that integer (`nearest`) without the scale of the format, and says
what rounding does to the order: it never turns it around, but it may make two integers equal.

## Key results

- `place?_ofInt`: where the number nearest to a 64-bit integer stands
- `nearest_mono`: rounding keeps the order
- `nearest_eq_self`: up to `2 ^ 53` nothing is rounded
- `le_natAbs_of_nearest_eq`: only from there on two integers may become one number
- `natAbs_nearest_sub_le`: no 64-bit integer is moved by more than 512
-/

namespace RecordRules.Binary64

/-! ## Rounding to the nearest multiple -/

/-- A rounded quotient does not depend on the scale of its parts. -/
theorem divNearestEven_mul_right (num den : Nat) {k : Nat} (hk : 0 < k) :
    divNearestEven (num * k) (den * k) = divNearestEven num den := by
  have hlt (a b : Nat) : a * k < b * k ↔ a < b := Nat.mul_lt_mul_right hk
  unfold divNearestEven
  simp only [Nat.mul_div_mul_right _ _ hk, Nat.mul_mod_mul_right, ← Nat.mul_assoc, hlt]

/-- A quotient without a remainder is not rounded. -/
theorem divNearestEven_self_mul (m : Nat) {den : Nat} (hden : 0 < den) :
    divNearestEven (m * den) den = m := by
  unfold divNearestEven
  simp only [Nat.mul_div_cancel _ hden, Nat.mul_mod_left, Nat.mul_zero, if_pos hden]

/-- Rounding keeps the order of quotients with one denominator. -/
theorem divNearestEven_mono {a b : Nat} (den : Nat) (h : a ≤ b) :
    divNearestEven a den ≤ divNearestEven b den := by
  rcases Nat.lt_or_eq_of_le (Nat.div_le_div_right (c := den) h) with hlt | heq
  · -- one more than the smaller quotient is at most the larger one
    have := divNearestEven_le a den
    have := le_divNearestEven b den
    omega
  · -- the same quotient: the remainders are in order
    have ha := Nat.div_add_mod a den
    have hb := Nat.div_add_mod b den
    have hmod : a % den ≤ b % den := by
      rw [heq] at ha
      omega
    unfold divNearestEven
    simp only [heq]
    grind

/-- The multiple that is chosen is at most half the distance of two multiples away. -/
theorem divNearestEven_near (num : Nat) {den : Nat} (hden : 0 < den) :
    2 * (divNearestEven num den * den) ≤ 2 * num + den ∧
      2 * num ≤ 2 * (divNearestEven num den * den) + den := by
  have hnum : num / den * den + num % den = num := Nat.div_add_mod' num den
  have hmod := Nat.mod_lt num hden
  have hsucc : (num / den + 1) * den = num / den * den + den := Nat.succ_mul ..
  unfold divNearestEven
  dsimp only
  -- the remainder is below half of the denominator, above it, or just half of it
  split
  · omega
  · split
    · omega
    · split <;> omega

/-! ## The nearest integer with 53 significant bits -/

/-- A natural, rounded to 53 significant bits; a tie goes to the even last bit. -/
def nearestNat (n : Nat) : Nat :=
  divNearestEven n (twoTo (lastPlace n)) * twoTo (lastPlace n)

/-- An integer, rounded to 53 significant bits. -/
def nearest (n : Int) : Int :=
  if n < 0 then -(nearestNat n.natAbs : Int) else nearestNat n.natAbs

/-- Naturals up to `2 ^ 53` have no more than 53 significant bits. -/
theorem nearestNat_eq_self {n : Nat} (h : n ≤ twoTo 53) : nearestNat n = n := by
  rcases Nat.lt_or_eq_of_le h with hlt | rfl
  · -- fewer bits than are kept
    have hplace : lastPlace n = 0 := by
      have := log2_lt_of_lt (by decide) hlt
      unfold lastPlace
      omega
    have hone : divNearestEven (n * 1) 1 = n := divNearestEven_self_mul n Nat.one_pos
    unfold nearestNat
    rw [hplace]
    rw [Nat.mul_one] at hone
    exact (Nat.mul_one _).trans hone
  -- `2 ^ 53` itself has one bit more, which is a zero
  · decide

/-- Rounding does not carry past the next power of two. -/
theorem nearestNat_le_twoTo (n : Nat) : nearestNat n ≤ twoTo (n.log2 + 1) := by
  have hn := lt_twoTo_log2 n
  -- with fewer bits than 53 nothing is rounded; else 53 bits are kept and one may carry
  by_cases hlog : n.log2 < 52
  · have hle : n ≤ twoTo 53 := Nat.le_trans (Nat.le_of_lt hn) (twoTo_le (by omega))
    rw [nearestNat_eq_self hle]
    omega
  · have hbits : n.log2 + 1 = 53 + lastPlace n := by
      unfold lastPlace
      omega
    unfold nearestNat
    rw [hbits, twoTo_add] at hn ⊢
    have hdiv : n / twoTo (lastPlace n) < twoTo 53 :=
      (Nat.div_lt_iff_lt_mul (twoTo_pos _)).mpr hn
    have := divNearestEven_le n (twoTo (lastPlace n))
    exact Nat.mul_le_mul_right _ (by omega)

/-- Rounding keeps the first bit. -/
theorem twoTo_log2_le_nearestNat {n : Nat} (h : n ≠ 0) : twoTo n.log2 ≤ nearestNat n := by
  have hn := twoTo_log2_le h
  by_cases hlog : n.log2 < 52
  · have hle : n ≤ twoTo 53 := Nat.le_trans (Nat.le_of_lt (lt_twoTo_log2 n)) (twoTo_le (by omega))
    rw [nearestNat_eq_self hle]
    exact hn
  · have hbits : n.log2 = 52 + lastPlace n := by
      unfold lastPlace
      omega
    have hdiv : twoTo 52 ≤ n / twoTo (lastPlace n) := by
      rw [Nat.le_div_iff_mul_le (twoTo_pos _), ← twoTo_add, ← hbits]
      exact hn
    rw [hbits, twoTo_add]
    exact Nat.mul_le_mul_right _ (Nat.le_trans hdiv (le_divNearestEven ..))

/-- Rounding keeps the order of naturals. -/
theorem nearestNat_mono {a b : Nat} (h : a ≤ b) : nearestNat a ≤ nearestNat b := by
  by_cases ha : a = 0
  · rw [ha]
    exact Nat.zero_le _
  have hb : b ≠ 0 := by omega
  have hlog : a.log2 ≤ b.log2 := (Nat.le_log2 hb).mpr (Nat.le_trans (twoTo_log2_le ha) h)
  rcases Nat.lt_or_eq_of_le hlog with hlt | heq
  · -- a power of two lies between the two
    calc nearestNat a
        ≤ twoTo (a.log2 + 1) := nearestNat_le_twoTo a
      _ ≤ twoTo b.log2 := twoTo_le hlt
      _ ≤ nearestNat b := twoTo_log2_le_nearestNat hb
  -- with as many bits both lose the same places, and quotients keep their order
  · have hplace : lastPlace a = lastPlace b := by
      unfold lastPlace
      rw [heq]
    unfold nearestNat
    rw [hplace]
    exact Nat.mul_le_mul_right _ (divNearestEven_mono _ h)

/-- Rounding keeps the order of integers. -/
theorem nearest_mono {a b : Int} (h : a ≤ b) : nearest a ≤ nearest b := by
  unfold nearest
  -- rounding forgets the sign, so negative integers are compared the other way round
  by_cases ha : a < 0
  · by_cases hb : b < 0
    · have := nearestNat_mono (a := b.natAbs) (b := a.natAbs) (by omega)
      rw [if_pos ha, if_pos hb]
      omega
    · rw [if_pos ha, if_neg hb]
      omega
  · have hb : ¬ b < 0 := by omega
    have := nearestNat_mono (a := a.natAbs) (b := b.natAbs) (by omega)
    rw [if_neg ha, if_neg hb]
    omega

/-- Up to `2 ^ 53` nothing is rounded. -/
theorem nearest_eq_self {n : Int} (h : n.natAbs ≤ twoTo 53) : nearest n = n := by
  unfold nearest
  rw [nearestNat_eq_self h]
  split <;> omega

/-- Two different integers become one number only from `2 ^ 53` on. -/
theorem le_natAbs_of_nearest_eq {a b : Int} (h : nearest a = nearest b) (hne : a ≠ b) :
    twoTo 53 ≤ a.natAbs := by
  have hpow : nearest (twoTo 53 : Int) = twoTo 53 := nearest_eq_self (by omega)
  have hneg : nearest (-(twoTo 53 : Int)) = -(twoTo 53 : Int) := nearest_eq_self (by omega)
  by_cases hb : b.natAbs ≤ twoTo 53
  · rw [nearest_eq_self hb] at h
    by_cases ha : a.natAbs ≤ twoTo 53
    · -- neither of the two is rounded
      rw [nearest_eq_self ha] at h
      exact absurd h hne
    · omega
  · -- `b` is rounded, but not across a power of two
    by_cases ha : a.natAbs ≤ twoTo 53
    · rw [nearest_eq_self ha] at h
      by_cases hsign : b < 0
      · have := nearest_mono (a := b) (b := -(twoTo 53 : Int)) (by omega)
        omega
      · have := nearest_mono (a := (twoTo 53 : Int)) (b := b) (by omega)
        omega
    · omega

/-- A 64-bit integer is moved by at most half of `2 ^ 10`, the distance of the numbers around
    the largest integers. -/
theorem natAbs_nearest_sub_le {n : Int} (h : isSigned64 n) : (nearest n - n).natAbs ≤ 512 := by
  have hword : n.natAbs ≤ twoTo 63 := by
    simp only [isSigned64, Bool.and_eq_true, decide_eq_true_eq] at h
    omega
  have hnear : nearestNat n.natAbs ≤ n.natAbs + 512 ∧ n.natAbs ≤ nearestNat n.natAbs + 512 := by
    -- only the least integer needs all 64 bits, and it is a power of two
    rcases Nat.lt_or_eq_of_le hword with hlt | heq
    · have hplace : lastPlace n.natAbs ≤ 10 := by
        have := log2_lt_of_lt (by decide) hlt
        unfold lastPlace
        omega
      have hstep : twoTo (lastPlace n.natAbs) ≤ 1024 := twoTo_le hplace
      -- half of the distance of two multiples is at most 512
      have hdist := divNearestEven_near n.natAbs (twoTo_pos (lastPlace n.natAbs))
      unfold nearestNat
      omega
    · rw [heq]
      decide
  unfold nearest
  split <;> omega

/-! ## Where the number nearest to an integer stands -/

/-- A natural in units, rounded, is the rounded natural in units. -/
private theorem divNearestEven_scaled (n : Nat) {unit : Nat} (hunit : 52 ≤ unit) :
    divNearestEven (n * twoTo unit) (twoTo (lastPlace (n * twoTo unit))) *
      twoTo (lastPlace (n * twoTo unit)) = nearestNat n * twoTo unit := by
  by_cases hn : n = 0
  · subst hn
    simp only [Nat.zero_mul]
    exact (Nat.zero_mul _).symm
  -- in units a natural has as many bits more as the scale has zeros
  have hlog : (n * twoTo unit).log2 = n.log2 + unit := by
    have hne : n * twoTo unit ≠ 0 := Nat.mul_ne_zero hn (Nat.ne_of_gt (twoTo_pos _))
    refine (Nat.log2_eq_iff hne).mpr ⟨?_, ?_⟩
    · have hge := Nat.mul_le_mul_right (twoTo unit) (twoTo_log2_le hn)
      rw [← twoTo_add] at hge
      exact hge
    · have hlt := Nat.mul_lt_mul_of_pos_right (lt_twoTo_log2 n) (twoTo_pos unit)
      rw [← twoTo_add] at hlt
      exact Nat.lt_of_lt_of_le hlt (twoTo_le (by omega))
  by_cases hbits : n.log2 < 52
  · -- all bits are kept, in units as in the natural
    have hexact : twoTo unit = twoTo (52 - n.log2) * twoTo (lastPlace (n * twoTo unit)) := by
      have hsum : 52 - n.log2 + lastPlace (n * twoTo unit) = unit := by
        unfold lastPlace
        omega
      rw [← twoTo_add, hsum]
    have hle : n ≤ twoTo 53 := Nat.le_trans (Nat.le_of_lt (lt_twoTo_log2 n)) (twoTo_le (by omega))
    generalize lastPlace (n * twoTo unit) = place at hexact
    rw [nearestNat_eq_self hle, hexact, ← Nat.mul_assoc,
      divNearestEven_self_mul _ (twoTo_pos place)]
  · have hplace : lastPlace (n * twoTo unit) = lastPlace n + unit := by
      unfold lastPlace
      omega
    rw [hplace, twoTo_add, divNearestEven_mul_right _ _ (twoTo_pos _)]
    exact (Nat.mul_assoc ..).symm

/-- The number nearest to a 64-bit integer stands where the rounded integer stands, counted in
    units. -/
theorem place?_ofInt {n : Int} (h : isSigned64 n) :
    (ofInt n).place? = some (nearest n * twoTo unitExponent) := by
  -- the number is finite, which rules the overflowing branch out
  obtain ⟨s, u, hr, hof, -⟩ := moderate_ofInt (.inl h)
  unfold ofInt ofRatio ofUnits at hof ⊢
  simp only [Nat.div_one, Nat.one_mul, divNearestEven_scaled _ (by decide : 52 ≤ unitExponent)]
    at hof ⊢
  split at hof
  next hfin =>
    rw [dif_pos hfin]
    unfold nearest place?
    by_cases hneg : n < 0
    · simp only [hneg, decide_true, if_true]
      rw [Int.neg_mul, Int.natCast_mul]
    · simp only [hneg, decide_false, if_false, Bool.false_eq_true]
      rw [Int.natCast_mul]
  next => cases hof

/-- A positive scale keeps the order. -/
private theorem compare_mul_right (a b : Int) {unit : Int} (hunit : 0 < unit) :
    compare (a * unit) (b * unit) = compare a b := by
  simp only [compare, compareOfLessAndEq, Int.mul_lt_mul_right hunit,
    Int.mul_eq_mul_right_iff (Int.ne_of_gt hunit)]

/-- Numbers that have a place are in the order of their places. -/
theorem compare?_of_place? {x y : Binary64} {a b : Int} (hx : x.place? = some a)
    (hy : y.place? = some b) : x.compare? y = some (compare a b) := by
  unfold compare?
  rw [hx, hy]

/-- Integers compare as numbers the way the rounded integers compare. -/
theorem compare?_ofInt {a b : Int} (ha : isSigned64 a) (hb : isSigned64 b) :
    (ofInt a).compare? (ofInt b) = some (compare (nearest a) (nearest b)) := by
  rw [compare?_of_place? (place?_ofInt ha) (place?_ofInt hb),
    compare_mul_right _ _ (Int.natCast_pos.mpr (twoTo_pos unitExponent))]

/-- Integers are equal as numbers when they are rounded to one. -/
theorem ofInt_eq_iff {a b : Int} (ha : isSigned64 a) (hb : isSigned64 b) :
    (ofInt a).eq (ofInt b) = true ↔ nearest a = nearest b := by
  unfold eq
  rw [compare?_ofInt ha hb, beq_iff_eq, Option.some.injEq, Int.compare_eq_eq]

/-- Up to `2 ^ 53` integers compare as numbers the way they compare themselves. -/
theorem compare?_ofInt_of_le {a b : Int} (ha : a.natAbs ≤ twoTo 53) (hb : b.natAbs ≤ twoTo 53) :
    (ofInt a).compare? (ofInt b) = some (compare a b) := by
  -- what is not rounded fits a word by far
  have hword {n : Int} (h : n.natAbs ≤ twoTo 53) : isSigned64 n := by
    have : twoTo 53 < twoTo 63 := twoTo_lt (by decide)
    simp only [isSigned64, Bool.and_eq_true, decide_eq_true_eq]
    omega
  rw [compare?_ofInt (hword ha) (hword hb), nearest_eq_self ha, nearest_eq_self hb]

end RecordRules.Binary64
