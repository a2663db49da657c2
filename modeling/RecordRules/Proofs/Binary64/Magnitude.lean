import RecordRules.Binary64.Basic

/-!
# How large rounded numbers are

Rounding a ratio of units overflows only past the largest finite number.  Below a power of
two it stays there (`ofUnits_le`), and from a power of two on it never drops below
(`ofUnits_ge`).  Hence 64-bit integers are finite as numbers, and so is what is left of a
moderate number after dividing it by more than one.
-/

namespace RecordRules

theorem twoTo_le {a b : Nat} (h : a ≤ b) : twoTo a ≤ twoTo b :=
  Nat.pow_le_pow_right (by decide) h

theorem twoTo_lt {a b : Nat} (h : a < b) : twoTo a < twoTo b :=
  Nat.pow_lt_pow_right (by decide) h

theorem twoTo_succ (e : Nat) : twoTo (e + 1) = 2 * twoTo e := by
  rw [twoTo_add, Nat.mul_comm]
  rfl

theorem lt_twoTo_log2 (q : Nat) : q < twoTo (q.log2 + 1) :=
  Nat.lt_log2_self

theorem twoTo_log2_le {q : Nat} (h : q ≠ 0) : twoTo q.log2 ≤ q :=
  Nat.log2_self_le h

/-- Below a power of two the logarithm is below its exponent. -/
theorem log2_lt_of_lt {q k : Nat} (hk : 0 < k) (h : q < twoTo k) : q.log2 < k := by
  -- zero has the logarithm zero, but is below no logarithm's power
  by_cases hq : q = 0
  · rw [hq, Nat.log2_zero]
    exact hk
  · exact (Nat.log2_lt hq).mpr h

/-- A natural fits a word without a sign when it is below `2 ^ 64`. -/
theorem isUnsigned64_natCast {n : Nat} : isUnsigned64 n ↔ n < twoTo 64 := by
  unfold isUnsigned64
  -- the value of the bound does not matter, and `omega` need not compute it
  generalize twoTo 64 = bound
  simp only [Bool.and_eq_true, decide_eq_true_eq]
  omega

/-- The negative of a natural fits a word with a sign up to `2 ^ 63`. -/
theorem isSigned64_neg_natCast {n : Nat} : isSigned64 (-(n : Int)) ↔ n ≤ twoTo 63 := by
  have hpos := twoTo_pos 63
  unfold isSigned64
  generalize twoTo 63 = bound at *
  simp only [Bool.and_eq_true, decide_eq_true_eq]
  omega

/-- A word with a sign is worth an integer that fits. -/
theorem isSigned64_toInt (n : Int64) : isSigned64 n.toInt := by
  have hlow := Int64.le_toInt n
  have hhigh := Int64.toInt_lt n
  -- the bounds of the word are literals, which `omega` can compare
  have hword : (twoTo 63 : Int) = 2 ^ 63 := by decide
  simp only [isSigned64, hword, Bool.and_eq_true, decide_eq_true_eq]
  omega

/-- No other integers fit. -/
theorem isSigned64_iff {n : Int} : isSigned64 n = true ↔ ∃ m : Int64, m.toInt = n := by
  constructor
  · intro h
    have hword : (twoTo 63 : Int) = 2 ^ 63 := by decide
    simp only [isSigned64, hword, Bool.and_eq_true, decide_eq_true_eq] at h
    exact ⟨.ofInt n, Int64.toInt_ofInt_of_le h.1 h.2⟩
  · rintro ⟨m, rfl⟩
    exact isSigned64_toInt m

namespace Binary64

/-- Rounding a quotient never goes down. -/
theorem le_divNearestEven (num den : Nat) : num / den ≤ divNearestEven num den := by
  unfold divNearestEven
  grind

/-- The significand of a quotient: the quotient without its lowest bits, or one more. -/
private def significand (num den : Nat) : Nat :=
  divNearestEven num (den * twoTo (lastPlace (num / den)))

/-- The significand is the quotient without its lowest bits, plus one at most. -/
private theorem significand_le_succ (num den : Nat) :
    significand num den ≤ num / den / twoTo (lastPlace (num / den)) + 1 := by
  rw [Nat.div_div_eq_div_mul]
  exact divNearestEven_le ..

/-- The significand is at least the quotient without its lowest bits. -/
private theorem le_significand (num den : Nat) :
    num / den / twoTo (lastPlace (num / den)) ≤ significand num den := by
  rw [Nat.div_div_eq_div_mul]
  exact le_divNearestEven ..

/-- A significand has 53 bits, or is the power of two just past them. -/
private theorem significand_le (num den : Nat) : significand num den ≤ twoTo 53 := by
  -- the bits above the last place are 53 at most; rounding may carry into one more
  have hq : num / den < twoTo 53 * twoTo (lastPlace (num / den)) := by
    rw [← twoTo_add]
    exact Nat.lt_of_lt_of_le (lt_twoTo_log2 _) (twoTo_le (by unfold lastPlace; omega))
  have hdiv : num / den / twoTo (lastPlace (num / den)) < twoTo 53 :=
    (Nat.div_lt_iff_lt_mul (twoTo_pos _)).mpr hq
  have := significand_le_succ num den
  omega

/-- Rounding gives a finite number unless its magnitude overflows. -/
private theorem ofUnits_eq (negative : Bool) {num den : Nat}
    (h : significand num den * twoTo (lastPlace (num / den)) < overflowUnits) :
    ∃ hr, ofUnits negative num den =
      .finite negative (significand num den * twoTo (lastPlace (num / den))) hr := by
  -- the significand may be `2 ^ 53`, which is representable as a carry
  refine ⟨.of_carry (significand_le num den) h, ?_⟩
  unfold ofUnits
  exact dif_pos ⟨significand_le num den, h⟩

/-- A quotient below a power of two is rounded to a finite number that is not above it. -/
theorem ofUnits_le (negative : Bool) {num den k : Nat} (hlow : 53 ≤ k)
    (hhigh : k < 1024 + unitExponent) (h : num < twoTo k * den) :
    ∃ u hr, ofUnits negative num den = .finite negative u hr ∧ u ≤ twoTo k := by
  have hden : 0 < den := Nat.pos_of_ne_zero fun h0 => by simp [h0] at h
  have hq : num / den < twoTo k := (Nat.div_lt_iff_lt_mul hden).mpr h
  -- the last place lies at least 53 places below the power of two
  have hplace : 53 + lastPlace (num / den) ≤ k := by
    have := log2_lt_of_lt (by omega) hq
    unfold lastPlace
    omega
  have hu : significand num den * twoTo (lastPlace (num / den)) ≤ twoTo k := by
    calc significand num den * twoTo (lastPlace (num / den))
        ≤ twoTo 53 * twoTo (lastPlace (num / den)) :=
          Nat.mul_le_mul_right _ (significand_le num den)
      _ = twoTo (53 + lastPlace (num / den)) := (twoTo_add ..).symm
      _ ≤ twoTo k := twoTo_le hplace
  obtain ⟨hr, heq⟩ := ofUnits_eq negative (Nat.lt_of_le_of_lt hu (twoTo_lt hhigh))
  exact ⟨_, hr, heq, hu⟩

/-- A quotient from a power of two on is not rounded below it. -/
theorem ofUnits_ge (negative : Bool) {num den k : Nat} (hden : 0 < den)
    (h : twoTo k * den ≤ num) :
    ofUnits negative num den = .infinity negative ∨
      ∃ u hr, ofUnits negative num den = .finite negative u hr ∧ twoTo k ≤ u := by
  have hq : twoTo k ≤ num / den := (Nat.le_div_iff_mul_le hden).mpr h
  -- cutting off bits is the only loss, and the two cases say which bits these are
  have hu : twoTo k ≤ significand num den * twoTo (lastPlace (num / den)) := by
    have hlow := Nat.mul_le_mul_right (twoTo (lastPlace (num / den))) (le_significand num den)
    by_cases hplace : lastPlace (num / den) ≤ k
    · -- the bits that are cut off lie below the power of two
      obtain ⟨d, rfl⟩ := Nat.exists_eq_add_of_le hplace
      have hd : twoTo d ≤ num / den / twoTo (lastPlace (num / den)) := by
        rw [Nat.le_div_iff_mul_le (twoTo_pos _), ← twoTo_add, Nat.add_comm]
        exact hq
      calc twoTo (lastPlace (num / den) + d)
          = twoTo d * twoTo (lastPlace (num / den)) := by rw [Nat.add_comm, twoTo_add]
        _ ≤ num / den / twoTo (lastPlace (num / den)) * twoTo (lastPlace (num / den)) :=
          Nat.mul_le_mul_right _ hd
        _ ≤ _ := hlow
    · -- 53 bits are kept, the first of which is worth more than the power of two
      have hlog : lastPlace (num / den) + 52 = (num / den).log2 := by
        unfold lastPlace at hplace ⊢
        omega
      have hne : num / den ≠ 0 := Nat.ne_of_gt (Nat.lt_of_lt_of_le (twoTo_pos k) hq)
      have hd : twoTo 52 ≤ num / den / twoTo (lastPlace (num / den)) := by
        rw [Nat.le_div_iff_mul_le (twoTo_pos _), ← twoTo_add, Nat.add_comm, hlog]
        exact twoTo_log2_le hne
      calc twoTo k
          ≤ twoTo (52 + lastPlace (num / den)) := twoTo_le (by omega)
        _ = twoTo 52 * twoTo (lastPlace (num / den)) := twoTo_add ..
        _ ≤ num / den / twoTo (lastPlace (num / den)) * twoTo (lastPlace (num / den)) :=
          Nat.mul_le_mul_right _ hd
        _ ≤ _ := hlow
  -- the bound on the units holds in either case, but only finite numbers have units
  by_cases hfin : significand num den * twoTo (lastPlace (num / den)) < overflowUnits
  · obtain ⟨hr, heq⟩ := ofUnits_eq negative hfin
    exact .inr ⟨_, hr, heq, hu⟩
  · refine .inl ?_
    unfold ofUnits
    exact dif_neg fun hc => hfin hc.2

/-! ## Numbers up to `2 ^ 64` -/

/-- A finite number of at most `2 ^ 64`, apart from its sign. -/
def Moderate (x : Binary64) : Prop :=
  ∃ s u hr, x = .finite s u hr ∧ u ≤ twoTo (64 + unitExponent)

/-- Moderate numbers are finite. -/
theorem Moderate.isFinite {x : Binary64} (h : x.Moderate) : x.isFinite := by
  obtain ⟨s, u, hr, rfl, -⟩ := h
  rfl

/-- A quotient below `2 ^ 64`, counted in units, is rounded to a moderate number. -/
theorem moderate_ofUnits (negative : Bool) {num den : Nat}
    (h : num < twoTo (64 + unitExponent) * den) : (ofUnits negative num den).Moderate := by
  obtain ⟨u, hr, heq, hu⟩ := ofUnits_le negative (by decide) (by decide) h
  exact ⟨negative, u, hr, heq, hu⟩

/-- A natural below `2 ^ 64` is moderate as a number. -/
theorem moderate_ofRatio (negative : Bool) {n : Nat} (h : n < twoTo 64) :
    (ofRatio negative n 1).Moderate := by
  refine moderate_ofUnits negative ?_
  rw [Nat.mul_one, twoTo_add]
  exact Nat.mul_lt_mul_of_pos_right h (twoTo_pos _)

/-- So is every integer of a word, with a sign or without. -/
theorem moderate_ofInt {n : Int} (h : isSigned64 n ∨ isUnsigned64 n) : (ofInt n).Moderate := by
  refine moderate_ofRatio _ ?_
  -- the magnitude of an integer with a sign is at most half of `2 ^ 64`
  have h63 : twoTo 63 + twoTo 63 = twoTo 64 := by decide
  simp only [isSigned64, isUnsigned64, Bool.and_eq_true, decide_eq_true_eq] at h
  omega

/-- Infinite, or finite and at least two. -/
def AtLeastTwo (y : Binary64) : Prop :=
  (∃ s, y = .infinity s) ∨ ∃ s v hr, y = .finite s v hr ∧ twoTo (1 + unitExponent) ≤ v

/-- Dividing by two or more keeps a number moderate. -/
theorem Moderate.div {x y : Binary64} (hx : x.Moderate) (hy : y.AtLeastTwo) :
    (x.div y).Moderate := by
  obtain ⟨s, u, hr, rfl, hu⟩ := hx
  -- dividing by an infinity gives zero, and by a finite number less than the dividend
  rcases hy with ⟨t, rfl⟩ | ⟨t, v, hr', rfl, hv⟩
  · exact ⟨_, 0, _, rfl, Nat.zero_le _⟩
  · have hpos : twoTo unitExponent < v := Nat.lt_of_lt_of_le (twoTo_lt (by omega)) hv
    have hv0 : v ≠ 0 := by omega
    simp only [Binary64.div, if_pos hv0]
    refine moderate_ofUnits _ ?_
    -- the divisor is more than one unit of the format, so the quotient is below `u`
    calc u * twoTo unitExponent
        ≤ twoTo (64 + unitExponent) * twoTo unitExponent := Nat.mul_le_mul_right _ hu
      _ < twoTo (64 + unitExponent) * v := Nat.mul_lt_mul_of_pos_left hpos (twoTo_pos _)

/-- A power of ten is the real nearest to it. -/
theorem ofDecimal_one {n : Nat} (hn : n ≤ 308) :
    ofDecimal false 1 n = ofUnits false (tenTo n * twoTo unitExponent) 1 := by
  have hone : decimalWidth 1 = 1 := by decide
  unfold ofDecimal ofRatio
  rw [hone, if_neg (by decide), if_neg (by omega), if_neg (by omega), if_pos (by omega),
    Int.toNat_natCast, Nat.one_mul]

/-- Powers of ten other than `1` are at least two, also where they overflow. -/
theorem atLeastTwo_tenTo {n : Nat} (hpos : 0 < n) (hn : n ≤ 308) :
    (ofDecimal false 1 n).AtLeastTwo := by
  have hten : 2 ≤ tenTo n := by
    have : tenTo 1 ≤ tenTo n := Nat.pow_le_pow_right (by decide) hpos
    exact Nat.le_trans (by decide) this
  -- what is rounded is at least two, and rounding does not go below a power of two
  rw [ofDecimal_one hn]
  have hge : twoTo (1 + unitExponent) * 1 ≤ tenTo n * twoTo unitExponent := by
    rw [Nat.mul_one, twoTo_add]
    exact Nat.mul_le_mul_right _ hten
  exact (ofUnits_ge false (by decide) hge).imp (fun h => ⟨_, h⟩) fun h => ⟨_, h⟩

end Binary64
end RecordRules
