import Mathlib.Tactic.Ring
import RecordRules.Binary64.Digits
import RecordRules.Proofs.Binary64.Nearest

/-!
# What rounds to a number

The ratios that round to a magnitude lie around it, up to half the way to its neighbours.  The
interval that the search for digits works with consists of such ratios only: whatever ratio lies in
the interval of a magnitude is rounded to the magnitude.

## Key results

- `divNearestEven_eq`: which natural is nearest to a ratio
- `Representable.eq_significand_mul`: magnitudes are multiples of their last place
- `ofUnits_of_holds`: what lies in the interval of a magnitude is rounded to it
-/

namespace RecordRules

/-! ### The nearest natural -/

namespace Binary64

/-- A natural that is at most one half away from a ratio is the one that the ratio is rounded to,
    an odd one only if it is nearer than that. -/
theorem divNearestEven_eq {num den m : Nat} (hden : 0 < den)
    (hlow : 2 * (m * den) ≤ 2 * num + den) (hhigh : 2 * num ≤ 2 * (m * den) + den)
    (htie : m % 2 = 0 ∨ 2 * (m * den) < 2 * num + den ∧ 2 * num < 2 * (m * den) + den) :
    divNearestEven num den = m := by
  have hnum : num / den * den + num % den = num := Nat.div_add_mod' num den
  have hmod : num % den < den := Nat.mod_lt num hden
  -- half a step away at most, the natural is the quotient or the one above it
  have hle : num / den ≤ m := by
    have h : 2 * (num / den) * den < (2 * m + 2) * den := by
      have h₁ : 2 * (num / den) * den = 2 * (num / den * den) := Nat.mul_assoc ..
      have h₂ : (2 * m + 2) * den = 2 * (m * den) + 2 * den := by ring
      omega
    have := Nat.lt_of_mul_lt_mul_right h
    omega
  -- and it is not two steps above the quotient, since the remainder is less than one
  have hge : m ≤ num / den + 1 := by
    have h : 2 * m * den < (2 * (num / den) + 3) * den := by
      have h₁ : 2 * m * den = 2 * (m * den) := Nat.mul_assoc ..
      have h₂ : (2 * (num / den) + 3) * den = 2 * (num / den * den) + 3 * den := by ring
      omega
    have := Nat.lt_of_mul_lt_mul_right h
    omega
  unfold divNearestEven
  dsimp only
  rcases Nat.lt_or_eq_of_le hle with hlt | heq
  · -- the natural is the one above the ratio
    obtain rfl : m = num / den + 1 := by omega
    have hsucc : (num / den + 1) * den = num / den * den + den := Nat.succ_mul ..
    rw [if_neg (by omega)]
    split
    · rfl
    · rw [if_neg (by omega)]
  · -- it is the one below, or the ratio itself
    subst heq
    split
    · rfl
    · rw [if_neg (by omega), if_pos (by omega)]

/-! ### Significands -/

/-- The last place of a quotient is told by the powers of two around it. -/
theorem lastPlace_div_eq {num den k : Nat} (hden : 0 < den)
    (hlow : k = 0 ∨ twoTo 52 * (den * twoTo k) ≤ num) (hhigh : num < twoTo 53 * (den * twoTo k)) :
    lastPlace (num / den) = k := by
  have hlt : num / den < twoTo (53 + k) := by
    rw [Nat.div_lt_iff_lt_mul hden, twoTo_add, Nat.mul_assoc, Nat.mul_comm (twoTo k)]
    exact hhigh
  have hlog := log2_lt_of_lt (by omega) hlt
  unfold lastPlace
  -- below `2 ^ 52` the last place is the unit, and from there on it follows the first bit
  rcases hlow with rfl | hlow
  · omega
  · have hge : twoTo (52 + k) ≤ num / den := by
      rw [Nat.le_div_iff_mul_le hden, twoTo_add, Nat.mul_assoc, Nat.mul_comm (twoTo k)]
      exact hlow
    have hne : num / den ≠ 0 := Nat.ne_of_gt (Nat.lt_of_lt_of_le (twoTo_pos _) hge)
    have := (Nat.le_log2 hne).mpr hge
    omega

/-- A significand has 53 bits. -/
theorem significand_lt (u : Nat) : u / twoTo (lastPlace u) < twoTo 53 := by
  rw [Nat.div_lt_iff_lt_mul (twoTo_pos _), ← twoTo_add]
  exact Nat.lt_of_lt_of_le (lt_twoTo_log2 u) (twoTo_le (by unfold lastPlace; omega))

/-- The first bit of a significand is set, unless the last place is the unit. -/
theorem le_significand_of_lastPlace {u : Nat} (h : 0 < lastPlace u) :
    twoTo 52 ≤ u / twoTo (lastPlace u) := by
  -- a last place above the unit is what is left of the logarithm after 52 bits
  have hlog : u.log2 = 52 + lastPlace u := by
    unfold lastPlace at h ⊢
    omega
  have hne : u ≠ 0 := by
    rintro rfl
    rw [Nat.log2_zero] at hlog
    omega
  rw [Nat.le_div_iff_mul_le (twoTo_pos _), ← twoTo_add, ← hlog]
  exact twoTo_log2_le hne

end Binary64

/-- A magnitude is a multiple of its last place. -/
theorem Representable.eq_significand_mul {u : Nat} (hr : Representable u) :
    u / twoTo (Binary64.lastPlace u) * twoTo (Binary64.lastPlace u) = u := by
  obtain ⟨-, m, k, hm, rfl⟩ := hr
  refine Nat.div_mul_cancel ?_
  -- the last place divides any power of two that a magnitude can be given with
  have hplace : Binary64.lastPlace (m * twoTo k) ≤ k := by
    have hlt : m * twoTo k < twoTo (53 + k) := by
      rw [twoTo_add]
      exact Nat.mul_lt_mul_of_pos_right hm (twoTo_pos k)
    have := log2_lt_of_lt (by omega) hlt
    unfold Binary64.lastPlace
    omega
  exact Nat.dvd_mul_left_of_dvd (Nat.pow_dvd_pow 2 hplace) m

namespace Binary64

/-- Rounding gives the number whose magnitude is the rounded significand at the last place of the
    quotient. -/
theorem ofUnits_eq_finite {negative : Bool} {num den k m u : Nat} (hr : Representable u)
    (hplace : lastPlace (num / den) = k) (hdiv : divNearestEven num (den * twoTo k) = m)
    (hm : m ≤ twoTo 53) (hu : m * twoTo k = u) :
    ofUnits negative num den = .finite negative u hr := by
  subst hplace hdiv hu
  unfold ofUnits
  exact dif_pos ⟨hm, hr.1⟩

/-! ### The interval of a magnitude -/

/-- A ratio of units lies in an interval. -/
def RoundingInterval.Holds (i : RoundingInterval) (num den : Nat) : Prop :=
  if i.closed then i.low * den ≤ 4 * num ∧ 4 * num ≤ i.high * den
  else i.low * den < 4 * num ∧ 4 * num < i.high * den

namespace RoundingInterval

variable {i : RoundingInterval}

/-- The test of an interval compares whole numbers, scaled by the denominator of the power of ten.
    -/
theorem contains_iff {digits : Nat} {power : Int} :
    i.contains digits power = true ↔
      i.Holds (digits * tenTo power.toNat * twoTo unitExponent) (tenTo (-power).toNat) := by
  -- a quarter of a unit is what the ends of an interval are counted in
  have hscaled : digits * tenTo power.toNat * twoTo (unitExponent + 2) =
      4 * (digits * tenTo power.toNat * twoTo unitExponent) := by
    have hfour : twoTo 2 = 4 := rfl
    rw [twoTo_add, hfour, ← Nat.mul_assoc, Nat.mul_comm]
  unfold contains Holds
  dsimp only
  rw [hscaled]
  split <;> simp only [Bool.and_eq_true, decide_eq_true_eq]

/-- Whether a ratio lies in an interval does not depend on how the ratio is written. -/
theorem holds_mul_right {num den k : Nat} (hk : 0 < k) :
    i.Holds (num * k) (den * k) ↔ i.Holds num den := by
  have hle (a b : Nat) : a * k ≤ b * k ↔ a ≤ b := Nat.mul_le_mul_right_iff hk
  have hlt (a b : Nat) : a * k < b * k ↔ a < b := Nat.mul_lt_mul_right hk
  unfold Holds
  simp only [← Nat.mul_assoc, hle, hlt]

/-- Of two ways to write a ratio, one lies in an interval when the other one does. -/
theorem holds_of_ratio_eq {num den num' den' : Nat} (hden : 0 < den) (hden' : 0 < den')
    (hratio : num * den' = num' * den) (h : i.Holds num den) : i.Holds num' den' := by
  -- both are brought to the product of the denominators
  rw [← holds_mul_right hden', hratio, Nat.mul_comm den, holds_mul_right hden] at h
  exact h

end RoundingInterval

/-- How far the interval of a magnitude of `m` last places reaches down, in quarters of a place: the
    half of a place, or the quarter of one where the magnitude below has smaller places. -/
def reachDown (m e place : Nat) : Nat :=
  if m = twoTo 52 ∧ 0 < e then place else 2 * place

/-- The interval reaches down half a place at most. -/
theorem reachDown_le (m e place : Nat) : reachDown m e place ≤ 2 * place := by
  unfold reachDown
  split <;> omega

/-- How far it reaches scales with the place. -/
theorem reachDown_mul (m e place den : Nat) :
    reachDown m e place * den = reachDown m e (den * place) := by
  unfold reachDown
  split
  · exact Nat.mul_comm place den
  · rw [Nat.mul_assoc, Nat.mul_comm place]

/-- The interval of a magnitude reaches half a place up.  It is closed around even significands. -/
theorem roundingInterval_mul {u m e : Nat} (hplace : lastPlace u = e)
    (hsignificand : u / twoTo e = m) (hu : m * twoTo e = u) (den : Nat) :
    (roundingInterval u).low * den =
        4 * (m * (den * twoTo e)) - reachDown m e (den * twoTo e) ∧
    (roundingInterval u).high * den = 4 * (m * (den * twoTo e)) + 2 * (den * twoTo e) ∧
    (roundingInterval u).closed = decide (m % 2 = 0) := by
  have hinterval : roundingInterval u =
      ⟨4 * u - reachDown m e (twoTo e), 4 * u + 2 * twoTo e, m % 2 = 0⟩ := by
    subst hplace hsignificand
    rfl
  -- both ends are multiples of the magnitude and the place, times the same denominator
  have hvalue : u * den = m * (den * twoTo e) := by
    rw [← hu, Nat.mul_assoc, Nat.mul_comm den]
  rw [hinterval]
  refine ⟨?_, ?_, rfl⟩
  · show (4 * u - _) * den = _
    rw [Nat.sub_mul, Nat.mul_assoc 4, hvalue, reachDown_mul]
  · show (4 * u + 2 * twoTo e) * den = _
    rw [← hvalue]
    ring

/-- What lies in the interval of a magnitude is no further away than the interval reaches. -/
theorem near_of_holds {u num den m e : Nat} (hplace : lastPlace u = e)
    (hsignificand : u / twoTo e = m) (hu : m * twoTo e = u)
    (h : (roundingInterval u).Holds num den) :
    4 * num ≤ 4 * (m * (den * twoTo e)) + 2 * (den * twoTo e) ∧
    4 * (m * (den * twoTo e)) ≤ 4 * num + reachDown m e (den * twoTo e) ∧
    (m % 2 = 0 ∨ 4 * num < 4 * (m * (den * twoTo e)) + 2 * (den * twoTo e) ∧
      4 * (m * (den * twoTo e)) < 4 * num + reachDown m e (den * twoTo e)) := by
  obtain ⟨hlow, hhigh, hclosed⟩ := roundingInterval_mul hplace hsignificand hu den
  unfold RoundingInterval.Holds at h
  rw [hlow, hhigh, hclosed] at h
  -- an interval that is closed belongs to an even significand
  by_cases heven : m % 2 = 0
  · simp only [heven, decide_true, if_true] at h
    omega
  · simp only [heven, decide_false, Bool.false_eq_true, if_false] at h
    omega

/-- What is nearer to a magnitude than its interval reaches lies in the interval. -/
theorem holds_of_near {u num den m e : Nat} (hplace : lastPlace u = e)
    (hsignificand : u / twoTo e = m) (hu : m * twoTo e = u) (hne : m ≠ 0) (hden : 0 < den)
    (hup : 4 * num < 4 * (m * (den * twoTo e)) + 2 * (den * twoTo e))
    (hdown : 4 * (m * (den * twoTo e)) < 4 * num + reachDown m e (den * twoTo e)) :
    (roundingInterval u).Holds num den := by
  obtain ⟨hlow, hhigh, -⟩ := roundingInterval_mul hplace hsignificand hu den
  -- there is at least one place below the magnitude, so the lower end is not cut off at zero
  have hplaces : den * twoTo e ≤ m * (den * twoTo e) :=
    Nat.le_mul_of_pos_left _ (Nat.pos_of_ne_zero hne)
  have hpos : 0 < den * twoTo e := Nat.mul_pos hden (twoTo_pos e)
  have hbelow := reachDown_le m e (den * twoTo e)
  unfold RoundingInterval.Holds
  rw [hlow, hhigh]
  split <;> omega

/-! ### Rounding within an interval -/

/-- There is one bit between the largest and the smallest significand. -/
private theorem twoTo_53 : twoTo 53 = 2 * twoTo 52 :=
  rfl

/-- A ratio right below a power of two has a last place that is smaller by one bit.  It is rounded
    up to the power of two, as the carry of the largest significand. -/
private theorem ofUnits_of_below {negative : Bool} {u num den f : Nat} (hr : Representable u)
    (hden : 0 < den) (hu : twoTo 52 * twoTo (f + 1) = u)
    (hlow : 4 * (twoTo 52 * (den * twoTo (f + 1))) ≤ 4 * num + den * twoTo (f + 1))
    (hbelow : num < twoTo 52 * (den * twoTo (f + 1))) :
    ofUnits negative num den = .finite negative u hr := by
  have hstep : den * twoTo (f + 1) = 2 * (den * twoTo f) := by
    rw [twoTo_succ, Nat.mul_left_comm]
  have hvalue : twoTo 52 * (den * twoTo (f + 1)) = twoTo 53 * (den * twoTo f) := by
    rw [hstep, twoTo_53]
    ring
  have hhalf : 0 < den * twoTo f := Nat.mul_pos hden (twoTo_pos f)
  have hsplit : twoTo 53 * (den * twoTo f) = 2 * (twoTo 52 * (den * twoTo f)) := by
    rw [twoTo_53, Nat.mul_assoc]
  have hone : den * twoTo f ≤ twoTo 52 * (den * twoTo f) :=
    Nat.le_mul_of_pos_left _ (twoTo_pos 52)
  have hcarry : twoTo 53 * twoTo f = u := by
    rw [← hu, twoTo_53, twoTo_succ f, Nat.mul_assoc, Nat.mul_left_comm]
  rw [hvalue, hstep] at hlow
  rw [hvalue] at hbelow
  -- the quotient has one bit less than the power of two, so its places are half as large
  have hplace : lastPlace (num / den) = f := lastPlace_div_eq hden (.inr (by omega)) hbelow
  -- at most a quarter of the larger place is missing: half of the smaller one
  have hdiv : divNearestEven num (den * twoTo f) = twoTo 53 :=
    divNearestEven_eq hhalf (by omega) (by omega) (.inl (by decide))
  exact ofUnits_eq_finite hr hplace hdiv (Nat.le_refl _) hcarry

/-- A ratio that is not right below a power of two, and at most half a place away from a magnitude,
    has the last place of the magnitude. -/
private theorem ofUnits_of_beside {negative : Bool} {u num den m e : Nat} (hr : Representable u)
    (hden : 0 < den) (hu : m * twoTo e = u) (hm : m < twoTo 53) (hfirst : 0 < e → twoTo 52 ≤ m)
    (hpower : m = twoTo 52 ∧ 0 < e → m * (den * twoTo e) ≤ num)
    (hlow : 2 * (m * (den * twoTo e)) ≤ 2 * num + den * twoTo e)
    (hhigh : 2 * num ≤ 2 * (m * (den * twoTo e)) + den * twoTo e)
    (htie : m % 2 = 0 ∨ 2 * (m * (den * twoTo e)) < 2 * num + den * twoTo e ∧
      2 * num < 2 * (m * (den * twoTo e)) + den * twoTo e) :
    ofUnits negative num den = .finite negative u hr := by
  have hplaces : 0 < den * twoTo e := Nat.mul_pos hden (twoTo_pos e)
  -- half a place up does not reach the next power of two
  have htop : (m + 1) * (den * twoTo e) ≤ twoTo 53 * (den * twoTo e) :=
    Nat.mul_le_mul_right _ hm
  rw [Nat.succ_mul] at htop
  have hbits : e = 0 ∨ twoTo 52 * (den * twoTo e) ≤ num := by
    rcases Nat.eq_zero_or_pos e with he | he
    · exact .inl he
    · right
      rcases Nat.lt_or_eq_of_le (hfirst he) with hgt | heq
      · -- more than the smallest significand, so that half a place may be missing
        have := Nat.mul_le_mul_right (den * twoTo e) hgt
        rw [Nat.succ_mul] at this
        omega
      · have := hpower ⟨heq.symm, he⟩
        rwa [← heq] at this
  -- the quotient has as many bits as the magnitude, so both have the same last place
  have hplace : lastPlace (num / den) = e := lastPlace_div_eq hden hbits (by omega)
  exact ofUnits_eq_finite hr hplace (divNearestEven_eq hplaces hlow hhigh htie) (Nat.le_of_lt hm) hu

/-- What lies in the interval of a magnitude is rounded to the magnitude. -/
theorem ofUnits_of_holds {negative : Bool} {u num den : Nat} (hr : Representable u)
    (hden : 0 < den) (h : (roundingInterval u).Holds num den) :
    ofUnits negative num den = .finite negative u hr := by
  have hu := hr.eq_significand_mul
  have hm := significand_lt u
  have hfirst := @le_significand_of_lastPlace u
  obtain ⟨hhigh, hlow, htie⟩ := near_of_holds rfl rfl hu h
  -- from here on only the significand and the place matter, not how they were found
  generalize lastPlace u = e at *
  generalize u / twoTo e = m at *
  -- only right below a power of two does a ratio have other places than the magnitude
  by_cases hedge : (m = twoTo 52 ∧ 0 < e) ∧ num < m * (den * twoTo e)
  · obtain ⟨hpower, hbelow⟩ := hedge
    rw [reachDown, if_pos hpower] at hlow
    obtain ⟨rfl, hpos⟩ := hpower
    obtain ⟨f, rfl⟩ := Nat.exists_eq_add_one_of_ne_zero (Nat.ne_of_gt hpos)
    exact ofUnits_of_below hr hden hu hlow hbelow
  · have hreach := reachDown_le m e (den * twoTo e)
    have hpower : m = twoTo 52 ∧ 0 < e → m * (den * twoTo e) ≤ num :=
      fun hpower => Nat.le_of_not_lt fun hbelow => hedge ⟨hpower, hbelow⟩
    apply ofUnits_of_beside hr hden hu hm hfirst hpower
    · omega
    · omega
    · rcases htie with heven | ⟨hup, hdown⟩
      · exact .inl heven
      · exact .inr ⟨by omega, by omega⟩

end Binary64
end RecordRules
