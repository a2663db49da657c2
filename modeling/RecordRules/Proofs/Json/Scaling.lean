import RecordRules.Proofs.Binary64.Nearest
import RecordRules.Proofs.Json.RealText

/-!
# Which reals are read back exactly

The reader scales the digits of a real by a power of ten: both are rounded to a real first, and
their product or quotient is rounded again.  Up to `2 ^ 53` the digits are exact, and up to
`10 ^ 22` so is the power, so that only the last rounding is left, and that one gives the real the
text was made from.  Beyond these bounds the two roundings may miss the real by one place.

## Key results

- `Binary64.contains_written`: what the text of a magnitude is read as lies in its interval
- `JsonNumber.toReal_written`: few digits and a small power give back the real
-/

namespace RecordRules

namespace Binary64

/-! ### Exact reals -/

/-- A magnitude lies in its own interval. -/
theorem holds_self (u : Nat) : (roundingInterval u).Holds u 1 := by
  have hplace := twoTo_pos (lastPlace u)
  simp only [RoundingInterval.Holds, roundingInterval, Nat.mul_one, decide_eq_true_eq]
  split
  · omega
  · next hodd =>
    -- an odd significand is not zero, so there is room below the magnitude
    have hm : u / twoTo (lastPlace u) ≠ 0 := by
      intro h
      rw [h] at hodd
      exact hodd rfl
    have hu : twoTo (lastPlace u) ≤ u := by
      by_contra hlt
      exact hm (Nat.div_eq_of_lt (Nat.lt_of_not_le hlt))
    split <;> omega

/-- Whole numbers of units are exact as long as 53 bits hold them. -/
theorem ofUnits_one {negative : Bool} {u : Nat} (hr : Representable u) :
    ofUnits negative u 1 = .finite negative u hr :=
  ofUnits_of_holds hr Nat.one_pos (holds_self u)

/-- Naturals of at most 53 bits, and as many zeros behind these. -/
theorem representable_mul_twoTo {n k : Nat} (hn : n ≤ twoTo 53) (hk : k ≤ 900) :
    Representable (n * twoTo (k + unitExponent)) := by
  apply Representable.of_carry hn
  have hbound : twoTo 53 * twoTo (k + unitExponent) < overflowUnits := by
    show twoTo 53 * twoTo (k + unitExponent) < twoTo (1024 + unitExponent)
    rw [← twoTo_add]
    exact twoTo_lt (by omega)
  exact Nat.lt_of_le_of_lt (Nat.mul_le_mul_right _ hn) hbound

/-- Naturals of at most 53 bits are exact. -/
theorem ofNat_eq_finite {n : Nat} (hn : n ≤ twoTo 53) :
    ∃ hr, ofNat n = .finite false (n * twoTo unitExponent) hr := by
  have hr := representable_mul_twoTo (k := 0) hn (by omega)
  rw [Nat.zero_add] at hr
  exact ⟨hr, ofUnits_one hr⟩

/-- Powers of ten are exact up to `10 ^ 22`: the five in each takes the bits, the two does not. -/
theorem ofDecimal_eq_finite {k : Nat} (hk : k ≤ 22) :
    ∃ hr, ofDecimal false 1 k = .finite false (tenTo k * twoTo unitExponent) hr := by
  have hfive : 5 ^ k ≤ twoTo 53 :=
    Nat.le_trans (Nat.pow_le_pow_right (by decide) hk) (by decide)
  have hten : 5 ^ k * twoTo k = tenTo k := (Nat.mul_pow 5 2 k).symm
  have htwo : 5 ^ k * twoTo (k + unitExponent) = tenTo k * twoTo unitExponent := by
    rw [twoTo_add, ← Nat.mul_assoc, hten]
  have hr := representable_mul_twoTo hfive (k := k) (by omega)
  rw [htwo] at hr
  rw [ofDecimal_one (by omega)]
  exact ⟨hr, ofUnits_one hr⟩

/-! ### What the text of a magnitude is read as -/

/-- What the text of a magnitude is read as lies in its interval. -/
theorem contains_written {u : Nat} (hr : Representable u) :
    (roundingInterval u).contains (written u).1 (written u).2 = true := by
  unfold written
  split
  · next hzero =>
    subst hzero
    rw [RoundingInterval.contains_iff, Nat.zero_mul, Nat.zero_mul]
    unfold RoundingInterval.Holds
    decide
  · next hne =>
    obtain ⟨hcontains, -⟩ := shortest_spec .toEven hr hne
    dsimp only
    split
    · next hwhole =>
      have hp : 0 ≤ (shortest .toEven u).2 := by
        rw [Bool.and_eq_true, decide_eq_true_eq] at hwhole
        exact hwhole.2
      -- the zeros before and behind the point belong to the power of ten
      have hpower : -1 + ((((shortest .toEven u).2 + 1).toNat : Nat) : Int) =
          (shortest .toEven u).2 := by omega
      rw [RoundingInterval.contains_mul_tenTo, hpower]
      exact hcontains
    · exact hcontains

end Binary64

namespace JsonNumber

open Binary64

variable {negative : Bool} {u d : Nat} {p : Int}

/-- Digits and a power of ten that are exact are rounded once, so they give the magnitude in whose
    interval they lie. -/
theorem scale_of_contains (hr : Representable u) (hd : d ≤ twoTo 53) (hp : p.natAbs ≤ 22)
    (h : (roundingInterval u).contains d p = true) (fuel : Nat) :
    scale (fuel + 1) (ofNat d) p = .ok (.finite false u hr) := by
  obtain ⟨hdigits, hof⟩ := ofNat_eq_finite hd
  obtain ⟨hpower, hten⟩ := ofDecimal_eq_finite hp
  have hunit := twoTo_pos unitExponent
  -- both factors are exact, so what is rounded is the decimal itself
  rw [RoundingInterval.contains_iff] at h
  rw [scale, if_pos (by omega), hof, hten]
  dsimp only
  -- digits are multiplied by a power from one on, and divided by the others
  by_cases hup : 0 ≤ p
  · have htoNat : p.toNat = p.natAbs ∧ (-p).toNat = 0 := by omega
    have hone : tenTo 0 = 1 := rfl
    rw [htoNat.1, htoNat.2, hone] at h
    have hmul : (Binary64.finite false (d * twoTo unitExponent) hdigits).mul
        (.finite false (tenTo p.natAbs * twoTo unitExponent) hpower) = .finite false u hr := by
      unfold Binary64.mul
      dsimp only
      refine ofUnits_of_holds hr hunit
        (RoundingInterval.holds_of_ratio_eq Nat.one_pos hunit ?_ h)
      show d * tenTo p.natAbs * twoTo unitExponent * twoTo unitExponent =
        d * twoTo unitExponent * (tenTo p.natAbs * twoTo unitExponent) * 1
      ring
    rw [if_pos hup, hmul]
    rfl
  · have htoNat : p.toNat = 0 ∧ (-p).toNat = p.natAbs := by omega
    have hone : tenTo 0 = 1 := rfl
    rw [htoNat.1, htoNat.2, hone] at h
    have hden : 0 < tenTo p.natAbs * twoTo unitExponent := Nat.mul_pos (tenTo_pos _) hunit
    have hdiv : (Binary64.finite false (d * twoTo unitExponent) hdigits).div
        (.finite false (tenTo p.natAbs * twoTo unitExponent) hpower) = .finite false u hr := by
      unfold Binary64.div
      dsimp only
      rw [if_pos (Nat.ne_of_gt hden)]
      refine ofUnits_of_holds hr hden
        (RoundingInterval.holds_of_ratio_eq (tenTo_pos _) hden ?_ h)
      show d * 1 * twoTo unitExponent * (tenTo p.natAbs * twoTo unitExponent) =
        d * twoTo unitExponent * twoTo unitExponent * tenTo p.natAbs
      ring
    rw [if_neg hup, hdiv]

/-- A real whose text shows few digits and a small power of ten is read back exactly. -/
theorem toReal_written (hr : Representable u) (hd : (written u).1 ≤ twoTo 53)
    (hp : (written u).2.natAbs ≤ 22) :
    toReal negative (written u).1 (written u).2 = .ok (.finite negative u hr) := by
  unfold toReal
  rw [scale_of_contains hr hd hp (contains_written hr) 5]
  -- the sign is put on at the end
  cases negative <;> rfl

end JsonNumber
end RecordRules
