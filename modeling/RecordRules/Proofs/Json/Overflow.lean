import RecordRules.Proofs.Json.Scaling

/-!
# No real is refused when it is read back

A text whose number is past the largest real is refused, and the reader may find it there although
the exact number is not: it rounds the digits, then the power of ten, then their product.  The text
of a real never has this fate.  Its digits stay below the number from which on rounding overflows,
and for each power of ten the largest such digits are still scaled to a real.  There is one
exception, a power of ten with digits that would be refused; but the only real in whose interval
these lie is the largest one, and the digits that are written for it are one less.

## Key results

- `Binary64.ofUnits_isFinite`: below the limit rounding gives a finite number
- `JsonNumber.toReal_written_isOk`: the text of a real is not refused
-/

namespace RecordRules

namespace Binary64

/-! ### Where rounding overflows -/

/-- The last place of the largest finite numbers, less one. -/
private def belowTop : Nat := 970 + unitExponent

/-- The magnitude in the middle between the largest finite number and `2 ^ 1024`, in units. -/
def overflowLimit : Nat :=
  (twoTo 54 - 1) * twoTo belowTop

private theorem overflowUnits_eq : overflowUnits = twoTo (53 + (belowTop + 1)) :=
  rfl

/-- The last place of a finite number is at most that of the largest ones. -/
private theorem lastPlace_le_of_lt {q : Nat} (h : q < overflowUnits) :
    lastPlace q ≤ belowTop + 1 := by
  rw [overflowUnits_eq] at h
  have hlog := log2_lt_of_lt (by omega) h
  unfold lastPlace
  omega

theorem overflowLimit_lt : overflowLimit < overflowUnits := by
  have hless : twoTo 54 - 1 < twoTo 54 := by decide
  have hsum : 53 + (belowTop + 1) = 54 + belowTop := by omega
  rw [overflowUnits_eq, hsum, twoTo_add]
  exact Nat.mul_lt_mul_of_pos_right hless (twoTo_pos belowTop)

/-- Below half a place past the largest significand no significand is carried to `2 ^ 53`. -/
private theorem divNearestEven_lt_twoTo {num den k : Nat} (hden : 0 < den)
    (h : num < (twoTo 54 - 1) * twoTo k * den) :
    divNearestEven num (den * twoTo (k + 1)) < twoTo 53 := by
  have hstep : den * twoTo (k + 1) = 2 * (den * twoTo k) := by
    rw [twoTo_succ, Nat.mul_left_comm]
  have hpos : 0 < den * twoTo k := Nat.mul_pos hden (twoTo_pos k)
  rw [Nat.mul_assoc, Nat.mul_comm (twoTo k)] at h
  rw [hstep]
  obtain ⟨hnear, -⟩ := divNearestEven_near num (by omega : 0 < 2 * (den * twoTo k))
  -- what is rounded to `2 ^ 53` is at most half a step below it, where the limit lies
  by_contra hge
  have hle := Nat.mul_le_mul_right (2 * (den * twoTo k)) (Nat.le_of_not_lt hge)
  have h53 : twoTo 53 = 9007199254740992 := rfl
  have h54 : twoTo 54 - 1 = 18014398509481983 := rfl
  rw [h53] at hle
  rw [h54] at h
  generalize divNearestEven num (2 * (den * twoTo k)) * (2 * (den * twoTo k)) = v at *
  generalize den * twoTo k = t at *
  omega

/-- Below the limit rounding gives a finite number. -/
theorem ofUnits_isFinite (negative : Bool) {num den : Nat} (h : num < overflowLimit * den) :
    (ofUnits negative num den).isFinite = true := by
  have hden : 0 < den := Nat.pos_of_ne_zero fun h0 => by simp [h0] at h
  -- the limit leaves room for the quotient
  have hq : num / den < overflowUnits :=
    Nat.lt_trans ((Nat.div_lt_iff_lt_mul hden).mpr h) overflowLimit_lt
  have hplace := lastPlace_le_of_lt hq
  -- rounding makes a significand larger by at most one
  have hm : divNearestEven num (den * twoTo (lastPlace (num / den))) ≤ twoTo 53 := by
    have hsucc := divNearestEven_le num (den * twoTo (lastPlace (num / den)))
    have hlt := significand_lt (num / den)
    rw [← Nat.div_div_eq_div_mul] at hsucc
    omega
  have hu : divNearestEven num (den * twoTo (lastPlace (num / den))) *
      twoTo (lastPlace (num / den)) < overflowUnits := by
    rw [overflowUnits_eq, twoTo_add]
    by_cases htop : lastPlace (num / den) = belowTop + 1
    · -- at the top a significand of 53 bits is needed
      rw [htop]
      exact Nat.mul_lt_mul_of_pos_right (divNearestEven_lt_twoTo hden h) (twoTo_pos _)
    · calc divNearestEven num (den * twoTo (lastPlace (num / den))) * twoTo (lastPlace (num / den))
          ≤ twoTo 53 * twoTo (lastPlace (num / den)) := Nat.mul_le_mul_right _ hm
        _ < twoTo 53 * twoTo (belowTop + 1) :=
          Nat.mul_lt_mul_of_pos_left (twoTo_lt (by omega)) (twoTo_pos 53)
  unfold ofUnits
  dsimp only
  rw [dif_pos ⟨hm, hu⟩]
  rfl

/-- What lies in the interval of a magnitude is below the limit. -/
theorem lt_overflowLimit_of_holds {u num : Nat} (hr : Representable u)
    (h : (roundingInterval u).Holds num 1) : num < overflowLimit := by
  have hu := hr.eq_significand_mul
  have hplace := lastPlace_le_of_lt hr.1
  have hm := significand_lt u
  obtain ⟨hhigh, -, htie⟩ := near_of_holds rfl rfl hu h
  have h53 : twoTo 53 = 9007199254740992 := rfl
  have h54 : twoTo 54 - 1 = 18014398509481983 := rfl
  have hpos := twoTo_pos belowTop
  unfold overflowLimit
  rw [h53] at hm
  rw [h54]
  generalize u / twoTo (lastPlace u) = m at *
  rw [Nat.one_mul] at hhigh htie
  by_cases htop : lastPlace u = belowTop + 1
  · rw [htop, twoTo_succ] at hhigh htie
    -- the largest significand is odd, so the end of its interval does not belong to it
    have hbound (c : Nat) (hc : m ≤ c) : m * (2 * twoTo belowTop) ≤ c * (2 * twoTo belowTop) :=
      Nat.mul_le_mul_right _ hc
    rcases htie with heven | ⟨hlt, -⟩
    · have := hbound 9007199254740990 (by omega)
      generalize m * (2 * twoTo belowTop) = v at *
      omega
    · have := hbound 9007199254740991 (by omega)
      generalize m * (2 * twoTo belowTop) = v at *
      omega
  · -- half a place from a smaller magnitude is far below the limit
    have hbelow : twoTo (lastPlace u) ≤ twoTo belowTop := twoTo_le (by omega)
    have hbound : m * twoTo (lastPlace u) ≤ 9007199254740991 * twoTo belowTop :=
      Nat.mul_le_mul (by omega) hbelow
    generalize m * twoTo (lastPlace u) = v at *
    omega

/-! ### The largest digits that are written -/

/-- The limit as a natural. -/
private def naturalLimit : Nat := (twoTo 54 - 1) * twoTo 970

private theorem overflowLimit_eq : overflowLimit = naturalLimit * twoTo unitExponent := by
  unfold overflowLimit naturalLimit belowTop
  rw [twoTo_add, Nat.mul_assoc]

/-- The largest digits that are written with a power of ten. -/
private def largestDigits (p : Nat) : Nat :=
  if p = 292 then 17976931348623157 else min (naturalLimit / tenTo p) (tenTo 17)

/-- The largest digits, rounded, times the power of ten, rounded, are below the limit. -/
private def largestFit (p : Nat) : Bool :=
  match ofDecimal false 1 p with
  | .finite false power _ => nearestNat (largestDigits p) * power < overflowLimit
  | _ => false

/-- The largest digits fit for each of the powers at the end of the range. -/
private theorem largestFit_of_le : ∀ k < 18, largestFit (291 + k) = true := by
  decide +kernel

/-- The units of the largest finite number. -/
private def largestUnits : Nat := (twoTo 53 - 1) * twoTo 2045

private theorem representable_largestUnits : Representable largestUnits :=
  ⟨by decide +kernel, twoTo 53 - 1, 2045, by decide, rfl⟩

/-- One digit more is in the interval of the largest number only, which is written without it. -/
private theorem shortest_largestUnits :
    ofUnits false (17976931348623158 * tenTo 292 * twoTo unitExponent) 1 =
        .finite false largestUnits representable_largestUnits ∧
      shortest .toEven largestUnits = (17976931348623157, 292) := by
  decide +kernel

/-- No larger digits are written than the largest. -/
private theorem shortest_le_largestDigits {u : Nat} (hr : Representable u) (hne : u ≠ 0) {p : Nat}
    (hp : (shortest .toEven u).2 = p) : (shortest .toEven u).1 ≤ largestDigits p ∧ p ≤ 308 := by
  -- the shortest digits are in the interval of the number, and this is what bounds them
  obtain ⟨hcontains, hmax, -⟩ := shortest_spec .toEven hr hne
  obtain ⟨hpositive, -⟩ := shortest_bounds .toEven hr hne
  generalize hd : (shortest .toEven u).1 = d at *
  have hpowers : ((p : Int)).toNat = p ∧ (-(p : Int)).toNat = 0 := by omega
  have hone : tenTo 0 = 1 := rfl
  rw [hp, RoundingInterval.contains_iff, hpowers.1, hpowers.2, hone] at hcontains
  have hlimit := lt_overflowLimit_of_holds hr hcontains
  rw [overflowLimit_eq] at hlimit
  have hnatural : d * tenTo p < naturalLimit := Nat.lt_of_mul_lt_mul_right hlimit
  have hquotient : d ≤ naturalLimit / tenTo p :=
    (Nat.le_div_iff_mul_le (tenTo_pos p)).mpr (Nat.le_of_lt hnatural)
  constructor
  · unfold largestDigits
    split
    · next h292 =>
      subst h292
      -- by size alone there might be one more
      have htop : naturalLimit / tenTo 292 = 17976931348623158 := by decide +kernel
      rw [htop] at hquotient
      by_contra hgt
      obtain rfl : d = 17976931348623158 := by omega
      -- these digits are in the interval of the largest number
      obtain ⟨hlargest, hshortest⟩ := shortest_largestUnits
      rw [ofUnits_of_holds hr Nat.one_pos hcontains] at hlargest
      injection hlargest with _ hu
      rw [hu, hshortest] at hd
      exact absurd hd (by decide)
    · exact Nat.le_min.mpr ⟨hquotient, hmax⟩
  · by_contra hgt
    -- a single digit would be past the limit
    have hpower : tenTo 309 ≤ tenTo p := tenTo_le (by omega)
    have hlarge : naturalLimit < tenTo 309 := by decide +kernel
    have hleast := Nat.le_mul_of_pos_left (tenTo p) (Nat.pos_of_ne_zero hpositive)
    omega

/-- A natural of seventeen digits is rounded to 53 bits. -/
private theorem ofNat_eq_nearestNat {n : Nat} (hn : n ≤ tenTo 17) :
    ∃ u hr, ofNat n = .finite false u hr ∧ u = nearestNat n * twoTo unitExponent := by
  have hword : n < twoTo 63 := Nat.lt_of_le_of_lt hn (by decide)
  -- such a natural is a signed word, and for these the place is known
  have hsigned : isSigned64 (n : Int) = true := by
    simp only [isSigned64, Bool.and_eq_true, decide_eq_true_eq]
    omega
  have hof : ofNat n = ofInt n := by
    unfold ofNat ofInt
    rw [decide_eq_false (by omega), Int.natAbs_natCast]
  have hplace := place?_ofInt hsigned
  have hbound : n * twoTo unitExponent < twoTo (64 + unitExponent) * 1 := by
    rw [Nat.mul_one, twoTo_add]
    exact Nat.mul_lt_mul_of_pos_right (Nat.lt_trans hword (twoTo_lt (by decide))) (twoTo_pos _)
  obtain ⟨u, hr, hfinite, -⟩ := ofUnits_le false (by decide) (by decide) hbound
  have hn' : ofNat n = .finite false u hr := hfinite
  -- the place of a positive number is its magnitude
  rw [← hof, hn', nearest, if_neg (by omega), Int.natAbs_natCast, place?,
    if_neg Bool.false_ne_true, Option.some.injEq, ← Int.natCast_mul, Int.natCast_inj] at hplace
  exact ⟨u, hr, hn', hplace⟩

/-- Digits, rounded, times a power of ten, rounded, are below the limit. -/
private theorem digits_mul_power_lt {d p : Nat} (hp : p ≤ 308) (hmax : d ≤ tenTo 17)
    (hd : d ≤ largestDigits p) : ∃ power hr, ofDecimal false 1 p = .finite false power hr ∧
      nearestNat d * power < overflowLimit := by
  by_cases hlarge : 291 ≤ p
  · obtain ⟨k, rfl⟩ := Nat.exists_eq_add_of_le hlarge
    have hfit := largestFit_of_le k (by omega)
    unfold largestFit at hfit
    split at hfit
    · next power hpower hten =>
      rw [decide_eq_true_eq] at hfit
      exact ⟨power, hpower, hten,
        Nat.lt_of_le_of_lt (Nat.mul_le_mul_right power (nearestNat_mono hd)) hfit⟩
    · exact absurd hfit Bool.false_ne_true
  · -- far from the limit it is enough to count bits
    have hten : tenTo p * twoTo unitExponent < twoTo (964 + unitExponent) * 1 := by
      have h290 : tenTo 290 < twoTo 964 := by decide +kernel
      have hle : tenTo p ≤ tenTo 290 := tenTo_le (by omega)
      rw [Nat.mul_one, twoTo_add]
      exact Nat.mul_lt_mul_of_pos_right (Nat.lt_of_le_of_lt hle h290) (twoTo_pos _)
    obtain ⟨power, hr, hfinite, hpower⟩ := ofUnits_le false (by decide) (by decide) hten
    have hdigits : nearestNat d ≤ twoTo 57 := by
      have hlog : d.log2 < 57 :=
        log2_lt_of_lt (by decide) (Nat.lt_of_le_of_lt hmax (by decide))
      exact Nat.le_trans (nearestNat_le_twoTo d) (twoTo_le hlog)
    refine ⟨power, hr, (ofDecimal_one hp).trans hfinite, ?_⟩
    have hbits : 57 + (964 + unitExponent) = 51 + belowTop := by
      unfold belowTop
      omega
    calc nearestNat d * power
        ≤ twoTo 57 * twoTo (964 + unitExponent) := Nat.mul_le_mul hdigits hpower
      _ = twoTo 51 * twoTo belowTop := by rw [← twoTo_add, hbits, twoTo_add]
      _ < overflowLimit := Nat.mul_lt_mul_of_pos_right (by decide) (twoTo_pos belowTop)

end Binary64

namespace JsonNumber

open Binary64

/-- Up to the largest digits multiplying by a power of ten does not overflow. -/
private theorem scale_isOk_of_le {d p : Nat} (hp : p ≤ 308) (hmax : d ≤ tenTo 17)
    (hd : d ≤ largestDigits p) (fuel : Nat) : ∃ y, scale (fuel + 1) (ofNat d) p = .ok y := by
  obtain ⟨u, hr, hof, hu⟩ := ofNat_eq_nearestNat hmax
  obtain ⟨power, hpower, hten, hless⟩ := digits_mul_power_lt hp hmax hd
  -- the product of the two rounded numbers is rounded once more
  have hproduct : u * power < overflowLimit * twoTo unitExponent := by
    rw [hu, Nat.mul_right_comm]
    exact Nat.mul_lt_mul_of_pos_right hless (twoTo_pos _)
  have hfinite : ((ofNat d).mul (ofDecimal false 1 p)).isFinite = true := by
    rw [hof, hten]
    unfold Binary64.mul
    dsimp only
    exact ofUnits_isFinite _ hproduct
  have habs : (p : Int).natAbs = p := Int.natAbs_natCast p
  rw [scale]
  dsimp only
  rw [habs, if_pos hp, if_pos (by omega), hfinite]
  exact ⟨_, rfl⟩

/-- A power of ten below one is divided by, and this never overflows. -/
theorem scale_isOk_of_neg {e : Int} (he : e < 0) (fuel : Nat) (x : Binary64) :
    ∃ y, scale fuel x e = .ok y := by
  -- each step divides by a power of ten and leaves a smaller one
  induction fuel generalizing x e with
  | zero => exact ⟨x, rfl⟩
  | succ fuel ih =>
    rw [scale]
    dsimp only
    rw [if_neg (by omega : ¬ 0 ≤ e), if_neg (by omega : ¬ 0 ≤ e)]
    split
    · exact ⟨_, rfl⟩
    · split
      · exact ⟨_, rfl⟩
      · exact ih (by omega) _

/-- The text of a real is read as a real, not refused. -/
theorem toReal_written_isOk {u : Nat} (hr : Representable u) (negative : Bool) :
    ∃ x, toReal negative (written u).1 (written u).2 = .ok x := by
  have hscale : ∃ x, scale 6 (ofNat (written u).1) (written u).2 = .ok x := by
    by_cases hneg : (written u).2 < 0
    · exact scale_isOk_of_neg hneg 6 _
    · -- a power of ten from one on is written only behind the shortest digits
      have hne : u ≠ 0 := by
        rintro rfl
        exact hneg (by decide)
      have hwritten : written u = shortest .toEven u := by
        unfold written at hneg ⊢
        rw [if_neg hne] at hneg ⊢
        dsimp only at hneg ⊢
        split at hneg
        · exact absurd (by decide : (-1 : Int) < 0) hneg
        · next h => rw [if_neg h]
      obtain ⟨p, hp⟩ := Int.eq_ofNat_of_zero_le (Int.not_lt.mp hneg)
      rw [hwritten] at hp ⊢
      obtain ⟨hd, hp308⟩ := shortest_le_largestDigits hr hne hp
      obtain ⟨-, hmax, -⟩ := shortest_spec .toEven hr hne
      rw [hp]
      generalize (shortest .toEven u).1 = d at *
      exact scale_isOk_of_le hp308 hmax hd 5
  obtain ⟨x, hx⟩ := hscale
  unfold toReal
  rw [hx]
  exact ⟨_, rfl⟩

end JsonNumber
end RecordRules
