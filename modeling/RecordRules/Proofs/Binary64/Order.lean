import RecordRules.Proofs.Binary64.Magnitude

/-!
# The order of numbers

Two numbers have an order unless one of them is a NaN.  This module says what becomes of the order
when the two change places, and reads the three comparisons of numbers as tests of it, so that
whatever is judged by comparing numbers can be reasoned about through the order alone.

## Key results

- `verdict`: what a test of orders says where there may be no order
- `Binary64.compare?_swap`, `Binary64.compare?_self`: the order of two numbers and the other way
  round, and of a number and itself
- `Binary64.compare?_eq_none_iff`: only a NaN has no order
- `Binary64.eq_iff`, `Binary64.eq_trans`: equal numbers stand at one place
- `Binary64.place?_le`: the infinities stand at the ends of the number line, all by themselves
- `Binary64.eq_eq_verdict`, `Binary64.lt_eq_verdict`, `Binary64.le_eq_verdict`: comparisons are
  tests of the order
- `Binary64.lt_eq_not_le`: below a bound and at least that bound are opposites, but for a NaN
- `Binary64.add_comm`: a sum does not depend on which summand comes first
-/

namespace RecordRules

/-- What a test of orders says about two values that may have no order.  Values without one are
    different, and nothing else is true of them: such a test accepts both directions. -/
def verdict (test : Ordering → Bool) : Option Ordering → Bool
  | some order => test order
  | none => test .lt && test .gt

/-- A test that is turned around together with the order says the same. -/
theorem verdict_mirror (test : Ordering → Bool) (order : Option Ordering) :
    verdict (test ∘ Ordering.swap) (order.map Ordering.swap) = verdict test order := by
  cases order with
  | none => exact Bool.and_comm ..
  | some order => exact congrArg test order.swap_swap

namespace Binary64

theorem isNaN_iff {x : Binary64} : x.isNaN = true ↔ x = .nan := by
  cases x <;> simp [isNaN]

/-- All other numbers have a place on the number line. -/
theorem place?_eq_none_iff {x : Binary64} : x.place? = none ↔ x.isNaN = true := by
  cases x with
  | nan => exact iff_of_true rfl rfl
  | infinity | finite => exact iff_of_false (Option.some_ne_none _) Bool.false_ne_true

/-! ### The order and its reverse -/

/-- The other way round the order is the reverse one. -/
theorem compare?_swap (x y : Binary64) : y.compare? x = (x.compare? y).map Ordering.swap := by
  unfold compare?
  -- the order is that of the places, if there are two
  cases hx : x.place? with
  | none => cases y.place? <;> rfl
  | some a =>
    cases hy : y.place? with
    | none => rfl
    | some b => exact congrArg some (Int.compare_swap a b).symm

/-- A number that is no NaN is in the order of equals with itself. -/
theorem compare?_self {x : Binary64} (h : x.isNaN = false) : x.compare? x = some .eq := by
  unfold compare?
  cases hx : x.place? with
  | none =>
    rw [place?_eq_none_iff.mp hx] at h
    exact nomatch h
  | some a => exact congrArg some (Int.compare_eq_eq.mpr rfl)

/-- A NaN has no order with any number. -/
theorem compare?_of_isNaN {x : Binary64} (h : x.isNaN = true) (y : Binary64) :
    x.compare? y = none := by
  unfold compare?
  rw [place?_eq_none_iff.mpr h]

/-- Only a NaN has no order with another number. -/
theorem compare?_eq_none_iff {x y : Binary64} :
    x.compare? y = none ↔ x.isNaN = true ∨ y.isNaN = true := by
  rw [← place?_eq_none_iff, ← place?_eq_none_iff]
  unfold compare?
  cases x.place? <;> cases y.place? <;> simp

/-! ### Equality -/

/-- Two numbers are equal when they stand at one place. -/
theorem eq_iff {x y : Binary64} :
    x.eq y = true ↔ ∃ place, x.place? = some place ∧ y.place? = some place := by
  unfold eq compare?
  -- numbers without a place are equal to nothing
  cases hx : x.place? with
  | none => simp
  | some a =>
    cases hy : y.place? with
    | none => simp
    | some b =>
      rw [beq_iff_eq, Option.some.injEq, Int.compare_eq_eq]
      constructor
      · rintro rfl
        exact ⟨a, rfl, rfl⟩
      · rintro ⟨place, ha, hb⟩
        exact Option.some.inj (ha.trans hb.symm)

theorem eq_comm (x y : Binary64) : x.eq y = y.eq x := by
  rw [Bool.eq_iff_iff, eq_iff, eq_iff]
  constructor <;> rintro ⟨place, h, h'⟩ <;> exact ⟨place, h', h⟩

/-- Equality of numbers is transitive. -/
theorem eq_trans {x y z : Binary64} (hxy : x.eq y = true) (hyz : y.eq z = true) :
    x.eq z = true := by
  rw [eq_iff] at hxy hyz ⊢
  obtain ⟨place, hx, hy⟩ := hxy
  obtain ⟨place', hy', hz⟩ := hyz
  -- the number in the middle has one place only
  obtain rfl : place = place' := Option.some.inj (hy.symm.trans hy')
  exact ⟨place, hx, hz⟩

theorem eq_self_iff {x : Binary64} : x.eq x = true ↔ x ≠ .nan := by
  rw [eq_iff, ne_eq, ← isNaN_iff, ← place?_eq_none_iff]
  simp [← ne_eq, Option.ne_none_iff_exists']

/-! ### The ends of the number line -/

/-- A number is below another one when it stands at a lower place. -/
theorem lt_iff {x y : Binary64} :
    x.lt y = true ↔ ∃ a b, x.place? = some a ∧ y.place? = some b ∧ a < b := by
  unfold lt compare?
  cases hx : x.place? with
  | none => simp
  | some a =>
    cases hy : y.place? with
    | none => simp
    | some b => simp [Int.compare_eq_lt]

/-- The infinity of a sign stands at one end, and nothing else stands there. -/
theorem place?_le {x : Binary64} {p : Int} (h : x.place? = some p) :
    -(overflowUnits : Int) ≤ p ∧ p ≤ overflowUnits ∧
      (p = overflowUnits → x = .infinity false) ∧
      (p = -(overflowUnits : Int) → x = .infinity true) := by
  have hpos : (0 : Int) < overflowUnits := Int.natCast_pos.mpr overflowUnits_pos
  -- an infinity stands at the bound of the finite numbers, on its side
  cases x with
  | nan => exact nomatch h
  | infinity s =>
    cases s with
    | false =>
      obtain rfl : (overflowUnits : Int) = p := Option.some.inj h
      refine ⟨?_, Int.le_refl _, fun _ => rfl, fun hneg => ?_⟩ <;> omega
    | true =>
      obtain rfl : -(overflowUnits : Int) = p := Option.some.inj h
      refine ⟨Int.le_refl _, ?_, fun hpos => ?_, fun _ => rfl⟩ <;> omega
  | finite s u hu =>
    -- a finite number stays short of both ends
    have hlt : (u : Int) < overflowUnits := Int.ofNat_lt.mpr hu.1
    cases s with
    | false =>
      obtain rfl : (u : Int) = p := Option.some.inj h
      refine ⟨?_, ?_, fun hend => ?_, fun hend => ?_⟩ <;> omega
    | true =>
      obtain rfl : -(u : Int) = p := Option.some.inj h
      refine ⟨?_, ?_, fun hend => ?_, fun hend => ?_⟩ <;> omega

/-- Nothing is below negative infinity, and positive infinity is below nothing. -/
theorem lt_negative_infinity (x : Binary64) : x.lt (.infinity true) = false := by
  rw [← Bool.not_eq_true, lt_iff]
  rintro ⟨a, b, ha, hb, hlt⟩
  obtain rfl : -(overflowUnits : Int) = b := Option.some.inj hb
  have := place?_le ha
  omega

/-- Nothing is above positive infinity. -/
theorem positive_infinity_lt (x : Binary64) : Binary64.lt (.infinity false) x = false := by
  rw [← Bool.not_eq_true, lt_iff]
  rintro ⟨a, b, ha, hb, hlt⟩
  obtain rfl : (overflowUnits : Int) = a := Option.some.inj ha
  have := place?_le hb
  omega

/-- Only the infinity itself and a NaN are not below positive infinity. -/
theorem lt_positive_infinity_eq_false_iff {x : Binary64} :
    x.lt (.infinity false) = false ↔ x = .nan ∨ x = .infinity false := by
  constructor
  · intro h
    rw [← Bool.not_eq_true, lt_iff] at h
    -- a number with a place is below the end unless it stands there
    cases hx : x.place? with
    | none => exact .inl (isNaN_iff.mp (place?_eq_none_iff.mp hx))
    | some p =>
      obtain ⟨-, hle, hend, -⟩ := place?_le hx
      have hge : ¬ p < overflowUnits := fun hlt => h ⟨p, _, hx, rfl, hlt⟩
      exact .inr (hend (by omega))
  · rintro (rfl | rfl)
    · rfl
    · exact positive_infinity_lt _

/-- Only the infinity itself and a NaN are not above negative infinity. -/
theorem negative_infinity_lt_eq_false_iff {x : Binary64} :
    Binary64.lt (.infinity true) x = false ↔ x = .nan ∨ x = .infinity true := by
  constructor
  · intro h
    rw [← Bool.not_eq_true, lt_iff] at h
    -- the mirrored argument, at the other end
    cases hx : x.place? with
    | none => exact .inl (isNaN_iff.mp (place?_eq_none_iff.mp hx))
    | some p =>
      obtain ⟨hge, -, -, hend⟩ := place?_le hx
      have hle : ¬ -(overflowUnits : Int) < p := fun hlt => h ⟨_, p, rfl, hx, hlt⟩
      exact .inr (hend (by omega))
  · rintro (rfl | rfl)
    · rfl
    · exact lt_negative_infinity _

/-! ### Comparisons as tests -/

/-- Equality tests the order. -/
theorem eq_eq_verdict (x y : Binary64) : x.eq y = verdict Ordering.isEq (x.compare? y) := by
  unfold eq
  -- three orders and none
  rcases x.compare? y with _ | (_ | _ | _) <;> rfl

/-- So does being below. -/
theorem lt_eq_verdict (x y : Binary64) : x.lt y = verdict Ordering.isLT (x.compare? y) := by
  unfold lt
  rcases x.compare? y with _ | (_ | _ | _) <;> rfl

/-- So does being at most. -/
theorem le_eq_verdict (x y : Binary64) : x.le y = verdict Ordering.isLE (x.compare? y) := by
  unfold le
  rw [lt_eq_verdict, eq_eq_verdict]
  rcases x.compare? y with _ | (_ | _ | _) <;> rfl

/-- The two tests share a bound without a gap: of two numbers that are not NaN, either the first is
    below the second, or the second is at most the first. -/
theorem lt_eq_not_le {x y : Binary64} (hx : x.isNaN = false) (hy : y.isNaN = false) :
    x.lt y = !y.le x := by
  rw [lt_eq_verdict, le_eq_verdict, compare?_swap x y]
  -- with an order there are three cases, and without one there was a NaN
  cases horder : x.compare? y with
  | none =>
    obtain h | h := compare?_eq_none_iff.mp horder
    · exact absurd (hx.symm.trans h) Bool.false_ne_true
    · exact absurd (hy.symm.trans h) Bool.false_ne_true
  | some order => cases order <;> rfl

/-! ### Sums and rounded numbers -/

/-- The order of the summands does not matter. -/
theorem add_comm (x y : Binary64) : x.add y = y.add x := by
  -- only the sum of two finite numbers adds integers, which may change places
  cases x with
  | nan => cases y <;> rfl
  | infinity s =>
    cases y with
    | nan => rfl
    | infinity t => cases s <;> cases t <;> rfl
    | finite t v hv => rfl
  | finite s u hu =>
    cases y with
    | nan => rfl
    | infinity t => rfl
    | finite t v hv => simp only [add, Int.add_comm, Bool.and_comm]

/-- Rounding may overflow, but what it gives is a number. -/
theorem isNaN_ofUnits (negative : Bool) (num den : Nat) :
    (ofUnits negative num den).isNaN = false := by
  unfold ofUnits
  dsimp only
  split <;> rfl

theorem isNaN_ofNat (n : Nat) : (ofNat n).isNaN = false :=
  isNaN_ofUnits ..

theorem isNaN_ofInt (n : Int) : (ofInt n).isNaN = false :=
  isNaN_ofUnits ..

end Binary64
end RecordRules
