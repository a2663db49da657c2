import RecordRules.Binary64.Layout
import RecordRules.Proofs.Binary64.Rounding

/-!
# The shortest digits read back

The search for the digits of a magnitude tries coarser decimal grids before finer ones, and takes
from a grid only what lies in the interval of the magnitude.  It always finds something: the first
power of ten is the one of the magnitude itself, and sixteen powers further the step of the grid is
smaller than the interval.  So the digits that are found, at most seventeen, are rounded back to the
magnitude.

## Key results

- `decimalExponent_spec`: the power of ten that the search begins with
- `contains_or_contains_succ`: sixteen powers further a grid meets the interval
- `shortest_spec`: the digits that are found lie in the interval of the magnitude
- `shortest_bounds`: how many there are, and which powers of ten they come with
- `ofDecimal_of_contains`: decimals in the interval of a magnitude are read as the magnitude
-/

namespace RecordRules

theorem tenTo_pos (e : Nat) : 0 < tenTo e :=
  Nat.pow_pos (by decide)

theorem tenTo_add (a b : Nat) : tenTo (a + b) = tenTo a * tenTo b :=
  Nat.pow_add 10 a b

theorem tenTo_le {a b : Nat} (h : a ≤ b) : tenTo a ≤ tenTo b :=
  Nat.pow_le_pow_right (by decide) h

namespace Binary64

/-! ### Powers of ten -/

/-- The width of a natural other than zero is told by the powers of ten around it. -/
theorem decimalWidth_spec {n : Nat} (hn : n ≠ 0) :
    ∃ k, decimalWidth n = k + 1 ∧ tenTo k ≤ n ∧ n < tenTo (k + 1) := by
  have hwidth : decimalWidth n = (Nat.toDigits 10 n).length := if_neg hn
  have hpos : 0 < (Nat.toDigits 10 n).length := List.length_pos_iff.mpr Nat.toDigits_ne_nil
  obtain ⟨k, hk⟩ := Nat.exists_eq_succ_of_ne_zero (Nat.ne_of_gt hpos)
  refine ⟨k, hwidth.trans hk, ?_, ?_⟩
  -- fewer digits would do for a smaller number
  · by_contra hlt
    rcases Nat.eq_zero_or_pos k with rfl | hkpos
    · have : tenTo 0 = 1 := rfl
      omega
    · have := (Nat.length_toDigits_le_iff (by decide) hkpos).mpr (Nat.lt_of_not_le hlt)
      omega
  · exact (Nat.length_toDigits_le_iff (by decide) (Nat.succ_pos k)).mp (Nat.le_of_eq hk)

/-- The search begins with the power of ten right below a magnitude, here counted up from `-400`. -/
theorem decimalExponent_spec {u : Nat} (hne : u ≠ 0) :
    ∃ k : Nat, decimalExponent u = (k : Int) - 400 ∧
      tenTo k * twoTo unitExponent ≤ u * tenTo 400 ∧
      u * tenTo 400 < tenTo (k + 1) * twoTo unitExponent := by
  have hunit : 0 < twoTo unitExponent := twoTo_pos _
  -- scaled by so large a power even the smallest magnitude has a whole part, whose digits count
  have hscaled : u * tenTo 400 / twoTo unitExponent ≠ 0 := by
    have hsmall : twoTo unitExponent ≤ tenTo 400 := by decide +kernel
    have hle : twoTo unitExponent ≤ u * tenTo 400 :=
      Nat.le_trans hsmall (Nat.le_mul_of_pos_left _ (Nat.pos_of_ne_zero hne))
    exact Nat.ne_of_gt (Nat.div_pos hle hunit)
  obtain ⟨k, hwidth, hlow, hhigh⟩ := decimalWidth_spec hscaled
  refine ⟨k, ?_, ?_, ?_⟩
  · unfold decimalExponent
    rw [hwidth]
    omega
  · exact (Nat.le_div_iff_mul_le hunit).mp hlow
  · exact (Nat.div_lt_iff_lt_mul hunit).mp hhigh

/-- A power of ten with an exponent of either sign, as the ratio of two powers, one of them one. -/
theorem tenTo_toNat_mul {p : Int} {k j : Nat} (h : p = (k : Int) - j) :
    tenTo p.toNat * tenTo j = tenTo (-p).toNat * tenTo k := by
  have hexponents : p.toNat + j = (-p).toNat + k := by omega
  rw [← tenTo_add, ← tenTo_add, hexponents]

/-- A decimal may be written with zeros at its end or without them. -/
theorem RoundingInterval.contains_mul_tenTo {i : RoundingInterval} (d j : Nat) (p : Int) :
    i.contains (d * tenTo j) p = i.contains d (p + j) := by
  have hexponents : j + p.toNat + (-(p + j)).toNat = (p + j).toNat + (-p).toNat := by omega
  have hpowers : tenTo j * tenTo p.toNat * tenTo (-(p + j)).toNat =
      tenTo (p + j).toNat * tenTo (-p).toNat := by
    rw [← tenTo_add, ← tenTo_add, ← tenTo_add, hexponents]
  -- both decimals are the same ratio, with powers of ten above and below the line
  have hratio : d * tenTo j * tenTo p.toNat * twoTo unitExponent * tenTo (-(p + j)).toNat =
      d * tenTo (p + j).toNat * twoTo unitExponent * tenTo (-p).toNat := by
    calc d * tenTo j * tenTo p.toNat * twoTo unitExponent * tenTo (-(p + j)).toNat
        = d * (tenTo j * tenTo p.toNat * tenTo (-(p + j)).toNat) * twoTo unitExponent := by ring
      _ = d * (tenTo (p + j).toNat * tenTo (-p).toNat) * twoTo unitExponent := by rw [hpowers]
      _ = _ := by ring
  rw [Bool.eq_iff_iff, contains_iff, contains_iff]
  exact ⟨holds_of_ratio_eq (tenTo_pos _) (tenTo_pos _) hratio,
    holds_of_ratio_eq (tenTo_pos _) (tenTo_pos _) hratio.symm⟩

/-! ### One grid -/

/-- The step of a decimal grid, times the denominator of its power of ten. -/
def gridStep (p : Int) : Nat :=
  twoTo unitExponent * tenTo p.toNat

theorem gridStep_pos (p : Int) : 0 < gridStep p :=
  Nat.mul_pos (twoTo_pos _) (tenTo_pos _)

/-- The point of a grid below a magnitude. -/
theorem gridBelow_fst (u : Nat) (p : Int) :
    (gridBelow u p).1 = u * tenTo (-p).toNat / gridStep p :=
  rfl

/-- Where the points of a grid lie. -/
theorem contains_iff_holds_grid {i : RoundingInterval} {d : Nat} {p : Int} :
    i.contains d p = true ↔ i.Holds (d * gridStep p) (tenTo (-p).toNat) := by
  rw [RoundingInterval.contains_iff, gridStep, Nat.mul_comm (twoTo unitExponent), Nat.mul_assoc]

/-- Sixteen powers of ten below a magnitude the step of the grid is less than `10 ^ -16` of it. -/
theorem gridStep_mul_le {u : Nat} {p : Int} (hne : u ≠ 0) (hp : p = decimalExponent u - 16) :
    gridStep p * tenTo 16 ≤ u * tenTo (-p).toNat := by
  obtain ⟨k, hk, hlow, -⟩ := decimalExponent_spec hne
  -- `p` is sixteen below the power of the magnitude, counted up from `-400`
  have hpower : tenTo p.toNat * tenTo (400 + 16) = tenTo (-p).toNat * tenTo k :=
    tenTo_toNat_mul (by omega)
  refine Nat.le_of_mul_le_mul_right ?_ (tenTo_pos 400)
  calc gridStep p * tenTo 16 * tenTo 400
      = twoTo unitExponent * (tenTo p.toNat * tenTo (400 + 16)) := by
        rw [gridStep, tenTo_add]
        ring
    _ = tenTo k * twoTo unitExponent * tenTo (-p).toNat := by
        rw [hpower]
        ring
    _ ≤ u * tenTo 400 * tenTo (-p).toNat := Nat.mul_le_mul_right _ hlow
    _ = u * tenTo (-p).toNat * tenTo 400 := by ring

/-- Down to sixteen powers of ten below a magnitude there are less than `10 ^ 17` steps to it. -/
theorem gridBelow_lt {u : Nat} {p : Int} (hne : u ≠ 0) (hp : decimalExponent u - 16 ≤ p) :
    (gridBelow u p).1 < tenTo 17 := by
  obtain ⟨k, hk, -, hhigh⟩ := decimalExponent_spec hne
  -- `j` grids lie between this one and the finest that is tried
  obtain ⟨j, hj⟩ : ∃ j : Nat, p = ((k + j : Nat) : Int) - (400 + 16 : Nat) :=
    ⟨(p - (k - 416)).toNat, by omega⟩
  have hpower : tenTo p.toNat * tenTo (400 + 16) = tenTo (-p).toNat * tenTo (k + j) :=
    tenTo_toNat_mul hj
  rw [gridBelow_fst, Nat.div_lt_iff_lt_mul (gridStep_pos p)]
  refine Nat.lt_of_mul_lt_mul_right (a := tenTo 400 * tenTo 16) ?_
  calc u * tenTo (-p).toNat * (tenTo 400 * tenTo 16)
      = u * tenTo 400 * (tenTo (-p).toNat * tenTo 16) := by ring
    _ < tenTo (k + 1) * twoTo unitExponent * (tenTo (-p).toNat * tenTo 16) :=
        Nat.mul_lt_mul_of_pos_right hhigh (Nat.mul_pos (tenTo_pos _) (tenTo_pos _))
    _ = tenTo 17 * twoTo unitExponent * (tenTo (-p).toNat * tenTo k) := by
        rw [tenTo_add k 1, show tenTo 17 = tenTo 1 * tenTo 16 from tenTo_add 1 16]
        ring
    _ ≤ tenTo 17 * twoTo unitExponent * (tenTo (-p).toNat * tenTo (k + j)) :=
        Nat.mul_le_mul_left _ (Nat.mul_le_mul_left _ (tenTo_le (Nat.le_add_right k j)))
    _ = tenTo 17 * gridStep p * (tenTo 400 * tenTo 16) := by
        rw [← hpower, gridStep, tenTo_add]
        ring

/-- A step of less than `10 ^ -16` of a magnitude is less than one of its last places, and less than
    three quarters of one if the magnitude is a power of two. -/
theorem step_lt_place {step place m : Nat} (hm : m < twoTo 53) (hplace : 0 < place)
    (h : step * tenTo 16 ≤ m * place) :
    step < place ∧ (m = twoTo 52 → 4 * step < 3 * place) := by
  -- a significand is below `10 ^ 16`, and `2 ^ 52` below three quarters of it
  have hten : tenTo 16 = 10000000000000000 := rfl
  rw [hten] at h
  constructor
  · have hle : m * place ≤ 9007199254740991 * place :=
      Nat.mul_le_mul_right place (Nat.le_of_lt_succ hm)
    omega
  · rintro rfl
    have htwo : twoTo 52 = 4503599627370496 := rfl
    rw [htwo] at h
    omega

/-- One of the two points around a magnitude lies in its interval, if the steps of the grid are
    small. -/
theorem contains_or_contains_succ {u : Nat} {p : Int} (hr : Representable u) (hne : u ≠ 0)
    (hstep : gridStep p * tenTo 16 ≤ u * tenTo (-p).toNat) :
    (roundingInterval u).contains (gridBelow u p).1 p = true ∨
      (roundingInterval u).contains ((gridBelow u p).1 + 1) p = true := by
  have hu := hr.eq_significand_mul
  have hm := significand_lt u
  have hden : 0 < tenTo (-p).toNat := tenTo_pos _
  -- a magnitude other than zero has a significand other than zero
  have hmne : u / twoTo (lastPlace u) ≠ 0 := by
    intro h0
    rw [h0, Nat.zero_mul] at hu
    exact hne hu.symm
  have hvalue : u * tenTo (-p).toNat =
      u / twoTo (lastPlace u) * (tenTo (-p).toNat * twoTo (lastPlace u)) := by
    rw [Nat.mul_comm (tenTo _), ← Nat.mul_assoc, hu]
  -- the point below is at most as far away as the point above is not
  have hbelow := Nat.div_mul_le_self (u * tenTo (-p).toNat) (gridStep p)
  have habove := Nat.lt_div_mul_add (a := u * tenTo (-p).toNat) (gridStep_pos p)
  have hnear {num : Nat} := @holds_of_near u num _ _ _ rfl rfl hu hmne hden
  have hplace : 0 < tenTo (-p).toNat * twoTo (lastPlace u) := Nat.mul_pos hden (twoTo_pos _)
  rw [contains_iff_holds_grid, contains_iff_holds_grid, gridBelow_fst, Nat.succ_mul]
  rw [hvalue] at hstep hbelow habove ⊢
  obtain ⟨hlt, hpower⟩ := step_lt_place hm hplace hstep
  generalize u / twoTo (lastPlace u) = m at *
  generalize tenTo (-p).toNat * twoTo (lastPlace u) = place at *
  generalize m * place / gridStep p * gridStep p = below at *
  -- the point below the magnitude will do, unless it is further away than the interval reaches
  by_cases hfar : reachDown m (lastPlace u) place ≤ 4 * (m * place) - 4 * below
  · right
    -- two points are one step apart, which is less than the interval is wide
    have hless : 4 * gridStep p < 2 * place + reachDown m (lastPlace u) place := by
      unfold reachDown
      split
      · next hedge =>
        have := hpower hedge.1
        omega
      · omega
    apply hnear
    · omega
    · omega
  · left
    apply hnear
    · omega
    · omega

/-! ### The search -/

section Search

variable {tie : TieRule} {i : RoundingInterval} {u d : Nat} {p : Int}

/-- What is taken from a grid is one of two points, and it lies in the interval. -/
theorem onGrid?_eq_some (h : onGrid? tie i u p = some d) :
    i.contains d p = true ∧ d ≤ (gridBelow u p).1 + 1 := by
  unfold onGrid? at h
  generalize gridBelow u p = g at h ⊢
  obtain ⟨g, half⟩ := g
  dsimp only at h ⊢
  -- neither point, only the lower one, only the upper one, or both
  split at h
  · cases h
  · next hlow _ => exact Option.some.inj h ▸ ⟨hlow, Nat.le_succ g⟩
  · next hhigh => exact Option.some.inj h ▸ ⟨hhigh, Nat.le_refl _⟩
  · next hlow hhigh =>
    split at h
    · exact Option.some.inj h ▸ ⟨hlow, Nat.le_succ g⟩
    · exact Option.some.inj h ▸ ⟨hhigh, Nat.le_refl _⟩
    · exact Option.some.inj h ▸ ⟨hhigh, Nat.le_refl _⟩
    -- both points are as near, and the rule for ties takes one of them
    · rw [← Option.some.inj h]
      split
      · exact ⟨hlow, Nat.le_succ g⟩
      · exact ⟨hhigh, Nat.le_refl _⟩

/-- Something is taken from a grid if one of the two points lies in the interval. -/
theorem isSome_onGrid? (h : i.contains (gridBelow u p).1 p = true ∨
    i.contains ((gridBelow u p).1 + 1) p = true) : (onGrid? tie i u p).isSome := by
  unfold onGrid?
  generalize gridBelow u p = g at h ⊢
  obtain ⟨g, half⟩ := g
  dsimp only at h ⊢
  split
  -- only if neither point lies in the interval is nothing taken
  · next hlow hhigh => rcases h with h | h <;> simp_all
  · rfl
  · rfl
  · split <;> rfl

/-- The search ends on a grid with something to take, if the last grid has something. -/
theorem shortestFrom_spec {tries : Nat} (hlast : (onGrid? tie i u (p - tries)).isSome) :
    ∃ d q, shortestFrom tie i u (tries + 1) p = (d, q) ∧ onGrid? tie i u q = some d ∧
      p - tries ≤ q ∧ q ≤ p := by
  -- on the number of grids behind the one at hand
  induction tries generalizing p with
  | zero =>
    obtain ⟨d, hd⟩ := Option.isSome_iff_exists.mp hlast
    rw [Int.natCast_zero, Int.sub_zero] at hd
    refine ⟨d, p, ?_, hd, by omega, by omega⟩
    rw [shortestFrom, hd]
  | succ tries ih =>
    -- the search ends here, or goes on with a grid that is ten times finer
    cases hgrid : onGrid? tie i u p with
    | some d =>
      refine ⟨d, p, ?_, hgrid, by omega, by omega⟩
      rw [shortestFrom, hgrid]
    | none =>
      have hnext : p - ((tries + 1 : Nat) : Int) = p - 1 - (tries : Int) := by omega
      rw [hnext] at hlast ⊢
      obtain ⟨d, q, hsearch, hd, hlow, hhigh⟩ := ih hlast
      refine ⟨d, q, ?_, hd, hlow, by omega⟩
      rw [shortestFrom, hgrid]
      exact hsearch

/-- Zeros at the end are moved into the power. -/
theorem dropZeros_spec (fuel d : Nat) (p : Int) :
    ∃ j : Nat, d = (dropZeros fuel d p).1 * tenTo j ∧ (dropZeros fuel d p).2 = p + j := by
  -- on the fuel; a zero that is dropped is a factor of ten moved into the power
  induction fuel generalizing d p with
  | zero => exact ⟨0, (Nat.mul_one d).symm, (Int.add_zero p).symm⟩
  | succ fuel ih =>
    rw [dropZeros]
    split
    · next hzero =>
      obtain ⟨j, hd, hp⟩ := ih (d / 10) (p + 1)
      refine ⟨j + 1, ?_, by omega⟩
      rw [tenTo_add, ← Nat.mul_assoc, ← hd]
      exact (Nat.div_mul_cancel (Nat.dvd_of_mod_eq_zero hzero)).symm
    · exact ⟨0, (Nat.mul_one d).symm, (Int.add_zero p).symm⟩

end Search

/-- The digits that are found for a magnitude lie in its interval.  There are at most seventeen, and
    their power of ten is not far from that of the magnitude. -/
theorem shortest_spec (tie : TieRule) {u : Nat} (hr : Representable u) (hne : u ≠ 0) :
    (roundingInterval u).contains (shortest tie u).1 (shortest tie u).2 = true ∧
      (shortest tie u).1 ≤ tenTo 17 ∧
      ∃ j : Nat, (shortest tie u).1 * tenTo j ≤ tenTo 17 ∧
        decimalExponent u - 16 + j ≤ (shortest tie u).2 ∧
        (shortest tie u).2 ≤ decimalExponent u + j := by
  -- the last grid that is tried is fine enough
  have hlast : (onGrid? tie (roundingInterval u) u (decimalExponent u - (16 : Nat))).isSome :=
    isSome_onGrid? (contains_or_contains_succ hr hne (gridStep_mul_le hne rfl))
  obtain ⟨d, q, hsearch, hgrid, hlow, hhigh⟩ := shortestFrom_spec hlast
  obtain ⟨hcontains, hd⟩ := onGrid?_eq_some hgrid
  have hmax : d ≤ tenTo 17 := Nat.le_trans hd (gridBelow_lt hne hlow)
  -- the digits lose `j` zeros, which the power of ten gains
  obtain ⟨j, hdrop, hpower⟩ := dropZeros_spec 18 d q
  have hshortest : shortest tie u = dropZeros 18 d q := by
    unfold shortest
    rw [hsearch]
  rw [hshortest]
  generalize dropZeros 18 d q = found at *
  obtain ⟨d', q'⟩ := found
  dsimp only at hdrop hpower ⊢
  subst hdrop hpower
  rw [RoundingInterval.contains_mul_tenTo] at hcontains
  refine ⟨hcontains, ?_, j, hmax, by omega, by omega⟩
  exact Nat.le_trans (Nat.le_mul_of_pos_right d' (tenTo_pos j)) hmax

/-- The search begins at a power of ten that is not far out. -/
theorem decimalExponent_bounds {u : Nat} (hr : Representable u) (hne : u ≠ 0) :
    -400 ≤ decimalExponent u ∧ decimalExponent u ≤ 308 := by
  obtain ⟨k, hk, hlow, -⟩ := decimalExponent_spec hne
  -- the largest magnitude has 309 digits before its point
  have hlarge : overflowUnits * tenTo 400 < tenTo 709 * twoTo unitExponent := by decide +kernel
  have hlt : tenTo k * twoTo unitExponent < tenTo 709 * twoTo unitExponent :=
    calc tenTo k * twoTo unitExponent
        ≤ u * tenTo 400 := hlow
      _ < overflowUnits * tenTo 400 := Nat.mul_lt_mul_of_pos_right hr.1 (tenTo_pos _)
      _ < tenTo 709 * twoTo unitExponent := hlarge
  have hk709 : k < 709 := by
    by_contra hge
    have := Nat.mul_le_mul_right (twoTo unitExponent) (tenTo_le (Nat.le_of_not_lt hge))
    omega
  omega

/-- What lies in the interval of a magnitude is at least half of it, and at most one and a half. -/
theorem half_le_of_holds {u num den : Nat} (hr : Representable u) (hne : u ≠ 0)
    (h : (roundingInterval u).Holds num den) :
    u * den ≤ 2 * num ∧ 2 * num ≤ 3 * (u * den) := by
  have hu := hr.eq_significand_mul
  obtain ⟨hup, hdown, -⟩ := near_of_holds rfl rfl hu h
  have hreach := reachDown_le (u / twoTo (lastPlace u)) (lastPlace u) (den * twoTo (lastPlace u))
  -- the significand is positive, as the magnitude is
  have hm : 0 < u / twoTo (lastPlace u) := by
    refine Nat.pos_of_ne_zero fun h0 => hne ?_
    rw [← hu, h0, Nat.zero_mul]
  -- the interval reaches half a place to each side, and a magnitude has at least one place
  have hone := Nat.le_mul_of_pos_left (den * twoTo (lastPlace u)) hm
  have hvalue : u * den = u / twoTo (lastPlace u) * (den * twoTo (lastPlace u)) := by
    rw [Nat.mul_comm den, ← Nat.mul_assoc, hu]
  rw [hvalue]
  omega

/-- Zero is not in the interval of any other magnitude. -/
theorem ne_zero_of_contains {u d : Nat} {p : Int} (hr : Representable u) (hne : u ≠ 0)
    (h : (roundingInterval u).contains d p = true) : d ≠ 0 := by
  rintro rfl
  rw [RoundingInterval.contains_iff, Nat.zero_mul, Nat.zero_mul] at h
  have hpos := Nat.mul_pos (Nat.pos_of_ne_zero hne) (tenTo_pos (-p).toNat)
  -- zero would have to be at least half of the magnitude
  have := (half_le_of_holds hr hne h).1
  omega

/-- The digits that are found are not zero, and neither are they many nor their power far out. -/
theorem shortest_bounds (tie : TieRule) {u : Nat} (hr : Representable u) (hne : u ≠ 0) :
    (shortest tie u).1 ≠ 0 ∧ (shortest tie u).1 ≤ tenTo 17 ∧
      -416 ≤ (shortest tie u).2 ∧ (shortest tie u).2 ≤ 325 := by
  obtain ⟨hcontains, hmax, j, hj, hlow, hhigh⟩ := shortest_spec tie hr hne
  obtain ⟨hsmall, hlarge⟩ := decimalExponent_bounds hr hne
  have hnonzero : (shortest tie u).1 ≠ 0 := ne_zero_of_contains hr hne hcontains
  -- digits that are not all zeros have fewer zeros at their end than there are digits
  have hzeros : j ≤ 17 := by
    by_contra hgt
    have h18 : tenTo 18 ≤ tenTo j := tenTo_le (by omega)
    have h17 : tenTo 17 < tenTo 18 := by decide
    have := Nat.le_mul_of_pos_left (tenTo j) (Nat.pos_of_ne_zero hnonzero)
    omega
  exact ⟨hnonzero, hmax, by omega, by omega⟩

/-! ### Reading back -/

/-- A decimal in the interval of a magnitude is not so far out that it would be taken for zero or
    for an infinity without a look at its digits. -/
theorem decimalWidth_bounds {u d : Nat} {p : Int} (hr : Representable u) (hne : u ≠ 0)
    (h : (roundingInterval u).contains d p = true) :
    -325 ≤ p + decimalWidth d ∧ p + decimalWidth d ≤ 310 := by
  have hd := ne_zero_of_contains hr hne h
  -- the place of the first digit tells the decimal up to a factor of ten
  obtain ⟨k, hwidth, hlow, hhigh⟩ := decimalWidth_spec hd
  rw [RoundingInterval.contains_iff] at h
  obtain ⟨hhalf, hmore⟩ := half_le_of_holds hr hne h
  have hunit := twoTo_pos unitExponent
  rw [hwidth]
  constructor
  · by_contra hout
    -- then it would be less than half of the smallest magnitude
    have hsmall : 2 * twoTo unitExponent ≤ tenTo 325 := by decide +kernel
    have hpowers : tenTo (k + 1) * tenTo p.toNat * tenTo 325 ≤ tenTo (-p).toNat := by
      rw [← tenTo_add, ← tenTo_add]
      exact tenTo_le (by omega)
    have hdigits : d * tenTo p.toNat < tenTo (k + 1) * tenTo p.toNat :=
      Nat.mul_lt_mul_of_pos_right hhigh (tenTo_pos _)
    have hless : 2 * (d * tenTo p.toNat * twoTo unitExponent) < tenTo (-p).toNat :=
      calc 2 * (d * tenTo p.toNat * twoTo unitExponent)
          = d * tenTo p.toNat * (2 * twoTo unitExponent) := by ring
        _ < tenTo (k + 1) * tenTo p.toNat * (2 * twoTo unitExponent) :=
          Nat.mul_lt_mul_of_pos_right hdigits (by omega)
        _ ≤ tenTo (k + 1) * tenTo p.toNat * tenTo 325 := Nat.mul_le_mul_left _ hsmall
        _ ≤ tenTo (-p).toNat := hpowers
    have := Nat.le_mul_of_pos_left (tenTo (-p).toNat) (Nat.pos_of_ne_zero hne)
    omega
  · by_contra hout
    -- then it would be more than one and a half of the largest magnitude
    have hlarge : 3 * overflowUnits ≤ 2 * (tenTo 310 * twoTo unitExponent) := by decide +kernel
    have hpowers : tenTo 310 * tenTo (-p).toNat ≤ tenTo k * tenTo p.toNat := by
      rw [← tenTo_add, ← tenTo_add]
      exact tenTo_le (by omega)
    have hless : 3 * (u * tenTo (-p).toNat) < 2 * (d * tenTo p.toNat * twoTo unitExponent) :=
      calc 3 * (u * tenTo (-p).toNat)
          = 3 * u * tenTo (-p).toNat := by ring
        _ < 3 * overflowUnits * tenTo (-p).toNat :=
          Nat.mul_lt_mul_of_pos_right (by have := hr.1; omega) (tenTo_pos _)
        _ ≤ 2 * (tenTo 310 * twoTo unitExponent) * tenTo (-p).toNat :=
          Nat.mul_le_mul_right _ hlarge
        _ = tenTo 310 * tenTo (-p).toNat * (2 * twoTo unitExponent) := by ring
        _ ≤ tenTo k * tenTo p.toNat * (2 * twoTo unitExponent) := Nat.mul_le_mul_right _ hpowers
        _ ≤ d * tenTo p.toNat * (2 * twoTo unitExponent) :=
          Nat.mul_le_mul_right _ (Nat.mul_le_mul_right _ hlow)
        _ = 2 * (d * tenTo p.toNat * twoTo unitExponent) := by ring
    omega

/-- A decimal in the interval of a magnitude is read as the magnitude. -/
theorem ofDecimal_of_contains {negative : Bool} {u d : Nat} {p : Int} (hr : Representable u)
    (hne : u ≠ 0) (h : (roundingInterval u).contains d p = true) :
    ofDecimal negative d p = .finite negative u hr := by
  obtain ⟨hlow, hhigh⟩ := decimalWidth_bounds hr hne h
  have hd := ne_zero_of_contains hr hne h
  rw [RoundingInterval.contains_iff] at h
  unfold ofDecimal
  dsimp only
  rw [if_neg hd, if_neg (by omega), if_neg (by omega)]
  -- one of the two powers of ten is one
  split
  · next hp =>
    have hone : (-p).toNat = 0 := by omega
    rw [hone] at h
    exact ofUnits_of_holds hr (tenTo_pos 0) h
  · next hp =>
    have hone : p.toNat = 0 := by omega
    have hdigits : d * tenTo 0 = d := Nat.mul_one d
    rw [hone, hdigits] at h
    exact ofUnits_of_holds hr (tenTo_pos _) h

/-- Natural numbers of up to twenty digits are rounded as they are. -/
theorem ofDecimal_natural {negative : Bool} {n : Nat} (hn : n < tenTo 20) :
    ofDecimal negative n 0 = ofRatio negative n 1 := by
  unfold ofDecimal
  dsimp only
  split
  · next hzero =>
    subst hzero
    -- zero is decided before its digits are looked at, for either sign
    cases negative <;> decide +kernel
  · next hne =>
    obtain ⟨k, hwidth, hlow, -⟩ := decimalWidth_spec hne
    -- twenty digits are far from the widths that are refused without a look
    have hk : k < 20 := by
      by_contra hge
      have := tenTo_le (Nat.le_of_not_lt hge)
      omega
    have hone : n * tenTo (0 : Int).toNat = n := Nat.mul_one n
    rw [hwidth, if_neg (by omega), if_neg (by omega), if_pos (Int.le_refl 0), hone]

end Binary64
end RecordRules
