import RecordRules.Binary64.Layout
import RecordRules.Proofs.Binary64.Shortest
import RecordRules.Proofs.Numeral.Integer

/-!
# Positional text

Positional text of digits and a power of ten is the digits with zeros behind them, or digits on both
sides of a point.  The digits of the text, taken together, are worth the digits that were given, or
these with the zeros behind them.

## Key results

- `ofDigitChars_decimalDigits`: the digits of a natural are worth the natural
- `Binary64.positional_of_nonneg`: text without a fraction
- `Binary64.positional_of_neg`: text with a fraction
-/

namespace RecordRules

/-! ### Digits -/

theorem decimalDigits_ne_nil (n : Nat) : decimalDigits n ≠ [] :=
  Nat.toDigits_ne_nil

/-- A natural below a power of ten has no more digits than the power has zeros. -/
theorem length_decimalDigits_le {n k : Nat} (hk : 0 < k) (h : n < tenTo k) :
    (decimalDigits n).length ≤ k :=
  (Nat.length_toDigits_le_iff (by decide) hk).mpr h

/-- A natural is below the power of ten with as many zeros as it has digits. -/
theorem lt_tenTo_length (n : Nat) : n < tenTo (decimalDigits n).length :=
  (Nat.length_toDigits_le_iff (by decide) (List.length_pos_iff.mpr (decimalDigits_ne_nil n))).mp
    (Nat.le_refl _)

theorem ofDigitChars_decimalDigits (n : Nat) : Nat.ofDigitChars 10 (decimalDigits n) 0 = n :=
  Nat.ofDigitChars_toDigits (by decide) (by decide)

/-- Digits that follow make a natural no smaller. -/
theorem le_ofDigitChars (ds : List Char) (n : Nat) : n ≤ Nat.ofDigitChars 10 ds n := by
  rw [Nat.ofDigitChars_eq_ofDigitChars_zero]
  exact Nat.le_trans (Nat.le_mul_of_pos_left n (Nat.pow_pos (by decide))) (Nat.le_add_right _ _)

/-- The digits of a natural other than zero do not begin with a zero. -/
theorem head?_decimalDigits {n : Nat} (hn : n ≠ 0) : ∀ c ∈ (decimalDigits n).head?, c ≠ '0' := by
  -- on the natural, which loses its last digit at each step
  induction n using Nat.strongRecOn with
  | ind n ih =>
    unfold decimalDigits
    by_cases hlt : n < 10
    · rw [Nat.toDigits_of_lt_base hlt]
      intro c hc
      obtain rfl : n.digitChar = c := Option.some.inj hc
      -- there are nine such digits, and none of them is a zero
      have hall : ∀ n < 10, n ≠ 0 → n.digitChar ≠ '0' := by decide
      exact hall n hlt hn
    -- the first digit is that of the natural without its last digit
    · rw [Nat.toDigits_of_base_le (by decide) (Nat.le_of_not_lt hlt)]
      obtain ⟨c, cs, hcs⟩ := List.exists_cons_of_ne_nil (decimalDigits_ne_nil (n / 10))
      have hc : c ≠ '0' := ih (n / 10) (by omega) (by omega) c (by rw [hcs]; rfl)
      intro d hd
      rw [← decimalDigits, hcs] at hd
      exact Option.some.inj hd ▸ hc

/-- Zeros are digits. -/
theorem isDigit_of_mem_zeros {n : Nat} {c : Char} (hc : c ∈ List.replicate n '0') :
    c.isDigit = true := by
  rw [List.eq_of_mem_replicate hc]
  decide

/-- Zeros behind the digits of a natural are a power of ten. -/
theorem ofDigitChars_zeros (n k : Nat) :
    Nat.ofDigitChars 10 (decimalDigits n ++ List.replicate k '0') 0 = n * tenTo k := by
  -- each zero read multiplies what was read before it by ten
  rw [Nat.ofDigitChars_append, ofDigitChars_decimalDigits, Nat.ofDigitChars_replicate_zero]
  exact Nat.mul_comm (tenTo k) n

/-! ### Digits and a point -/

namespace Binary64

variable {l : Layout} {d : Nat} {p : Int}

/-- A power of ten from one on puts zeros behind the digits. -/
theorem positional_of_nonneg (hp : 0 ≤ p) :
    positional l (decimalDigits d) p =
      decimalDigits d ++ List.replicate p.toNat '0' ++ if l.pointZero then ['.', '0'] else [] := by
  unfold positional
  rw [if_pos hp]

/-- A power of ten below one puts a point between the digits or, with a zero before it and maybe
    some behind it, before them. -/
theorem positional_of_neg (hp : p < 0) : ∃ whole fraction,
    positional l (decimalDigits d) p = whole ++ '.' :: fraction ∧ whole ≠ [] ∧
      fraction.length = (-p).toNat ∧ (∀ c ∈ whole ++ fraction, c.isDigit = true) ∧
      Nat.ofDigitChars 10 (whole ++ fraction) 0 = d ∧
      (whole = ['0'] ∨ ∀ c ∈ whole.head?, c ∈ (decimalDigits d).head?) := by
  have hdigits : ∀ c ∈ decimalDigits d, c.isDigit = true :=
    fun c => Numeral.isDigit_of_mem_decimalDigits
  unfold positional
  dsimp only
  rw [if_neg (Int.not_le.mpr hp)]
  split
  · next hinside =>
    -- the point stands between the digits
    generalize hn : (decimalDigits d).length - (-p).toNat = n
    have hparts : (decimalDigits d).take n ++ (decimalDigits d).drop n = decimalDigits d :=
      List.take_append_drop ..
    refine ⟨(decimalDigits d).take n, (decimalDigits d).drop n, rfl, ?_, ?_, ?_, ?_, .inr ?_⟩
    -- the point lies inside, so there is a digit before it
    · intro hnil
      have := congrArg List.length hnil
      rw [List.length_take, List.length_nil] at this
      omega
    · rw [List.length_drop]
      omega
    · rwa [hparts]
    · rw [hparts, ofDigitChars_decimalDigits]
    -- what begins the digits before the point begins all the digits
    · intro c hc
      rw [← hparts, List.head?_append, hc]
      rfl
  · -- a zero and the point come first, and the zeros behind them are worth nothing
    generalize hn : (-p).toNat - (decimalDigits d).length = n
    have hzeros : ['0'] ++ (List.replicate n '0' ++ decimalDigits d) =
        List.replicate (n + 1) '0' ++ decimalDigits d := rfl
    refine ⟨['0'], List.replicate n '0' ++ decimalDigits d, rfl, List.cons_ne_nil _ _, ?_, ?_, ?_,
      .inl rfl⟩
    · rw [List.length_append, List.length_replicate]
      omega
    · intro c hc
      rw [hzeros, List.mem_append] at hc
      exact hc.elim isDigit_of_mem_zeros (hdigits c)
    · rw [hzeros, Nat.ofDigitChars_append, Nat.ofDigitChars_replicate_zero, Nat.mul_zero,
        ofDigitChars_decimalDigits]

end Binary64
end RecordRules
