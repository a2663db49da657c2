import RecordRules.Numeral
import RecordRules.Proofs.Binary64.Magnitude
import RecordRules.Value

/-!
# Integers are read back from their text

The text of a 64-bit integer is its sign and its decimal digits, and the reader of integers takes
both again.

## Key results

- `Numeral.natural?_decimalDigits`: a natural is read from its decimal digits
- `Numeral.integer?_integerText`: a 64-bit integer is read from its text
-/

namespace RecordRules

namespace Numeral

/-- A decimal digit is worth its distance from zero. -/
theorem digitValue?_of_isDigit {c : Char} (h : c.isDigit = true) :
    digitValue? 10 c = some (c.toNat - '0'.toNat) := by
  rw [Char.isDigit, Bool.and_eq_true, decide_eq_true_eq, decide_eq_true_eq] at h
  obtain ⟨hlow, hhigh⟩ : '0' ≤ c ∧ c ≤ '9' := h
  have hworth : c.toNat - '0'.toNat < 10 := by
    have hnat : c.toNat ≤ '9'.toNat := hhigh
    have : '9'.toNat = 57 := rfl
    have : '0'.toNat = 48 := rfl
    omega
  simp only [digitValue?, if_pos (And.intro hlow hhigh), if_pos hworth]

/-- Decimal digits are read as the natural that they write. -/
theorem digitsFrom?_eq {ds : List Char} (h : ∀ c ∈ ds, c.isDigit = true) (acc : Nat) :
    digitsFrom? 10 acc ds = some (Nat.ofDigitChars 10 ds acc) := by
  -- what has been read so far changes with each digit, so the induction is for all of it
  induction ds generalizing acc with
  | nil => rfl
  | cons c rest ih =>
    have hc := digitValue?_of_isDigit (h c List.mem_cons_self)
    rw [digitsFrom?, hc, Nat.ofDigitChars_cons, Nat.mul_comm 10 acc]
    exact ih (fun d hd => h d (List.mem_cons_of_mem c hd)) _

theorem isDigit_of_mem_decimalDigits {n : Nat} {c : Char} (h : c ∈ decimalDigits n) :
    c.isDigit = true :=
  Nat.isDigit_of_mem_toDigits (by decide) (by decide) h

/-- A natural is read from its decimal digits. -/
theorem natural?_decimalDigits (n : Nat) : natural? 10 (decimalDigits n) = some n := by
  have hne : (decimalDigits n).isEmpty = false := by
    rw [List.isEmpty_eq_false_iff]
    exact Nat.toDigits_ne_nil
  rw [natural?, hne, if_neg Bool.false_ne_true,
    digitsFrom?_eq fun c hc => isDigit_of_mem_decimalDigits hc]
  exact congrArg some (Nat.ofDigitChars_toDigits (by decide) (by decide))

/-- Digits have no sign in front. -/
theorem splitSign_of_isDigit {ds : List Char} (h : ∀ c ∈ ds, c.isDigit = true) :
    splitSign ds = (false, ds) := by
  unfold splitSign
  -- a sign is no digit
  split
  · exact absurd (h '-' List.mem_cons_self) (by decide)
  · exact absurd (h '+' List.mem_cons_self) (by decide)
  · rfl

end Numeral

namespace Value

/-- The characters of the text of an integer: a minus sign if it is negative, and the digits. -/
theorem toList_integerText (n : Int64) :
    (integerText n).toList =
      (if n.toInt < 0 then ['-'] else []) ++ decimalDigits n.toInt.natAbs :=
  String.toList_ofList

/-- The text of an integer consists of digits, with a minus sign in front if it is negative. -/
theorem eq_minus_or_isDigit_of_mem_integerText {n : Int64} {c : Char}
    (h : c ∈ (integerText n).toList) : c = '-' ∨ c.isDigit = true := by
  rw [toList_integerText, List.mem_append] at h
  obtain h | h := h
  · split at h
    · exact .inl (List.mem_singleton.mp h)
    · exact nomatch h
  · exact .inr (Numeral.isDigit_of_mem_decimalDigits h)

theorem integerText_ne_empty (n : Int64) : (integerText n).toList ≠ [] := by
  rw [toList_integerText]
  exact List.append_ne_nil_of_right_ne_nil _ Nat.toDigits_ne_nil

end Value

namespace Numeral

/-- The sign and the digits of the text of an integer. -/
theorem splitSign_integerText (n : Int64) :
    splitSign (Value.integerText n).toList =
      (decide (n.toInt < 0), decimalDigits n.toInt.natAbs) := by
  rw [Value.toList_integerText]
  by_cases hneg : n.toInt < 0
  · rw [if_pos hneg, decide_eq_true hneg]
    rfl
  · rw [if_neg hneg, decide_eq_false hneg]
    exact splitSign_of_isDigit fun c hc => isDigit_of_mem_decimalDigits hc

/-- A 64-bit integer is read from its text. -/
theorem integer?_integerText (n : Int64) : integer? (Value.integerText n).toList = some n := by
  -- sign and absolute value make the integer again
  have hvalue : (if decide (n.toInt < 0) = true then -(n.toInt.natAbs : Int)
      else n.toInt.natAbs) = n.toInt := by
    by_cases hneg : n.toInt < 0
    · rw [decide_eq_true hneg, if_pos rfl]
      omega
    · rw [decide_eq_false hneg, if_neg Bool.false_ne_true]
      omega
  unfold integer?
  rw [splitSign_integerText]
  simp only [natural?_decimalDigits, Option.bind_eq_bind, Option.bind_some]
  -- the integer fits a word, since it comes from one
  rw [hvalue, if_pos (isSigned64_toInt n), Int64.ofInt_toInt]

end Numeral
end RecordRules
