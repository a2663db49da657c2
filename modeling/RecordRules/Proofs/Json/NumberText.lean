import RecordRules.Json.Number
import RecordRules.Proofs.Binary64.Positional
import RecordRules.Proofs.Numeral.Grammar

/-!
# The text of a number is read back

The text of an integer is its sign and its digits, and these are the integer again.  For the text of
a real the lemmas here follow the reader through the parts of a number: the digits before the point,
those behind it, and the exponent.

## Key results

- `JsonNumber.read_integer`: the text of a 64-bit integer is read as the integer
- `JsonNumber.unsigned_digits`, `JsonNumber.fraction_digits`, `JsonNumber.exponent_digits`: what the
  reader gathers of digits, a fraction and an exponent
-/

namespace RecordRules

namespace JsonNumber

/-! ### Digits -/

/-- What may follow a number that is read to its end. -/
def Ends (rest : List Char) : Prop :=
  ∀ c ∈ rest.head?, c.isDigit = false ∧ c ≠ '.' ∧ c ≠ 'e' ∧ c ≠ 'E'

/-- A character that is no digit, no point and no letter of an exponent ends a number. -/
theorem Ends.cons {c : Char} (hdigit : c.isDigit = false) (hother : c ∉ ['.', 'e', 'E'])
    (rest : List Char) : Ends (c :: rest) := by
  intro c' hc
  obtain rfl : c = c' := Option.some.inj hc
  simpa [hdigit] using hother

theorem Ends.notDigit {rest : List Char} (h : Ends rest) : ∀ c ∈ rest.head?, c.isDigit = false :=
  fun c hc => (h c hc).1

/-- Digits are taken up to what is none, if a word of 64 bits holds them. -/
theorem takeDigits_digits {ds rest : List Char} {n : Nat} (hds : ∀ c ∈ ds, c.isDigit = true)
    (hfits : Nat.ofDigitChars 10 ds n < twoTo 64) (hrest : ∀ c ∈ rest.head?, c.isDigit = false)
    (count : Nat) :
    takeDigits n count (ds ++ rest) = (Nat.ofDigitChars 10 ds n, count + ds.length, rest) := by
  -- on the digits, with whatever has been gathered before them
  induction ds generalizing n count with
  | nil =>
    cases rest with
    | nil => rfl
    | cons c rest =>
      have hc : c.isDigit = false := hrest c rfl
      rw [List.nil_append, takeDigits, hc]
      rfl
  | cons c ds ih =>
    rw [List.forall_mem_cons] at hds
    rw [Nat.ofDigitChars_cons] at hfits ⊢
    -- the digits that follow make the significand larger, so the digits so far fit too
    have hnext : isUnsigned64 (10 * n + (c.toNat - '0'.toNat) : Nat) = true := by
      rw [isUnsigned64_natCast]
      exact Nat.lt_of_le_of_lt (le_ofDigitChars ds _) hfits
    rw [List.cons_append, takeDigits, if_pos hds.1]
    dsimp only
    rw [if_pos hnext, ih hds.2 hfits, List.length_cons, Nat.add_assoc, Nat.add_comm 1]

/-- Nothing is dropped in front of what is no digit. -/
theorem dropWhile_digits {rest : List Char} (hrest : ∀ c ∈ rest.head?, c.isDigit = false) :
    rest.takeWhile Char.isDigit = [] ∧ rest.dropWhile Char.isDigit = rest :=
  @Numeral.span_digits [] rest (fun _ h => absurd h List.not_mem_nil) hrest

/-! ### Exponents and fractions -/

/-- An exponent is added to the power of the digits. -/
theorem exponent_digits {negative down : Bool} {n k : Nat} {start : Int} {rest : List Char}
    (hk : k < twoTo 31) (hrest : Ends rest) :
    exponent negative n start ((if down then '-' else '+') :: (decimalDigits k ++ rest)) =
      (toReal negative n (start + if down then -(k : Int) else k)).map (·, rest) := by
  have hsplit : Numeral.splitSign ((if down then '-' else '+') :: (decimalDigits k ++ rest)) =
      (down, decimalDigits k ++ rest) := by
    cases down <;> rfl
  have hdigits : ∀ c ∈ decimalDigits k, c.isDigit = true :=
    fun c hc => Numeral.isDigit_of_mem_decimalDigits hc
  obtain ⟨htake, hdrop⟩ := Numeral.span_digits hdigits hrest.notDigit
  obtain ⟨c, ds, hcs⟩ := List.exists_cons_of_ne_nil (decimalDigits_ne_nil k)
  have hc : c.isDigit = true := hdigits c (by rw [hcs]; exact List.mem_cons_self)
  unfold exponent
  rw [hsplit]
  dsimp only
  -- there is a digit behind the sign, and the exponent is too small to be cut off
  rw [htake, hdrop, Numeral.natural?_decimalDigits, Option.getD_some, hcs, List.cons_append]
  dsimp only
  rw [hc, if_neg (by decide), if_neg (by omega)]
  cases toReal negative n (start + if down then -(k : Int) else k) <;> rfl

/-- Without an exponent the digits are scaled at once. -/
theorem optionalExponent_ends {negative : Bool} {n : Nat} {start : Int} {rest : List Char}
    (hrest : Ends rest) :
    optionalExponent negative n start rest = (toReal negative n start).map (·, rest) := by
  unfold optionalExponent
  -- an exponent would begin with one of the letters that cannot follow
  split
  · exact absurd rfl (hrest 'e' rfl).2.2.1
  · exact absurd rfl (hrest 'E' rfl).2.2.2
  · rfl

/-- The digits behind the point are taken like those before it. -/
theorem fraction_digits {negative : Bool} {n : Nat} {ds rest : List Char} (hne : ds ≠ [])
    (hds : ∀ c ∈ ds, c.isDigit = true) (hfits : Nat.ofDigitChars 10 ds n < twoTo 64)
    (hrest : ∀ c ∈ rest.head?, c.isDigit = false) :
    fraction negative n 0 (ds ++ rest) =
      optionalExponent negative (Nat.ofDigitChars 10 ds n) (-(ds.length : Int)) rest := by
  -- a point without digits behind it would be refused
  obtain ⟨length, hlength⟩ := Nat.exists_eq_succ_of_ne_zero
    (Nat.ne_of_gt (List.length_pos_iff.mpr hne))
  unfold fraction
  rw [takeDigits_digits hds hfits hrest, Nat.zero_add, hlength]
  dsimp only
  rw [(dropWhile_digits hrest).2, Int.natCast_zero, Int.zero_sub]
  cases rest <;> rfl

/-- What follows the digits before the point, when these do not begin with a zero. -/
theorem unsigned_digits {negative : Bool} {ds rest : List Char} (hne : ds ≠ [])
    (hds : ∀ c ∈ ds, c.isDigit = true) (hfirst : ∀ c ∈ ds.head?, c ≠ '0')
    (hfits : Nat.ofDigitChars 10 ds 0 < twoTo 64) (hrest : ∀ c ∈ rest.head?, c.isDigit = false) :
    unsigned negative (ds ++ rest) = afterWhole negative (Nat.ofDigitChars 10 ds 0) 0 rest := by
  obtain ⟨c, tail, rfl⟩ := List.exists_cons_of_ne_nil hne
  have hzero : c ≠ '0' := hfirst c rfl
  have hdigit : c.isDigit = true := hds c List.mem_cons_self
  -- a word holds all digits, so none of them is dropped and counted instead
  have htake := takeDigits_digits hds hfits hrest 0
  obtain ⟨hwhile, hdrop⟩ := dropWhile_digits hrest
  unfold unsigned
  -- a zero would have to be the only digit, and these begin with another one
  split
  · next heq => cases heq
  · next heq => exact absurd (List.cons.inj heq).1 hzero
  · next heq =>
    obtain ⟨rfl, -⟩ := List.cons.inj heq
    rw [hdigit, if_pos rfl, htake]
    dsimp only
    rw [hwhile, hdrop, List.length_nil]

/-- A zero before the point. -/
theorem unsigned_zero {negative : Bool} {rest : List Char}
    (hrest : ∀ c ∈ rest.head?, c.isDigit = false) :
    unsigned negative ('0' :: rest) = afterWhole negative 0 0 rest := by
  cases rest with
  | nil => rfl
  | cons c rest =>
    have hc : c.isDigit = false := hrest c rfl
    show (if c.isDigit = true then _ else _) = _
    rw [hc, if_neg Bool.false_ne_true]

/-- A point is followed by a fraction. -/
theorem afterWhole_point (negative : Bool) (n : Nat) (rest : List Char) :
    afterWhole negative n 0 ('.' :: rest) =
      (fraction negative n 0 rest).map fun (x, r) => (.real x, r) :=
  rfl

/-! ### Integers -/

/-- Digits with nothing behind them are an integer. -/
theorem afterWhole_ends {negative : Bool} {n : Nat} {rest : List Char} (hrest : Ends rest)
    (hnegative : negative = true → 0 < n ∧ n ≤ twoTo 63) :
    afterWhole negative n 0 rest = .ok (.integer (if negative then -(n : Int) else n), rest) := by
  unfold afterWhole
  split
  · exact absurd rfl (hrest '.' rfl).2.1
  · exact absurd rfl (hrest 'e' rfl).2.2.1
  · exact absurd rfl (hrest 'E' rfl).2.2.2
  · cases negative with
    | false => rfl
    | true =>
      -- past the smallest signed word it would be read as a real
      have hn := hnegative rfl
      rw [if_neg (by simp), if_pos ⟨rfl, hn⟩]
      rfl

/-- The text of a 64-bit integer is read as the integer. -/
theorem read_integer {n : Int} (hn : isSigned64 n = true) {rest : List Char} (hrest : Ends rest) :
    read ((if n < 0 then ['-'] else []) ++ decimalDigits n.natAbs ++ rest) =
      .ok (.integer n, rest) := by
  have hword : n.natAbs ≤ twoTo 63 := by
    simp only [isSigned64, Bool.and_eq_true, decide_eq_true_eq] at hn
    omega
  have h63 : twoTo 63 < twoTo 64 := by decide
  have hdigits : ∀ c ∈ decimalDigits n.natAbs, c.isDigit = true :=
    fun c hc => Numeral.isDigit_of_mem_decimalDigits hc
  have hunsigned (negative : Bool) (hnegative : negative = true → n.natAbs ≠ 0) :
      unsigned negative (decimalDigits n.natAbs ++ rest) =
        .ok (.integer (if negative then -(n.natAbs : Int) else n.natAbs), rest) := by
    -- zero is the only natural that may begin with a zero
    by_cases hzero : n.natAbs = 0
    · rw [hzero]
      show unsigned negative ('0' :: rest) = _
      rw [unsigned_zero hrest.notDigit]
      exact afterWhole_ends hrest fun h => absurd hzero (hnegative h)
    · have hdecimal := ofDigitChars_decimalDigits n.natAbs
      rw [unsigned_digits (decimalDigits_ne_nil _) hdigits (head?_decimalDigits hzero)
        (by rw [hdecimal]; omega) hrest.notDigit, hdecimal]
      exact afterWhole_ends hrest fun _ => ⟨Nat.pos_of_ne_zero hzero, hword⟩
  by_cases hneg : n < 0
  · rw [if_pos hneg]
    show unsigned true (decimalDigits n.natAbs ++ rest) = _
    rw [hunsigned true fun _ => by omega]
    have : -(n.natAbs : Int) = n := by omega
    rw [if_pos rfl, this]
  · rw [if_neg hneg, List.nil_append]
    -- a digit is no sign
    have hread : read (decimalDigits n.natAbs ++ rest) =
        unsigned false (decimalDigits n.natAbs ++ rest) := by
      obtain ⟨c, ds, hcs⟩ := List.exists_cons_of_ne_nil (decimalDigits_ne_nil n.natAbs)
      have hc : c.isDigit = true := hdigits c (by rw [hcs]; exact List.mem_cons_self)
      rw [hcs, List.cons_append]
      unfold read
      split
      · next heq =>
        obtain ⟨rfl, -⟩ := List.cons.inj heq
        exact absurd hc (by decide)
      · rfl
    rw [hread, hunsigned false fun h => absurd h Bool.false_ne_true]
    have : (n.natAbs : Int) = n := by omega
    rw [if_neg Bool.false_ne_true, this]

end JsonNumber
end RecordRules
