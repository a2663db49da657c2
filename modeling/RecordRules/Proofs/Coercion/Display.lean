import RecordRules.Check.Range
import RecordRules.Proofs.Binary64.Positional
import RecordRules.Proofs.Check.ConditionText
import RecordRules.Proofs.Coercion.Equality
import RecordRules.Proofs.Numeral.Grammar

/-!
# Numbers are what their text is worth

Messages show an integer with its digits, and a real with the fewest digits that are rounded to it,
never with an exponent.  Such texts are decimal literals, so they are read as numbers again, and as
no other number than the one that is shown.

## Key results

- `Numeral.Decimal.exists_positional`: positional text is a decimal literal
- `Value.denotes_display`: what is shown for a number stands for the number
- `Coercion.display_reads_back`: checks cannot tell a number from its text
-/

namespace RecordRules

/-! ### Positional text -/

namespace Numeral

/-- Digits are worth the same to both readers of digits. -/
theorem worth_eq_ofDigitChars {ds : List Char} (h : ∀ c ∈ ds, c.isDigit = true) :
    Radix.decimal.worth ds = Nat.ofDigitChars 10 ds 0 := by
  -- the reader of the numerals says what digits are worth to it
  have hread := (digitsFrom?_eq_some_iff (r := .decimal)).mp (digitsFrom?_eq h 0)
  rw [Nat.zero_mul, Nat.zero_add] at hread
  exact hread.2

/-- Digits with zeros behind them, or with a point, are a decimal literal. -/
theorem Decimal.exists_positional (s : Sign) (n : Nat) (p : Int) :
    ∃ d : Decimal, d.text = s.text ++ Binary64.positional .message (decimalDigits n) p ∧
      d.number = .ofDecimal s.isMinus (n * tenTo p.toNat) (min p 0) := by
  -- a power from one on puts zeros behind the digits, and one below one a point among them
  by_cases hp : 0 ≤ p
  · have hdigits : ∀ c ∈ decimalDigits n ++ List.replicate p.toNat '0', c.isDigit = true := by
      intro c hc
      rcases List.mem_append.mp hc with hc | hc
      · exact isDigit_of_mem_decimalDigits hc
      · exact isDigit_of_mem_zeros hc
    have hnil : ∀ ds : List Char, ds ++ Option.getD none [] = ds := List.append_nil
    refine ⟨⟨s, decimalDigits n ++ List.replicate p.toNat '0', none, none, ?_, ?_⟩, ?_, ?_⟩
    · rw [hnil]
      exact List.append_ne_nil_of_left_ne_nil (decimalDigits_ne_nil n) _
    · rwa [hnil]
    · rw [Binary64.positional_of_nonneg hp]
      rfl
    · have hexponent : min p 0 = 0 := by omega
      have hworth : Radix.decimal.worth
          (decimalDigits n ++ List.replicate p.toNat '0' ++ Option.getD none []) =
            n * tenTo p.toNat := by
        rw [hnil, worth_eq_ofDigitChars hdigits, ofDigitChars_zeros]
      rw [hexponent, ← hworth]
      rfl
  · obtain ⟨whole, fraction, htext, hwhole, hlength, hdigits, hworth, -⟩ :=
      Binary64.positional_of_neg (l := .message) (d := n) (Int.not_le.mp hp)
    refine ⟨⟨s, whole, some fraction, none, ?_, hdigits⟩, ?_, ?_⟩
    · exact List.append_ne_nil_of_left_ne_nil hwhole _
    · rw [htext, text]
      simp [fractionText, exponentText]
    -- as many digits stand behind the point as the power has places below one
    · have hexponent : (0 : Int) - fraction.length = min p 0 := by omega
      have hone : n * tenTo p.toNat = n := by
        have hzero : p.toNat = 0 := by omega
        rw [hzero]
        exact Nat.mul_one n
      have hdigitsWorth : Radix.decimal.worth (whole ++ Option.getD (some fraction) []) = n :=
        (worth_eq_ofDigitChars hdigits).trans hworth
      rw [hone, ← hexponent, ← hdigitsWorth]
      rfl

/-- The sign of a number that is shown. -/
theorem exists_sign (negative : Bool) :
    ∃ s : Sign, s.text = (if negative then ['-'] else []) ∧ s.isMinus = negative := by
  cases negative with
  | false => exact ⟨.none, rfl, rfl⟩
  | true => exact ⟨.minus, rfl, rfl⟩

/-- Positional text stands for the number that is worth its digits times their power of ten. -/
theorem denotes_positional (negative : Bool) (n : Nat) (p : Int) :
    Denotes ((if negative then ['-'] else []) ++ Binary64.positional .message (decimalDigits n) p)
      (.ofDecimal negative (n * tenTo p.toNat) (min p 0)) := by
  obtain ⟨s, htext, hminus⟩ := exists_sign negative
  obtain ⟨d, hd, hnumber⟩ := Decimal.exists_positional s n p
  rw [← htext, ← hminus, ← hd, ← hnumber]
  exact .decimal d

end Numeral

/-! ### What is shown for a number -/

namespace Binary64

/-- Messages show the shortest digits positionally, however far out their power of ten is. -/
theorem renderUnits_message {u : Nat} (hne : u ≠ 0) :
    renderUnits .message u =
      positional .message (decimalDigits (shortest .up u).1) (shortest .up u).2 := by
  unfold renderUnits
  rw [if_neg hne]
  rfl

/-- The text of a real in messages stands for the real. -/
theorem denotes_toMessage {x : Binary64} (hx : x ≠ .nan) :
    Numeral.Denotes x.toMessage.toList x := by
  cases x with
  | nan => exact absurd rfl hx
  | infinity s =>
    cases s with
    | false => exact .infinity .none
    | true => exact .infinity .minus
  | finite s u hr =>
    have htext : (finite s u hr).toMessage.toList =
        (if s then ['-'] else []) ++ renderUnits .message u := String.toList_ofList
    rw [htext]
    -- zero has no shortest digits; it is shown as the digit zero
    by_cases hne : u = 0
    · subst hne
      exact Numeral.denotes_positional s 0 0
    · obtain ⟨hcontains, -⟩ := shortest_spec .up hr hne
      rw [renderUnits_message hne]
      generalize shortest .up u = found at *
      obtain ⟨d, p⟩ := found
      -- zeros that are shown move the power of ten up to zero at most
      have hpower : min p 0 + ((p.toNat : Nat) : Int) = p := by omega
      -- the shortest digits lie in the interval of the real, however they are written
      have hread : ofDecimal s (d * tenTo p.toNat) (min p 0) = finite s u hr := by
        apply ofDecimal_of_contains hr hne
        rw [RoundingInterval.contains_mul_tenTo, hpower]
        exact hcontains
      rw [← hread]
      exact Numeral.denotes_positional s d p

end Binary64

namespace Value

/-- The text of an integer stands for the real next to the integer. -/
theorem denotes_integerText (n : Int64) :
    Numeral.Denotes (integerText n).toList (.ofInt n.toInt) := by
  -- a word has nineteen digits at most
  have hword : n.toInt.natAbs < tenTo 20 := by
    have hsmall : 2 ^ 63 < tenTo 20 := by decide
    have := Int64.le_toInt n
    have := Int64.toInt_lt n
    omega
  -- an integer is its digits with the power of ten zero
  have hnumber : Binary64.ofInt n.toInt =
      .ofDecimal (decide (n.toInt < 0)) (n.toInt.natAbs * tenTo (0 : Int).toNat) (min 0 0) := by
    have hone : n.toInt.natAbs * tenTo (0 : Int).toNat = n.toInt.natAbs := Nat.mul_one _
    have hzero : min (0 : Int) 0 = 0 := rfl
    rw [hone, hzero, Binary64.ofDecimal_natural hword]
    rfl
  have htext : (integerText n).toList = (if decide (n.toInt < 0) = true then ['-'] else []) ++
      Binary64.positional .message (decimalDigits n.toInt.natAbs) 0 := by
    rw [toList_integerText, Binary64.positional_of_nonneg (Int.le_refl 0)]
    simp [Layout.message]
  rw [htext, hnumber]
  exact Numeral.denotes_positional _ _ _

/-- What is shown for a number stands for the number. -/
theorem denotes_display {v : Value} (hv : v.isNumber = true) (hnan : v ≠ .real .nan) :
    Numeral.Denotes v.display.toList (Coercion.ofValue v) := by
  cases v with
  | integer n => exact denotes_integerText n
  | real x => exact Binary64.denotes_toMessage fun hx => hnan (congrArg real hx)
  | null | boolean _ | text _ => exact absurd hv Bool.false_ne_true

end Value

/-! ### Numbers and their text compared -/

namespace Numeral

/-- Numerals have no blanks in them. -/
theorem Denotes.isBlank_eq_false {cs : List Char} {x : Binary64} (h : Denotes cs x) :
    ∀ c ∈ cs, isBlank c = false := by
  -- each form of numeral is made of a few characters, none of which is blank
  cases h with
  | blank => exact fun _ hc => nomatch hc
  | infinity s => exact List.all_iff_forall_prop.mp (by cases s <;> decide)
  | @natural r marker plus ds hmarker hplus hne hds hsize =>
    have hmarkers : ∀ c ∈ '0' :: r.markers, isBlank c = false :=
      List.all_iff_forall_prop.mp (by cases r <;> decide)
    have hdigits : ∀ c ∈ '+' :: r.digits, isBlank c = false :=
      List.all_iff_forall_prop.mp (by cases r <;> decide)
    intro c hc
    rcases List.mem_cons.mp hc with rfl | hc
    · exact hmarkers _ List.mem_cons_self
    rcases List.mem_cons.mp hc with rfl | hc
    · exact hmarkers _ (List.mem_cons_of_mem _ hmarker)
    rcases List.mem_append.mp hc with hc | hc
    · rcases hplus with rfl | rfl
      · exact nomatch hc
      · exact hdigits c (List.mem_singleton.mp hc ▸ List.mem_cons_self)
    · exact hdigits c (List.mem_cons_of_mem _ (hds c hc))
  | decimal d =>
    have hdigits : ∀ c ∈ Radix.decimal.digits ++ ['+', '-', '.', 'e', 'E'], isBlank c = false :=
      List.all_iff_forall_prop.mp (by decide)
    intro c hc
    rw [List.forall_mem_append] at hdigits
    rcases Decimal.mem_text hc with hc | hc
    · exact hdigits.1 c (Radix.mem_digits_decimal.mpr hc)
    · exact hdigits.2 c hc

/-- A text that is a numeral as it stands is read as what it stands for. -/
theorem Denotes.number_eq {s : String} {x : Binary64} (h : Denotes s.toList x) : number s = x := by
  have hblanks := h.isBlank_eq_false
  -- without blanks trimming leaves the text as it is
  have htrim : trimBlanks s.toList = s.toList :=
    trimBlanks_eq_self (fun c hc => hblanks c (List.mem_of_mem_head? hc))
      fun c hc => hblanks c (List.mem_of_mem_getLast? hc)
  unfold number
  rw [htrim, h.ofTrimmed_eq]

end Numeral

/-- The text of a number is worth the number, not-a-number included. -/
theorem Value.number_display {v : Value} (hv : v.isNumber = true) :
    Numeral.number v.display = Coercion.ofValue v := by
  -- a NaN is shown as letters, which are read as a NaN
  by_cases hnan : v = .real .nan
  · subst hnan
    decide +kernel
  · exact (v.denotes_display hv hnan).number_eq

/-- A number is NaN only if it is shown as that. -/
theorem Value.ofValue_eq_nan_iff {v : Value} (hv : v.isNumber = true) :
    Coercion.ofValue v = .nan ↔ v = .real .nan := by
  cases v with
  | integer n =>
    have hnumber : Binary64.ofInt n.toInt ≠ .nan := by
      rw [ne_eq, ← Binary64.isNaN_iff, Binary64.isNaN_ofInt]
      exact Bool.false_ne_true
    exact iff_of_false hnumber nofun
  | real x => exact (real.injEq x .nan).symm.to_iff
  | null | boolean _ | text _ => exact absurd hv Bool.false_ne_true

/-- A range check sees no more of a value than its text and the number that it is worth. -/
theorem RangeCheck.outcome_display {v : Value} (hnull : v ≠ .null)
    (hworth : Numeral.number v.display = Coercion.ofValue v) (c : RangeCheck) :
    c.outcome (some (.text v.display)) = c.outcome (some v) := by
  -- neither the value nor its text counts as missing
  have hpresent : present? (some v) = some v := by
    cases v with
    | null => exact absurd rfl hnull
    | _ => rfl
  have hpresentText : present? (some (.text v.display)) = some (.text v.display) := rfl
  have htext : Coercion.ofValue (.text v.display) = Coercion.ofValue v := hworth
  simp only [outcome, hpresent, hpresentText, htext]
  rfl

/-- The text of an integer or a real is worth the number that the value is worth.  So the text is
    loosely equal to the value, unless that is NaN, and no range check tells the two apart. -/
theorem Coercion.display_reads_back {v : Value} (hv : v.isNumber = true) :
    Numeral.number v.display = toNumber (some v) ∧
      (looseEq (some v) (some (.text v.display)) = true ↔ v ≠ .real .nan) ∧
      ∀ c : RangeCheck, c.outcome (some (.text v.display)) = c.outcome (some v) := by
  have hworth : Numeral.number v.display = ofValue v := v.number_display hv
  have hnull : v ≠ .null := by
    rintro rfl
    exact absurd hv Bool.false_ne_true
  have hshown : Value.text v.display ≠ .null := nofun
  have hkind : v.kindName ≠ (Value.text v.display).kindName := by
    cases v with
    | text s => exact absurd hv Bool.false_ne_true
    | null | boolean _ | integer _ | real _ => simp [Value.kindName]
  -- a number and a text are of different kinds, so they are compared as numbers
  have hloose : looseEq (some v) (some (.text v.display)) = (ofValue v).eq (ofValue v) :=
    (looseEq_of_kindName_ne hnull hshown hkind).trans (congrArg (ofValue v).eq hworth)
  refine ⟨hworth, ?_, RangeCheck.outcome_display hnull hworth⟩
  rw [hloose, Binary64.eq_self_iff, ne_eq, ne_eq, Value.ofValue_eq_nan_iff hv]

/-- An integer that no real is equal to is read from its text as the real next to it, and its text
    is within the same bounds. -/
theorem Coercion.display_reads_back_odd :
    (Value.integer 9007199254740993).isNumber = true ∧
    Numeral.number "9007199254740993" = .ofInt 9007199254740993 ∧
    looseEq (some (.integer 9007199254740993)) (some (.text "9007199254740993")) = true ∧
    RangeCheck.outcome ⟨none, some 9007199254740992, true⟩ (some (.text "9007199254740993")) =
      RangeCheck.outcome ⟨none, some 9007199254740992, true⟩
        (some (.integer 9007199254740993)) := by
  have hshown : (Value.integer 9007199254740993).display = "9007199254740993" := by decide +kernel
  obtain ⟨hworth, hloose, hrange⟩ :=
    Coercion.display_reads_back (v := .integer 9007199254740993) rfl
  rw [hshown] at hworth hloose hrange
  exact ⟨rfl, hworth, hloose.mpr nofun, hrange _⟩

/-- Negative zero keeps its sign, and small numbers are shown with all their zeros. -/
example :
    Numeral.number (Value.real (.zeroOf true)).display = .zeroOf true ∧
    (Value.real (.ofDecimal true 1 (-7))).display = "-0.0000001" ∧
    Numeral.number "-0.0000001" = .ofDecimal true 1 (-7) := by
  decide +kernel

end RecordRules
