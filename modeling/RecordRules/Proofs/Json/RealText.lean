import RecordRules.Proofs.Json.NumberText

/-!
# The text of a real is read back

The text of a real shows its shortest digits and a power of ten, in one of three layouts: with a
`.0` behind them, with a point somewhere before or between them, or with an exponent.  The reader
gathers the same digits and the same power from all of them, except that the zero of `.0` counts for
one more digit.  What number comes out of that is up to the scaling.

## Key results

- `Binary64.written`: the digits and the power of ten that the text of a magnitude is read as
- `JsonNumber.read_real`: the text of a real is read as these, scaled
-/

namespace RecordRules

namespace Binary64

/-- The digits that the text of a magnitude is read as, and their power of ten. -/
def written (u : Nat) : Nat × Int :=
  if u = 0 then (0, -1)
  else
    let (d, p) := shortest .toEven u
    if Layout.json.isPositional (p + (decimalDigits d).length - 1) && 0 ≤ p then
      (d * tenTo (p + 1).toNat, -1)
    else (d, p)

end Binary64

namespace JsonNumber

open Binary64 (written positional scientific renderUnits shortest)

variable {negative : Bool} {d : Nat} {p : Int} {rest : List Char}

theorem Ends.point (rest : List Char) : ∀ c ∈ ('.' :: rest).head?, c.isDigit = false := by
  intro c hc
  obtain rfl : '.' = c := Option.some.inj hc
  decide

/-- A number is put in front of what is left. -/
theorem map_map_real (x : Except JsonFault Binary64) (rest : List Char) :
    ((x.map (·, rest)).map fun (x, r) => (Parsed.real x, r)) =
      x.map fun x => (Parsed.real x, rest) := by
  cases x <;> rfl

/-- Digits in front of other characters begin the text. -/
theorem head?_append_decimalDigits (hd : d ≠ 0) (cs : List Char) :
    ∀ c ∈ (decimalDigits d ++ cs).head?, c ≠ '0' := by
  obtain ⟨c, ds, hds⟩ := List.exists_cons_of_ne_nil (decimalDigits_ne_nil d)
  have hc : c ≠ '0' := head?_decimalDigits hd c (by rw [hds]; rfl)
  intro c' hc'
  rw [hds] at hc'
  exact Option.some.inj hc' ▸ hc

theorem isDigit_of_mem_digits {c : Char} (hc : c ∈ decimalDigits d) : c.isDigit = true :=
  Numeral.isDigit_of_mem_decimalDigits hc

/-- Digits before and behind a point. -/
theorem unsigned_point {whole fraction : List Char} (hwhole : whole ≠ [])
    (hfraction : fraction ≠ []) (hdigits : ∀ c ∈ whole ++ fraction, c.isDigit = true)
    (hfirst : ∀ c ∈ whole.head?, c ≠ '0')
    (hfits : Nat.ofDigitChars 10 (whole ++ fraction) 0 < twoTo 64)
    (hrest : ∀ c ∈ rest.head?, c.isDigit = false) :
    unsigned negative (whole ++ '.' :: (fraction ++ rest)) =
      (optionalExponent negative (Nat.ofDigitChars 10 (whole ++ fraction) 0)
        (-(fraction.length : Int)) rest).map fun (x, r) => (.real x, r) := by
  rw [Nat.ofDigitChars_append] at hfits ⊢
  -- the digits before the point are fewer, so a word holds them too
  have hsmaller := Nat.lt_of_le_of_lt (le_ofDigitChars fraction _) hfits
  rw [unsigned_digits hwhole (fun c hc => hdigits c (List.mem_append_left _ hc)) hfirst hsmaller
    (Ends.point _), afterWhole_point,
    fraction_digits hfraction (fun c hc => hdigits c (List.mem_append_right _ hc)) hfits hrest]

/-- Digits with a `.0` behind them. -/
theorem unsigned_whole (hd : d ≠ 0) (hp : 0 ≤ p) (hfits : d * tenTo (p + 1).toNat < twoTo 64)
    (hrest : Ends rest) :
    unsigned negative (positional .json (decimalDigits d) p ++ rest) =
      (toReal negative (d * tenTo (p + 1).toNat) (-1)).map fun x => (.real x, rest) := by
  -- the zero behind the point counts like those before it
  have hzeros : decimalDigits d ++ List.replicate p.toNat '0' ++ ['0'] =
      decimalDigits d ++ List.replicate (p + 1).toNat '0' := by
    have hcount : (p + 1).toNat = p.toNat + 1 := by omega
    rw [hcount, List.replicate_succ', List.append_assoc]
  have hdigits : ∀ c ∈ decimalDigits d ++ List.replicate p.toNat '0' ++ ['0'],
      c.isDigit = true := by
    intro c hc
    rw [hzeros, List.mem_append] at hc
    exact hc.elim isDigit_of_mem_digits isDigit_of_mem_zeros
  have hworth : Nat.ofDigitChars 10 (decimalDigits d ++ List.replicate p.toNat '0' ++ ['0']) 0 =
      d * tenTo (p + 1).toNat := by
    rw [hzeros, ofDigitChars_zeros]
  have htext : positional .json (decimalDigits d) p ++ rest =
      (decimalDigits d ++ List.replicate p.toNat '0') ++ '.' :: (['0'] ++ rest) := by
    rw [Binary64.positional_of_nonneg hp]
    simp [Layout.json]
  rw [htext, unsigned_point (List.append_ne_nil_of_left_ne_nil (decimalDigits_ne_nil d) _)
    (List.cons_ne_nil _ _) hdigits (head?_append_decimalDigits hd _) (by rw [hworth]; exact hfits)
    hrest.notDigit, hworth, optionalExponent_ends hrest, map_map_real]
  rfl

/-- Digits with a point between them, or with a point and zeros before them. -/
theorem unsigned_fraction (hd : d ≠ 0) (hp : p < 0) (hfits : d < twoTo 64) (hrest : Ends rest) :
    unsigned negative (positional .json (decimalDigits d) p ++ rest) =
      (toReal negative d p).map fun x => (.real x, rest) := by
  obtain ⟨whole, fraction, htext, hwhole, hlength, hdigits, hworth, hfirst⟩ :=
    Binary64.positional_of_neg (l := .json) (d := d) hp
  have hplaces : -((fraction.length : Nat) : Int) = p := by omega
  have hfraction : fraction ≠ [] := by
    rintro rfl
    rw [List.length_nil] at hlength
    omega
  rw [htext, List.append_assoc, List.cons_append, ← hplaces]
  rcases hfirst with rfl | hfirst
  · -- the zero before the point is worth nothing
    have hzero : Nat.ofDigitChars 10 fraction 0 = d := hworth
    show unsigned negative ('0' :: '.' :: (fraction ++ rest)) = _
    rw [unsigned_zero (Ends.point _), afterWhole_point,
      fraction_digits hfraction (fun c hc => hdigits c (List.mem_cons_of_mem _ hc))
        (by rw [hzero]; exact hfits) hrest.notDigit, hzero, optionalExponent_ends hrest,
      map_map_real]
  · rw [unsigned_point hwhole hfraction hdigits
      (fun c hc => head?_decimalDigits hd c (hfirst c hc)) (by rw [hworth]; exact hfits)
      hrest.notDigit, hworth, optionalExponent_ends hrest, map_map_real]

/-- Digits with an exponent, and with a point behind the first one if there are more. -/
theorem unsigned_scientific (hd : d ≠ 0) (hfits : d < twoTo 64)
    (hsmall : (p + (decimalDigits d).length - 1).natAbs < twoTo 31) (hrest : Ends rest) :
    unsigned negative
        (scientific .json (decimalDigits d) (p + (decimalDigits d).length - 1) ++ rest) =
      (toReal negative d p).map fun x => (.real x, rest) := by
  have hworth := ofDigitChars_decimalDigits d
  have hfirst := head?_decimalDigits hd
  have hdigits : ∀ c ∈ decimalDigits d, c.isDigit = true := fun c => isDigit_of_mem_digits
  have hne := decimalDigits_ne_nil d
  -- from here on it does not matter where the digits and the exponent come from
  generalize hexponent : p + (decimalDigits d).length - 1 = e at *
  generalize decimalDigits d = ds at *
  -- the sign is always there
  have hsign : (if e < 0 then ['-'] else if Layout.json.plusSign = true then ['+'] else []) =
      [if decide (e < 0) = true then '-' else '+'] := by
    by_cases hneg : e < 0
    · rw [if_pos hneg, decide_eq_true hneg, if_pos rfl]
    · rw [if_neg hneg, decide_eq_false hneg, if_neg Bool.false_ne_true]
      rfl
  have hvalue : (if decide (e < 0) = true then -(e.natAbs : Int) else e.natAbs) = e := by
    by_cases hneg : e < 0
    · rw [decide_eq_true hneg, if_pos rfl]
      omega
    · rw [decide_eq_false hneg, if_neg Bool.false_ne_true]
      omega
  have hletter (cs : List Char) : ∀ c ∈ ('e' :: cs).head?, c.isDigit = false := by
    intro c hc
    obtain rfl : 'e' = c := Option.some.inj hc
    decide
  unfold scientific
  dsimp only
  rw [hsign]
  generalize htail : (if decide (e < 0) = true then '-' else '+') ::
    (decimalDigits e.natAbs ++ rest) = tail
  have hexp (start : Int) : exponent negative d start tail =
      (toReal negative d (start + e)).map (·, rest) := by
    rw [← htail, exponent_digits hsmall hrest, hvalue]
  -- there is a point only where digits follow it
  match ds with
  | [] => exact absurd rfl hne
  | [c] =>
    have hread : unsigned negative ([c] ++ 'e' :: tail) =
        (toReal negative d (0 + e)).map fun x => (.real x, rest) := by
      rw [unsigned_digits hne hdigits hfirst (by rw [hworth]; exact hfits) (hletter tail), hworth,
        ← map_map_real, ← hexp]
      rfl
    have hpower : 0 + e = p := by
      rw [← hexponent, List.length_singleton]
      omega
    rw [← hpower, ← hread, ← htail]
    rfl
  | c :: c' :: more =>
    have hread : unsigned negative ([c] ++ '.' :: (c' :: more ++ 'e' :: tail)) =
        (toReal negative d (-((c' :: more).length : Int) + e)).map fun x => (.real x, rest) := by
      rw [unsigned_point (List.cons_ne_nil c []) (List.cons_ne_nil c' more) hdigits hfirst
        (by rw [List.singleton_append, hworth]; exact hfits) (hletter tail), List.singleton_append,
        hworth, ← map_map_real, ← hexp]
      rfl
    have hpower : -((c' :: more).length : Int) + e = p := by
      have hlength : (c :: c' :: more).length = (c' :: more).length + 1 := rfl
      omega
    rw [← hpower, ← hread, ← htail]
    simp only [List.cons_append, List.nil_append, List.append_assoc]

/-- The text of a magnitude is read as the digits and the power that it shows. -/
theorem unsigned_renderUnits {u : Nat} (hr : Representable u) (hrest : Ends rest) :
    unsigned negative (renderUnits .json u ++ rest) =
      (toReal negative (written u).1 (written u).2).map fun x => (.real x, rest) := by
  unfold renderUnits written
  split
  · -- zero is written with a point
    have hdigits : ∀ c ∈ ['0'], c.isDigit = true := fun _ => isDigit_of_mem_zeros (n := 1)
    show unsigned negative ('0' :: '.' :: (['0'] ++ rest)) = _
    rw [unsigned_zero (Ends.point _), afterWhole_point,
      fraction_digits (List.cons_ne_nil _ _) hdigits (by decide) hrest.notDigit,
      optionalExponent_ends hrest, map_map_real]
    rfl
  · next hne =>
    obtain ⟨hd, hmax, hlow, hhigh⟩ := Binary64.shortest_bounds .toEven hr hne
    have hjson : Layout.json.tie = .toEven := rfl
    rw [hjson]
    generalize shortest .toEven u = found at *
    obtain ⟨d, p⟩ := found
    dsimp only at hd hmax hlow hhigh ⊢
    -- a word holds seventeen digits
    have h64 : tenTo 17 < twoTo 64 := by decide
    have hfits : d < twoTo 64 := Nat.lt_of_le_of_lt hmax h64
    split
    · next hpositional =>
      rw [hpositional, Bool.true_and]
      by_cases hp : 0 ≤ p
      · rw [if_pos (decide_eq_true hp)]
        refine unsigned_whole hd hp ?_ hrest
        -- no more than sixteen digits before the point
        have hplaces : (decimalDigits d).length + (p + 1).toNat ≤ 17 := by
          simp only [Layout.isPositional, Layout.json, Option.all_some, Bool.and_eq_true,
            decide_eq_true_eq] at hpositional
          omega
        calc d * tenTo (p + 1).toNat
            < tenTo (decimalDigits d).length * tenTo (p + 1).toNat :=
              Nat.mul_lt_mul_of_pos_right (lt_tenTo_length d) (tenTo_pos _)
          _ = tenTo ((decimalDigits d).length + (p + 1).toNat) := (tenTo_add _ _).symm
          _ ≤ tenTo 17 := tenTo_le hplaces
          _ < twoTo 64 := h64
      · rw [decide_eq_false hp, if_neg Bool.false_ne_true]
        exact unsigned_fraction hd (by omega) hfits hrest
    · next hscientific =>
      rw [(Bool.not_eq_true _).mp hscientific, Bool.false_and, if_neg Bool.false_ne_true]
      refine unsigned_scientific hd hfits ?_ hrest
      have hlength : (decimalDigits d).length ≤ 18 :=
        length_decimalDigits_le (by decide) (Nat.lt_of_le_of_lt hmax (by decide))
      have h31 : 1000 < twoTo 31 := by decide
      omega

/-- The text of a magnitude begins with a digit. -/
theorem isDigit_head_renderUnits (u : Nat) :
    ∃ c cs, renderUnits .json u = c :: cs ∧ c.isDigit = true := by
  have hdigits (d : Nat) : ∃ c cs, decimalDigits d = c :: cs ∧ c.isDigit = true := by
    obtain ⟨c, cs, hcs⟩ := List.exists_cons_of_ne_nil (decimalDigits_ne_nil d)
    exact ⟨c, cs, hcs, isDigit_of_mem_digits (by rw [hcs]; exact List.mem_cons_self)⟩
  have hzero : '0'.isDigit = true := by decide
  unfold renderUnits
  split
  · exact ⟨'0', ['.', '0'], rfl, hzero⟩
  · obtain ⟨c, cs, hcs, hc⟩ := hdigits (shortest .toEven u).1
    have hjson : Layout.json.tie = .toEven := rfl
    dsimp only
    rw [hjson, hcs]
    split
    · unfold positional
      dsimp only
      split
      · exact ⟨c, _, rfl, hc⟩
      · split
        · next hinside =>
          obtain ⟨n, hn⟩ := Nat.exists_eq_succ_of_ne_zero
            (Nat.ne_of_gt (Nat.sub_pos_of_lt hinside))
          rw [hn, List.take_succ_cons]
          exact ⟨c, _, rfl, hc⟩
        · exact ⟨'0', _, rfl, hzero⟩
    · unfold scientific
      cases cs <;> exact ⟨c, _, rfl, hc⟩

/-- The text of a real is read as its sign and the digits and the power that it shows, scaled. -/
theorem read_real {u : Nat} (hr : Representable u) (hrest : Ends rest) :
    read ((if negative then ['-'] else []) ++ renderUnits .json u ++ rest) =
      (toReal negative (written u).1 (written u).2).map fun x => (.real x, rest) := by
  cases negative with
  | true => exact unsigned_renderUnits hr hrest
  | false =>
    rw [← unsigned_renderUnits hr hrest]
    -- the first character is a digit, so it is not taken for a sign
    obtain ⟨c, cs, hcs, hc⟩ := isDigit_head_renderUnits u
    show read (renderUnits .json u ++ rest) = _
    rw [hcs, List.cons_append]
    unfold read
    split
    · next heq =>
      obtain ⟨rfl, -⟩ := List.cons.inj heq
      exact absurd hc (by decide)
    · rfl

end JsonNumber
end RecordRules
