import Mathlib.Data.Bool.AllAny
import Mathlib.Data.List.TakeWhile
import Mathlib.Data.Nat.Digits.Defs
import RecordRules.Numeral
import RecordRules.Proofs.Binary64.Order

/-!
# The numerals

A numeral is nothing at all, the word for an infinity, a natural in a radix that a prefix selects,
or a decimal literal.  This module puts the numerals down as a grammar, part by part and each with
the number that it stands for, and shows that the reader takes these texts and no others.

A natural behind a prefix may have a plus sign in front of its digits, as in `0x+1F`, and it has to
fit 64 bits.  Decimal literals may be as long as they like.

## Key results

- `Numeral.natural?_eq_some_iff`: which digits are read as naturals, and as which
- `Numeral.decimal?_eq_some_iff`: decimal literals are those that are written from their parts
- `Numeral.Denotes`: the numerals, each with its number
- `Numeral.number_reads_numerals`: the texts that are numbers are the numerals
- `Numeral.prefix_excess`: a plus sign and the size of a natural behind a prefix matter
-/

namespace RecordRules.Numeral

/-! ### Digits -/

/-- A radix that naturals are written in. -/
inductive Radix where
  | binary
  | octal
  | decimal
  | hexadecimal
  deriving DecidableEq

namespace Radix

/-- How many different digits there are. -/
def base : Radix → Nat
  | binary => 2
  | octal => 8
  | decimal => 10
  | hexadecimal => 16

/-- The digits. -/
def digits : Radix → List Char
  | binary => "01".toList
  | octal => "01234567".toList
  | decimal => "0123456789".toList
  | hexadecimal => "0123456789abcdefABCDEF".toList

/-- The letters that select a radix when they follow a zero. -/
def markers : Radix → List Char
  | binary => ['b', 'B']
  | octal => ['o', 'O']
  | decimal => []
  | hexadecimal => ['x', 'X']

/-- What a digit is worth, in whatever radix. -/
def digitWorth (c : Char) : Nat :=
  "0123456789abcdef".toList.idxOf c.toLower

/-- The natural that is written with some digits, the most significant one first. -/
def worth (r : Radix) (ds : List Char) : Nat :=
  Nat.ofDigits r.base (ds.map digitWorth).reverse

/-- One more digit in front. -/
theorem worth_cons (r : Radix) (c : Char) (ds : List Char) :
    r.worth (c :: ds) = digitWorth c * r.base ^ ds.length + r.worth ds := by
  rw [worth, List.map_cons, List.reverse_cons, Nat.ofDigits_append, Nat.ofDigits_singleton,
    List.length_reverse, List.length_map, ← worth, Nat.mul_comm, Nat.add_comm]

/-- The decimal digits are the characters from 0 to 9. -/
theorem mem_digits_decimal {c : Char} : c ∈ decimal.digits ↔ c.isDigit = true := by
  constructor
  · intro h
    exact List.all_eq_true.mp (by decide : decimal.digits.all Char.isDigit = true) c h
  · intro h
    have hnat : 48 ≤ c.toNat ∧ c.toNat ≤ 57 := by
      rw [Char.isDigit, Bool.and_eq_true, decide_eq_true_eq, decide_eq_true_eq] at h
      exact h
    -- there are ten such characters, and each is looked at
    have hall : ∀ n < 58, 48 ≤ n → Char.ofNat n ∈ decimal.digits := by decide
    rw [← Char.ofNat_toNat c]
    exact hall c.toNat (by omega) hnat.1

end Radix

/-- The digits of a radix are read as what they are worth, and nothing else is. -/
theorem digitValue?_eq_some_iff {r : Radix} {c : Char} {v : Nat} :
    digitValue? r.base c = some v ↔ c ∈ r.digits ∧ Radix.digitWorth c = v := by
  -- the reader compares ranges of characters, so the first of them are looked at one by one
  have hascii : ∀ n < 128, digitValue? r.base (Char.ofNat n) =
      if Char.ofNat n ∈ r.digits then some (Radix.digitWorth (Char.ofNat n)) else none := by
    cases r <;> decide +kernel
  by_cases hc : c.toNat < 128
  · have hread := hascii c.toNat hc
    rw [Char.ofNat_toNat] at hread
    rw [hread]
    split
    · next hmem => simp [hmem]
    · next hmem => simp [hmem]
  · -- digits are among the first characters
    have hdigits : ∀ c ∈ r.digits, c.toNat < 128 :=
      List.all_iff_forall_prop.mp (by cases r <;> decide)
    have hnone : digitValue? r.base c = none := by
      have hbeyond : ∀ last : Char, last.toNat < 128 → ¬ c ≤ last := by
        intro last hlast hle
        have : c.toNat ≤ last.toNat := hle
        omega
      simp only [digitValue?, hbeyond '9' (by decide), hbeyond 'z' (by decide),
        hbeyond 'Z' (by decide), and_false, if_false, Nat.lt_irrefl]
    rw [hnone]
    constructor
    · exact nofun
    · rintro ⟨hmem, -⟩
      exact absurd (hdigits c hmem) hc

/-- Digits continue a natural that has been read: it moves up by their number, and they are added.
    -/
theorem digitsFrom?_eq_some_iff {r : Radix} {ds : List Char} {acc n : Nat} :
    digitsFrom? r.base acc ds = some n ↔
      (∀ c ∈ ds, c ∈ r.digits) ∧ acc * r.base ^ ds.length + r.worth ds = n := by
  -- what has been read counts for one more place with every digit that follows
  induction ds generalizing acc with
  | nil => simp [digitsFrom?, Radix.worth]
  | cons c ds ih =>
    have hfront : ∀ v, (acc * r.base + v) * r.base ^ ds.length + r.worth ds =
        acc * r.base ^ (ds.length + 1) + (v * r.base ^ ds.length + r.worth ds) := by
      intro v
      rw [Nat.add_mul, Nat.pow_succ, Nat.mul_comm (r.base ^ _) r.base, ← Nat.mul_assoc,
        Nat.add_assoc]
    rw [digitsFrom?, Option.bind_eq_bind, Option.bind_eq_some_iff]
    simp only [digitValue?_eq_some_iff, ih, hfront, Radix.worth_cons, List.length_cons,
      List.forall_mem_cons]
    constructor
    · rintro ⟨v, ⟨hc, rfl⟩, hds, hn⟩
      exact ⟨⟨hc, hds⟩, hn⟩
    · rintro ⟨⟨hc, hds⟩, hn⟩
      exact ⟨_, ⟨hc, rfl⟩, hds, hn⟩

/-- Naturals are written with one or more digits, and read as what these are worth. -/
theorem natural?_eq_some_iff {r : Radix} {ds : List Char} {n : Nat} :
    natural? r.base ds = some n ↔ ds ≠ [] ∧ (∀ c ∈ ds, c ∈ r.digits) ∧ r.worth ds = n := by
  rw [natural?]
  -- a natural is written with one digit at least
  split
  · next hempty => simp [List.isEmpty_iff.mp hempty]
  · next hempty =>
    rw [digitsFrom?_eq_some_iff, Nat.zero_mul, Nat.zero_add]
    have hne : ds ≠ [] := fun h => hempty (List.isEmpty_iff.mpr h)
    exact ⟨fun h => ⟨hne, h⟩, fun h => h.2⟩

/-! ### Naturals behind a prefix -/

/-- Behind a prefix stands a natural that fits 64 bits, maybe with a plus sign in front. -/
theorem unsigned?_eq_some_iff {r : Radix} {cs : List Char} {n : Nat} :
    unsigned? r.base cs = some n ↔
      ∃ plus ds, cs = plus ++ ds ∧ (plus = [] ∨ plus = ['+']) ∧ ds ≠ [] ∧
        (∀ c ∈ ds, c ∈ r.digits) ∧ r.worth ds = n ∧ n < 2 ^ 64 := by
  have hplus : '+' ∉ r.digits := by cases r <;> decide
  -- the digits behind the sign, which the reader drops
  have hread : ∀ ds : List Char,
      ((natural? r.base ds).bind fun n => if isUnsigned64 n then some n else none) = some n ↔
        ds ≠ [] ∧ (∀ c ∈ ds, c ∈ r.digits) ∧ r.worth ds = n ∧ n < 2 ^ 64 := by
    intro ds
    simp only [Option.bind_eq_some_iff, natural?_eq_some_iff, Option.ite_none_right_eq_some,
      Option.some.injEq, isUnsigned64_natCast]
    constructor
    · rintro ⟨m, ⟨hne, hds, hworth⟩, hsize, rfl⟩
      exact ⟨hne, hds, hworth, hsize⟩
    · rintro ⟨hne, hds, hworth, hsize⟩
      exact ⟨n, ⟨hne, hds, hworth⟩, hsize, rfl⟩
  unfold unsigned?
  dsimp only
  split
  · next rest =>
    rw [Option.bind_eq_bind, hread]
    constructor
    · intro h
      exact ⟨['+'], rest, rfl, .inr rfl, h⟩
    · rintro ⟨plus, ds, hcs, rfl | rfl, h⟩
      · -- a plus sign is no digit
        obtain rfl : '+' :: rest = ds := hcs
        exact absurd (h.2.1 '+' List.mem_cons_self) hplus
      · obtain rfl : rest = ds := (List.cons.inj hcs).2
        exact h
  · next hno =>
    rw [Option.bind_eq_bind, hread]
    constructor
    · intro h
      exact ⟨[], cs, rfl, .inl rfl, h⟩
    · rintro ⟨plus, ds, hcs, rfl | rfl, h⟩
      · obtain rfl : cs = ds := hcs
        exact h
      · exact absurd hcs (hno ds)

/-- A zero and a letter select the radix that the letter stands for. -/
theorem radixLiteral?_eq_some_iff {cs rest : List Char} {base : Nat} :
    radixLiteral? cs = some (base, rest) ↔
      ∃ (r : Radix) (marker : Char), marker ∈ r.markers ∧ r.base = base ∧
        cs = '0' :: marker :: rest := by
  constructor
  · intro h
    -- each of the six letters has a case of its own
    unfold radixLiteral? at h
    split at h
    all_goals
      first
      | obtain ⟨rfl, rfl⟩ := Prod.mk.inj (Option.some.inj h)
      | cases h
    · exact ⟨.hexadecimal, 'x', by decide, rfl, rfl⟩
    · exact ⟨.hexadecimal, 'X', by decide, rfl, rfl⟩
    · exact ⟨.octal, 'o', by decide, rfl, rfl⟩
    · exact ⟨.octal, 'O', by decide, rfl, rfl⟩
    · exact ⟨.binary, 'b', by decide, rfl, rfl⟩
    · exact ⟨.binary, 'B', by decide, rfl, rfl⟩
  · rintro ⟨r, marker, hmarker, rfl, rfl⟩
    cases r with
    | decimal => exact nomatch hmarker
    | binary | octal | hexadecimal =>
      simp only [Radix.markers, List.mem_cons, List.not_mem_nil, or_false] at hmarker
      obtain rfl | rfl := hmarker <;> rfl

/-! ### Decimal literals -/

/-- The sign of a literal, if it has one. -/
inductive Sign where
  | none
  | plus
  | minus
  deriving DecidableEq

namespace Sign

/-- How it is written. -/
def text : Sign → List Char
  | none => []
  | plus => ['+']
  | minus => ['-']

/-- Whether it makes a number negative. -/
def isMinus : Sign → Bool
  | minus => true
  | none | plus => false

/-- Every text begins with a sign, be it none. -/
theorem exists_splitSign (cs : List Char) :
    ∃ (s : Sign) (rest : List Char), cs = s.text ++ rest ∧ splitSign cs = (s.isMinus, rest) := by
  -- a minus sign, a plus sign, or neither
  unfold splitSign
  split
  · next rest => exact ⟨minus, rest, rfl, rfl⟩
  · next rest => exact ⟨plus, rest, rfl, rfl⟩
  · exact ⟨none, _, rfl, rfl⟩

/-- A sign is split off, if what follows does not begin with one. -/
theorem splitSign_text (s : Sign) {rest : List Char}
    (h : ∀ c ∈ rest.head?, c ≠ '+' ∧ c ≠ '-') : splitSign (s.text ++ rest) = (s.isMinus, rest) := by
  cases s with
  | plus | minus => rfl
  | none =>
    show splitSign rest = (false, rest)
    unfold splitSign
    split
    · exact absurd rfl (h '-' rfl).2
    · exact absurd rfl (h '+' rfl).1
    · rfl

end Sign

/-- What is split off in front of digits. -/
theorem splitSign_digits (s : Sign) {ds : List Char} (h : ∀ c ∈ ds, c.isDigit = true) :
    splitSign (s.text ++ ds) = (s.isMinus, ds) := by
  refine s.splitSign_text fun c hc => ?_
  have hdigit := h c (List.mem_of_mem_head? hc)
  constructor <;> rintro rfl <;> exact absurd hdigit (by decide)

/-- The exponent of a decimal literal. -/
structure Exponent where
  marker : Char
  sign : Sign
  digits : List Char
  isMarker : marker = 'e' ∨ marker = 'E'
  ne_nil : digits ≠ []
  areDigits : ∀ c ∈ digits, c.isDigit = true

namespace Exponent

def text (e : Exponent) : List Char :=
  e.marker :: (e.sign.text ++ e.digits)

/-- The power of ten that it stands for. -/
def power (e : Exponent) : Int :=
  if e.sign.isMinus then -(Radix.decimal.worth e.digits : Int) else Radix.decimal.worth e.digits

end Exponent

/-- A decimal literal in its parts: a sign, digits with or without a point, an exponent. -/
structure Decimal where
  sign : Sign
  whole : List Char
  /-- The digits behind the point, if there is one. -/
  fraction : Option (List Char)
  exponent : Option Exponent
  ne_nil : whole ++ fraction.getD [] ≠ []
  areDigits : ∀ c ∈ whole ++ fraction.getD [], c.isDigit = true

namespace Decimal

/-- The point and the digits behind it. -/
def fractionText : Option (List Char) → List Char
  | none => []
  | some ds => '.' :: ds

def exponentText (e : Option Exponent) : List Char :=
  (e.map Exponent.text).getD []

/-- The literal as it is written. -/
def text (d : Decimal) : List Char :=
  d.sign.text ++ (d.whole ++ (fractionText d.fraction ++ exponentText d.exponent))

/-- The number nearest to what the literal is worth. -/
def number (d : Decimal) : Binary64 :=
  .ofDecimal d.sign.isMinus (Radix.decimal.worth (d.whole ++ d.fraction.getD []))
    ((d.exponent.map Exponent.power).getD 0 - (d.fraction.getD []).length)

end Decimal

/-- The exponent parts that are read, and the powers that they are read as. -/
theorem exponent?_eq_some_iff {cs : List Char} {p : Int} :
    exponent? cs = some p ↔
      ∃ e : Option Exponent, Decimal.exponentText e = cs ∧ (e.map Exponent.power).getD 0 = p := by
  constructor
  · intro h
    match cs with
    | [] => exact ⟨none, rfl, Option.some.inj h⟩
    | c :: rest =>
      rw [exponent?] at h
      -- what begins with another character is no exponent
      split at h
      · next hmarker =>
        obtain ⟨s, ds, rfl, hsplit⟩ := Sign.exists_splitSign rest
        rw [hsplit] at h
        obtain ⟨n, hn, hp⟩ := Option.bind_eq_some_iff.mp h
        obtain ⟨hne, hds, rfl⟩ := natural?_eq_some_iff (r := .decimal).mp hn
        refine ⟨some ⟨c, s, ds, hmarker, hne, fun d hd => ?_⟩, rfl, Option.some.inj hp⟩
        exact Radix.mem_digits_decimal.mp (hds d hd)
      · cases h
  · rintro ⟨e, rfl, rfl⟩
    cases e with
    | none => rfl
    | some e =>
      have hnatural : natural? 10 e.digits = some (Radix.decimal.worth e.digits) :=
        natural?_eq_some_iff (r := .decimal).mpr
          ⟨e.ne_nil, fun c hc => Radix.mem_digits_decimal.mpr (e.areDigits c hc), rfl⟩
      show exponent? (e.marker :: (e.sign.text ++ e.digits)) = _
      rw [exponent?, if_pos e.isMarker, splitSign_digits e.sign e.areDigits]
      dsimp only
      rw [hnatural]
      rfl

/-- An exponent part does not begin with a digit or a point. -/
theorem Decimal.head?_exponentText (e : Option Exponent) :
    ∀ c ∈ (exponentText e).head?, c.isDigit = false ∧ c ≠ '.' := by
  intro c hc
  cases e with
  | none => exact nomatch hc
  | some e =>
    obtain rfl : e.marker = c := Option.some.inj hc
    -- the letter of an exponent is neither of them
    obtain h | h := e.isMarker <;> rw [h] <;> decide

/-- Digits are taken up to what does not begin with one. -/
theorem span_digits {ds rest : List Char} (hds : ∀ c ∈ ds, c.isDigit = true)
    (hrest : ∀ c ∈ rest.head?, c.isDigit = false) :
    (ds ++ rest).takeWhile Char.isDigit = ds ∧ (ds ++ rest).dropWhile Char.isDigit = rest := by
  rw [List.takeWhile_append_of_pos hds, List.dropWhile_append_of_pos hds]
  cases rest with
  | nil => simp
  | cons c rest =>
    have hc : c.isDigit = false := hrest c rfl
    simp [hc]

/-- The digits behind the point, and what follows them. -/
def splitFraction : List Char → List Char × List Char
  | '.' :: rest => (rest.takeWhile Char.isDigit, rest.dropWhile Char.isDigit)
  | rest => ([], rest)

/-- A decimal literal is read part by part: its sign, its digits, its fraction and its exponent. -/
theorem decimal?_eq (cs : List Char) :
    decimal? cs =
      let (negative, body) := splitSign cs
      let whole := body.takeWhile Char.isDigit
      let (fraction, tail) := splitFraction (body.dropWhile Char.isDigit)
      (natural? 10 (whole ++ fraction)).bind fun digits =>
        (exponent? tail).map fun e => .ofDecimal negative digits (e - fraction.length) := by
  simp only [decimal?, splitFraction, Option.bind_eq_bind, Option.map_eq_bind]
  rfl

/-- What is split off behind the whole digits is a fraction, be it none. -/
theorem exists_splitFraction (cs : List Char) :
    ∃ (fraction : Option (List Char)) (tail : List Char),
      cs = Decimal.fractionText fraction ++ tail ∧
        splitFraction cs = (fraction.getD [], tail) := by
  unfold splitFraction
  split
  · next rest =>
    refine ⟨some (rest.takeWhile Char.isDigit), rest.dropWhile Char.isDigit, ?_, rfl⟩
    show _ = '.' :: (_ ++ _)
    rw [List.takeWhile_append_dropWhile]
  · exact ⟨none, _, rfl, rfl⟩

/-- A fraction is split off, if what follows begins neither with a digit nor with a point. -/
theorem splitFraction_text {fraction : Option (List Char)} {tail : List Char}
    (hdigits : ∀ c ∈ fraction.getD [], c.isDigit = true)
    (htail : ∀ c ∈ tail.head?, c.isDigit = false ∧ c ≠ '.') :
    splitFraction (Decimal.fractionText fraction ++ tail) = (fraction.getD [], tail) := by
  -- a point begins the fraction, and without one nothing is split off
  cases fraction with
  | some ds =>
    obtain ⟨htake, hdrop⟩ := span_digits hdigits fun c hc => (htail c hc).1
    show ((ds ++ tail).takeWhile Char.isDigit, (ds ++ tail).dropWhile Char.isDigit) = _
    rw [show ds ++ tail = Option.getD (some ds) [] ++ tail from rfl, htake, hdrop]
  | none =>
    show splitFraction tail = ([], tail)
    unfold splitFraction
    split
    · exact absurd rfl (htail '.' rfl).2
    · rfl

/-- Decimal literals are read, and nothing else is; they stand for their numbers. -/
theorem decimal?_eq_some_iff {cs : List Char} {x : Binary64} :
    decimal? cs = some x ↔ ∃ d : Decimal, d.text = cs ∧ d.number = x := by
  rw [decimal?_eq]
  constructor
  · intro h
    obtain ⟨s, body, rfl, hsign⟩ := Sign.exists_splitSign cs
    obtain ⟨fraction, tail, hbody, hfraction⟩ :=
      exists_splitFraction (body.dropWhile Char.isDigit)
    rw [hsign] at h
    dsimp only at h
    rw [hfraction] at h
    obtain ⟨n, hn, h⟩ := Option.bind_eq_some_iff.mp h
    obtain ⟨p, hp, rfl⟩ := Option.map_eq_some_iff.mp h
    obtain ⟨hne, hds, rfl⟩ := natural?_eq_some_iff (r := .decimal).mp hn
    obtain ⟨e, rfl, rfl⟩ := exponent?_eq_some_iff.mp hp
    refine ⟨⟨s, body.takeWhile Char.isDigit, fraction, e, hne, fun c hc => ?_⟩, ?_, rfl⟩
    · exact Radix.mem_digits_decimal.mp (hds c hc)
    · show s.text ++ (_ ++ (Decimal.fractionText fraction ++ Decimal.exponentText e)) = _
      rw [← hbody, List.takeWhile_append_dropWhile]
  · rintro ⟨d, rfl, rfl⟩
    have hwhole : ∀ c ∈ d.whole, c.isDigit = true :=
      fun c hc => d.areDigits c (List.mem_append_left _ hc)
    have hfraction : ∀ c ∈ d.fraction.getD [], c.isDigit = true :=
      fun c hc => d.areDigits c (List.mem_append_right _ hc)
    have htail := Decimal.head?_exponentText d.exponent
    -- what follows the whole digits begins with a point or an exponent
    have hrest : ∀ c ∈ (Decimal.fractionText d.fraction ++
        Decimal.exponentText d.exponent).head?, c.isDigit = false := by
      cases d.fraction with
      | none => exact fun c hc => (htail c hc).1
      | some ds =>
        intro c hc
        obtain rfl : '.' = c := Option.some.inj hc
        decide
    -- and what follows the sign with a digit or a point
    have hbody : ∀ c ∈ (d.whole ++ (Decimal.fractionText d.fraction ++
        Decimal.exponentText d.exponent)).head?, c ≠ '+' ∧ c ≠ '-' := by
      have hne := d.ne_nil
      intro c hc
      have hfirst : c.isDigit = true ∨ c = '.' := by
        cases hw : d.whole with
        | cons w ws =>
          rw [hw] at hc hwhole
          obtain rfl : w = c := Option.some.inj hc
          exact .inl (hwhole w List.mem_cons_self)
        | nil =>
          rw [hw] at hc hne
          cases hf : d.fraction with
          | none =>
            rw [hf] at hne
            exact absurd rfl hne
          | some ds =>
            rw [hf] at hc
            exact .inr (Option.some.inj hc).symm
      constructor <;> rintro rfl <;> exact absurd hfirst (by decide)
    obtain ⟨htake, hdrop⟩ := span_digits hwhole hrest
    -- the digits before and behind the point are one natural
    have hnatural : natural? 10 (d.whole ++ d.fraction.getD []) =
        some (Radix.decimal.worth (d.whole ++ d.fraction.getD [])) :=
      natural?_eq_some_iff (r := .decimal).mpr
        ⟨d.ne_nil, fun c hc => Radix.mem_digits_decimal.mpr (d.areDigits c hc), rfl⟩
    have hexponent := exponent?_eq_some_iff.mpr ⟨d.exponent, rfl, rfl⟩
    rw [Decimal.text, d.sign.splitSign_text hbody]
    dsimp only
    rw [htake, hdrop, splitFraction_text hfraction htail]
    dsimp only
    rw [hnatural, hexponent]
    rfl

/-- A decimal literal consists of digits, signs, points and the letters of exponents. -/
theorem Decimal.mem_text {d : Decimal} {c : Char} (hc : c ∈ d.text) :
    c.isDigit = true ∨ c ∈ ['+', '-', '.', 'e', 'E'] := by
  have hsign : ∀ s : Sign, c ∈ s.text → c ∈ ['+', '-', '.', 'e', 'E'] := by
    intro s hs
    cases s with
    | none => exact nomatch hs
    | plus | minus => rw [List.mem_singleton.mp hs]; decide
  -- part by part: sign, whole digits, fraction, exponent
  simp only [text, List.mem_append] at hc
  rcases hc with hc | hc | hc | hc
  · exact .inr (hsign _ hc)
  · exact .inl (d.areDigits c (List.mem_append_left _ hc))
  · cases hf : d.fraction with
    | none =>
      rw [hf] at hc
      exact nomatch hc
    | some ds =>
      rw [hf] at hc
      rcases List.mem_cons.mp hc with rfl | hc
      · exact .inr (by decide)
      · refine .inl (d.areDigits c (List.mem_append_right _ ?_))
        rw [hf]
        exact hc
  · cases he : d.exponent with
    | none =>
      rw [he] at hc
      exact nomatch hc
    | some e =>
      rw [he] at hc
      rcases List.mem_cons.mp hc with rfl | hc
      · exact .inr (by obtain h | h := e.isMarker <;> rw [h] <;> decide)
      · rcases List.mem_append.mp hc with hc | hc
        · exact .inr (hsign _ hc)
        · exact .inl (e.areDigits c hc)

/-! ### Numerals -/

/-- The numerals, and the numbers that they stand for. -/
inductive Denotes : List Char → Binary64 → Prop where
  | blank : Denotes [] .zero
  | infinity (s : Sign) : Denotes (s.text ++ "Infinity".toList) (.infinity s.isMinus)
  | natural {r : Radix} {marker : Char} {plus ds : List Char} (hmarker : marker ∈ r.markers)
      (hplus : plus = [] ∨ plus = ['+']) (hne : ds ≠ []) (hds : ∀ c ∈ ds, c ∈ r.digits)
      (hsize : r.worth ds < 2 ^ 64) :
      Denotes ('0' :: marker :: (plus ++ ds)) (.ofNat (r.worth ds))
  | decimal (d : Decimal) : Denotes d.text d.number

/-- The texts that are read as infinities are the word for it with each of the signs. -/
theorem infinity?_eq_some_iff {s : String} {x : Binary64} :
    infinity? s = some x ↔
      ∃ sign : Sign, s.toList = sign.text ++ "Infinity".toList ∧ .infinity sign.isMinus = x := by
  -- texts are equal if their characters are
  have hword : ∀ word : String, s.toList = word.toList ↔ s = word := fun word => String.toList_inj
  constructor
  · intro h
    unfold infinity? at h
    split at h
    · next hs =>
      obtain rfl | rfl := hs
      · exact ⟨.none, rfl, Option.some.inj h⟩
      · exact ⟨.plus, rfl, Option.some.inj h⟩
    · split at h
      · next hs =>
        obtain rfl := hs
        exact ⟨.minus, rfl, Option.some.inj h⟩
      · cases h
  · rintro ⟨sign, hs, rfl⟩
    cases sign with
    | none => rw [(hword "Infinity").mp hs]; rfl
    | plus => rw [(hword "+Infinity").mp hs]; rfl
    | minus => rw [(hword "-Infinity").mp hs]; rfl

theorem isNaN_ofDecimal (negative : Bool) (digits : Nat) (exponent : Int) :
    (Binary64.ofDecimal negative digits exponent).isNaN = false := by
  unfold Binary64.ofDecimal
  dsimp only
  -- out of range the literal is a zero or an infinity, and in between it is rounded
  split
  · rfl
  · split
    · rfl
    · split
      · rfl
      · split <;> exact Binary64.isNaN_ofUnits _ _ _

/-- Numerals stand for numbers. -/
theorem Denotes.isNaN_eq {cs : List Char} {x : Binary64} (h : Denotes cs x) : x.isNaN = false := by
  cases h with
  | blank => rfl
  | infinity s => rfl
  | natural => exact Binary64.isNaN_ofNat _
  | decimal d => exact isNaN_ofDecimal _ _ _

/-- What is read as a number is a numeral that stands for the number. -/
theorem denotes_of_ofTrimmed {cs : List Char} (h : (ofTrimmed cs).isNaN = false) :
    Denotes cs (ofTrimmed cs) := by
  have hnan : Binary64.nan.isNaN ≠ false := by decide
  -- branch by branch: what a branch does not read is NaN
  unfold ofTrimmed at h ⊢
  split
  · next hempty =>
    rw [List.isEmpty_iff.mp hempty]
    exact .blank
  · next hempty =>
    rw [if_neg hempty] at h
    split
    · next hinfinity =>
      obtain ⟨sign, hs, rfl⟩ := infinity?_eq_some_iff.mp hinfinity
      rw [String.toList_ofList] at hs
      rw [hs]
      exact .infinity sign
    · next hinfinity =>
      rw [hinfinity] at h
      dsimp only at h
      split
      · next base rest hradix =>
        obtain ⟨r, marker, hmarker, rfl, rfl⟩ := radixLiteral?_eq_some_iff.mp hradix
        rw [hradix] at h
        cases hunsigned : unsigned? r.base rest with
        | none =>
          dsimp only at h
          rw [hunsigned] at h
          exact absurd h hnan
        | some n =>
          obtain ⟨plus, ds, rfl, hplus, hne, hds, rfl, hsize⟩ := unsigned?_eq_some_iff.mp hunsigned
          rw [Option.map_some, Option.getD_some]
          exact .natural hmarker hplus hne hds hsize
      · next hradix =>
        cases hdecimal : decimal? cs with
        | none =>
          rw [hradix] at h
          dsimp only at h
          rw [hdecimal] at h
          exact absurd h hnan
        | some y =>
          obtain ⟨d, rfl, rfl⟩ := decimal?_eq_some_iff.mp hdecimal
          rw [Option.getD_some]
          exact .decimal d

/-- A word for an infinity does not begin as a natural behind a prefix does. -/
theorem infinity?_zero_cons (cs : List Char) : infinity? (String.ofList ('0' :: cs)) = none := by
  rw [Option.eq_none_iff_forall_ne_some]
  intro x hx
  obtain ⟨sign, hs, -⟩ := infinity?_eq_some_iff.mp hx
  rw [String.toList_ofList] at hs
  cases sign <;> exact absurd (List.cons.inj hs).1 (by decide)

/-- Decimal literals have none of the letters that the other numerals have. -/
theorem Decimal.notMem_text (d : Decimal) {c : Char}
    (hc : c ∈ ['I', 'x', 'X', 'o', 'O', 'b', 'B']) : c ∉ d.text := by
  have hother : ∀ c ∈ ['I', 'x', 'X', 'o', 'O', 'b', 'B'],
      ¬ (c.isDigit = true ∨ c ∈ ['+', '-', '.', 'e', 'E']) :=
    List.all_iff_forall_prop.mp (by decide)
  exact fun hmem => hother c hc (mem_text hmem)

/-- No decimal literal is a word for an infinity. -/
theorem infinity?_decimal (d : Decimal) : infinity? (String.ofList d.text) = none := by
  rw [Option.eq_none_iff_forall_ne_some]
  intro x hx
  obtain ⟨sign, hs, -⟩ := infinity?_eq_some_iff.mp hx
  rw [String.toList_ofList] at hs
  -- the word begins with a letter that no decimal literal has
  refine d.notMem_text (show 'I' ∈ _ by decide) ?_
  rw [hs]
  exact List.mem_append_right _ (by decide)

/-- No decimal literal begins with a prefix that selects a radix. -/
theorem radixLiteral?_decimal (d : Decimal) : radixLiteral? d.text = none := by
  rw [Option.eq_none_iff_forall_ne_some]
  rintro ⟨base, rest⟩ hsome
  obtain ⟨r, marker, hmarker, -, htext⟩ := radixLiteral?_eq_some_iff.mp hsome
  have hmarkers : ∀ m ∈ r.markers, m ∈ ['I', 'x', 'X', 'o', 'O', 'b', 'B'] :=
    List.all_iff_forall_prop.mp (by cases r <;> decide)
  -- the letter of the prefix would be in the literal
  refine d.notMem_text (hmarkers marker hmarker) ?_
  rw [htext]
  exact List.mem_cons_of_mem _ List.mem_cons_self

/-- A numeral is read as the number that it stands for. -/
theorem Denotes.ofTrimmed_eq {cs : List Char} {x : Binary64} (h : Denotes cs x) :
    ofTrimmed cs = x := by
  -- each kind of numeral is refused by all branches before its own
  unfold ofTrimmed
  cases h with
  | blank => rfl
  | infinity s => cases s <;> rfl
  | @natural r marker plus ds hmarker hplus hne hds hsize =>
    have hradix : radixLiteral? ('0' :: marker :: (plus ++ ds)) = some (r.base, plus ++ ds) :=
      radixLiteral?_eq_some_iff.mpr ⟨r, marker, hmarker, rfl, rfl⟩
    have hunsigned : unsigned? r.base (plus ++ ds) = some (r.worth ds) :=
      unsigned?_eq_some_iff.mpr ⟨plus, ds, rfl, hplus, hne, hds, rfl, hsize⟩
    -- no word for an infinity begins with a zero
    rw [List.isEmpty_cons, if_neg Bool.false_ne_true, infinity?_zero_cons]
    dsimp only
    rw [hradix]
    dsimp only
    rw [hunsigned, Option.map_some, Option.getD_some]
  | decimal d =>
    have hdecimal : decimal? d.text = some d.number := decimal?_eq_some_iff.mpr ⟨d, rfl, rfl⟩
    -- a decimal literal has a digit, so it is not empty
    have hne : ¬ d.text.isEmpty = true := by
      intro hempty
      rw [List.isEmpty_iff.mp hempty] at hdecimal
      cases hdecimal
    rw [if_neg hne, infinity?_decimal]
    dsimp only
    rw [radixLiteral?_decimal]
    dsimp only
    rw [hdecimal, Option.getD_some]

/-- The texts that are read as numbers are those that are numerals once the blanks around them are
    taken away, and they are read as what they stand for. -/
theorem number_reads_numerals (s : String) :
    ((number s).isNaN = false ↔ ∃ x, Denotes (trimBlanks s.toList) x) ∧
    ∀ x, Denotes (trimBlanks s.toList) x → number s = x := by
  have hread : ∀ x, Denotes (trimBlanks s.toList) x → number s = x :=
    fun x hx => hx.ofTrimmed_eq
  refine ⟨⟨fun h => ⟨number s, denotes_of_ofTrimmed h⟩, ?_⟩, hread⟩
  -- a numeral is read as its number, and that is not NaN
  rintro ⟨x, hx⟩
  rw [hread x hx]
  exact hx.isNaN_eq

/-- Digits behind a prefix are neither all that is read nor all read: a plus sign may stand in front
    of them, and what does not fit 64 bits is no number. -/
theorem prefix_excess :
    (¬ ∀ s : String, (number s).isNaN = false →
      trimBlanks s.toList = [] ∨
      (∃ sign : Sign, trimBlanks s.toList = sign.text ++ "Infinity".toList) ∨
      (∃ (r : Radix) (marker : Char) (ds : List Char), marker ∈ r.markers ∧ ds ≠ [] ∧
        (∀ c ∈ ds, c ∈ r.digits) ∧ trimBlanks s.toList = '0' :: marker :: ds) ∨
      ∃ d : Decimal, trimBlanks s.toList = d.text) ∧
    (¬ ∀ s : String,
      (∃ (r : Radix) (marker : Char) (ds : List Char), marker ∈ r.markers ∧ ds ≠ [] ∧
        (∀ c ∈ ds, c ∈ r.digits) ∧ trimBlanks s.toList = '0' :: marker :: ds) →
      (number s).isNaN = false) := by
  constructor
  · intro h
    -- the plus sign rules out every form but the one with a sign
    have htrim : trimBlanks "0x+1F".toList = ['0', 'x', '+', '1', 'F'] := by decide
    have hsplit := h "0x+1F" (by decide +kernel)
    rw [htrim] at hsplit
    rcases hsplit with hnil | ⟨sign, hword⟩ | ⟨r, marker, ds, -, -, hds, htext⟩ | ⟨d, htext⟩
    · cases hnil
    · cases sign <;> exact absurd hword (by decide)
    · obtain rfl : ['+', '1', 'F'] = ds := (List.cons.inj (List.cons.inj htext).2).2
      exact absurd (hds '+' List.mem_cons_self) (by cases r <;> decide)
    · have hx : 'x' ∈ d.text := by
        rw [← htext]
        decide
      exact absurd (Decimal.mem_text hx) (by decide)
  · intro h
    -- seventeen digits are one more than a word has
    have hnan : (number "0x10000000000000000").isNaN = true := by decide +kernel
    have hdigits : ∀ c ∈ "10000000000000000".toList, c ∈ Radix.hexadecimal.digits :=
      List.all_iff_forall_prop.mp (by decide)
    rw [h "0x10000000000000000"
      ⟨.hexadecimal, 'x', "10000000000000000".toList, by decide, by decide, hdigits, by decide⟩]
      at hnan
    exact absurd hnan Bool.false_ne_true

end RecordRules.Numeral
