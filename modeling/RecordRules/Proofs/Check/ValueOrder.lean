import RecordRules.Proofs.Check.OrderTest

/-!
# How two fields are ordered

Conditions and comparisons of two fields order two dates as moments.  Otherwise conditions order
two texts as texts, and all else is ordered as numbers.  This module says what the order of two
fields is in each case, so that no other module has to look at how it is found.

## Key results

- `Condition.order?_swap`, `ComparisonCheck.order?_swap`: the order turns around with the fields
- `Condition.order?_none_left`: an absent field has no order with any other
- `ComparisonCheck.order?_eq_of_not_texts`, `ComparisonCheck.order?_eq_of_dates`: where conditions
  and comparisons find the same order
- `ComparisonCheck.order?_self`: a value is equal to itself, unless it is a word
-/

namespace RecordRules

open Coercion (toNumber ofValue isDateLike millis?)

/-! ### Dates, texts and numbers -/

/-- A field holds text. -/
def IsText (a : Option Value) : Prop := ∃ s, a = some (.text s)

instance (a : Option Value) : Decidable (IsText a) :=
  match a with
  | some (.text s) => .isTrue ⟨s, rfl⟩
  | some .null | some (.boolean _) | some (.integer _) | some (.real _) | none =>
    .isFalse nofun

/-- Only texts are taken for dates. -/
theorem isText_of_isDateLike {a : Option Value} (h : isDateLike a = true) : IsText a := by
  cases a with
  | none => exact absurd h Bool.false_ne_true
  | some v =>
    cases v with
    | text s => exact ⟨s, rfl⟩
    | _ => exact absurd h Bool.false_ne_true

/-- A date has a moment, which is a number of milliseconds. -/
theorem exists_millis_of_isDateLike {a : Option Value} (h : isDateLike a = true) :
    ∃ x, millis? a = some x ∧ x.isNaN = false := by
  obtain ⟨s, rfl⟩ := isText_of_isDateLike h
  obtain ⟨t, ht⟩ := Option.isSome_iff_exists.mp h
  have ht : Moment.ofText? s = some t := ht
  refine ⟨.ofInt t.millis, ?_, Binary64.isNaN_ofInt _⟩
  rw [millis?, ht, Option.map_some]

/-- Fields that do not both hold text are not both dates. -/
theorem not_both_dates {a b : Option Value} (h : ¬ (IsText a ∧ IsText b)) :
    (isDateLike a && isDateLike b) = false := by
  cases hdates : isDateLike a && isDateLike b with
  | false => rfl
  | true =>
    obtain ⟨ha, hb⟩ := Bool.and_eq_true_iff.mp hdates
    exact absurd ⟨isText_of_isDateLike ha, isText_of_isDateLike hb⟩ h

namespace Condition

/-- Conditions order two dates by their milliseconds. -/
theorem order?_of_dates {a b : Option Value} {x y : Binary64} (ha : isDateLike a = true)
    (hb : isDateLike b = true) (hx : millis? a = some x) (hy : millis? b = some y) :
    order? a b = x.compare? y := by
  simp only [order?, ha, hb, hx, hy, Bool.and_self, if_true]

/-- Two texts that are not both dates are ordered as texts. -/
theorem order?_of_texts {s t : String}
    (h : (isDateLike (some (.text s)) && isDateLike (some (.text t))) = false) :
    order? (some (.text s)) (some (.text t)) = some (compare s t) := by
  simp only [order?, h, Bool.false_eq_true, if_false]

/-- Values that are not both texts are ordered as numbers. -/
theorem order?_of_not_texts {a b : Option Value} (h : ¬ (IsText a ∧ IsText b)) :
    order? a b = (toNumber a).compare? (toNumber b) := by
  unfold order?
  -- two dates would be two texts, and so would the pair that is ordered as texts
  rw [not_both_dates h, if_neg Bool.false_ne_true]
  split
  · exact absurd ⟨⟨_, rfl⟩, ⟨_, rfl⟩⟩ h
  · rfl

/-- The order of two fields turns around when they change places. -/
theorem order?_swap (a b : Option Value) : order? b a = (order? a b).map Ordering.swap := by
  by_cases htexts : IsText a ∧ IsText b
  -- which of the two scales is used does not depend on the order of the fields
  · cases hdates : isDateLike a && isDateLike b with
    | true =>
      obtain ⟨ha, hb⟩ := Bool.and_eq_true_iff.mp hdates
      obtain ⟨x, hx, -⟩ := exists_millis_of_isDateLike ha
      obtain ⟨y, hy, -⟩ := exists_millis_of_isDateLike hb
      rw [order?_of_dates ha hb hx hy, order?_of_dates hb ha hy hx]
      exact Binary64.compare?_swap x y
    | false =>
      -- texts that are not both dates are ordered as texts, also the other way round
      obtain ⟨⟨s, rfl⟩, ⟨t, rfl⟩⟩ := htexts
      have hdates' : (isDateLike (some (.text t)) && isDateLike (some (.text s))) = false := by
        rw [Bool.and_comm]
        exact hdates
      rw [order?_of_texts hdates, order?_of_texts hdates']
      exact congrArg some Std.OrientedCmp.eq_swap
  · have htexts' : ¬ (IsText b ∧ IsText a) := fun h => htexts h.symm
    rw [order?_of_not_texts htexts, order?_of_not_texts htexts']
    exact Binary64.compare?_swap ..

/-- An absent field has no order with any other. -/
theorem order?_none_left (b : Option Value) : order? none b = none := by
  have htexts : ¬ (IsText none ∧ IsText b) := nofun
  rw [order?_of_not_texts htexts]
  exact Binary64.compare?_of_isNaN rfl _

/-- Nor does any field have an order with an absent one. -/
theorem order?_none_right (a : Option Value) : order? a none = none := by
  -- the absent field is brought to the left
  rw [order?_swap none a, order?_none_left]
  rfl

end Condition

namespace ComparisonCheck

/-- Comparisons order two dates by their milliseconds. -/
theorem order?_of_dates {a b : Option Value} {x y : Binary64} (ha : isDateLike a = true)
    (hb : isDateLike b = true) (hx : millis? a = some x) (hy : millis? b = some y) :
    order? a b = x.compare? y := by
  simp only [order?, comparable, ha, hb, hx, hy, Bool.and_self, if_true]

/-- They order all else as numbers, two texts included. -/
theorem order?_of_not_dates {a b : Option Value} (h : (isDateLike a && isDateLike b) = false) :
    order? a b = (toNumber a).compare? (toNumber b) := by
  simp only [order?, comparable, h, Bool.false_eq_true, if_false]

/-- The order of two fields turns around when they change places. -/
theorem order?_swap (a b : Option Value) : order? b a = (order? a b).map Ordering.swap := by
  -- two dates or two numbers, and the same the other way round
  cases hdates : isDateLike a && isDateLike b with
  | true =>
    obtain ⟨ha, hb⟩ := Bool.and_eq_true_iff.mp hdates
    obtain ⟨x, hx, -⟩ := exists_millis_of_isDateLike ha
    obtain ⟨y, hy, -⟩ := exists_millis_of_isDateLike hb
    rw [order?_of_dates ha hb hx hy, order?_of_dates hb ha hy hx]
    exact Binary64.compare?_swap x y
  | false =>
    have hdates' : (isDateLike b && isDateLike a) = false := by
      rw [Bool.and_comm]
      exact hdates
    rw [order?_of_not_dates hdates, order?_of_not_dates hdates']
    exact Binary64.compare?_swap ..

/-- Unless both fields hold text, conditions and comparisons order them as numbers. -/
theorem order?_eq_of_not_texts {a b : Option Value}
    (h : ¬ (IsText a ∧ IsText b)) : order? a b = Condition.order? a b := by
  rw [order?_of_not_dates (not_both_dates h), Condition.order?_of_not_texts h]

/-- Conditions and comparisons order two dates by their moments. -/
theorem order?_eq_of_dates {a b : Option Value} (ha : isDateLike a = true)
    (hb : isDateLike b = true) : order? a b = Condition.order? a b := by
  obtain ⟨x, hx, -⟩ := exists_millis_of_isDateLike ha
  obtain ⟨y, hy, -⟩ := exists_millis_of_isDateLike hb
  rw [order?_of_dates ha hb hx hy, Condition.order?_of_dates ha hb hx hy]

end ComparisonCheck

/-! ### A value and itself -/

/-- Text that names neither a moment nor a number. -/
def Value.IsWord (v : Value) : Prop :=
  ∃ s, v = .text s ∧ Moment.ofText? s = none ∧ (Numeral.number s).isNaN = true

/-- Apart from NaN only text may fail to be worth a number. -/
theorem isNaN_ofValue {v : Value} (h : (ofValue v).isNaN = true) (hnan : v ≠ .real .nan) :
    ∃ s, v = .text s ∧ (Numeral.number s).isNaN = true := by
  cases v with
  | null => exact nomatch h
  | boolean b =>
    -- truth values are worth one and zero
    have hb : (ofValue (.boolean b)).isNaN = false := by
      rw [ofValue]
      split
      · exact Binary64.isNaN_ofNat 1
      · rfl
    rw [hb] at h
    exact nomatch h
  | integer n =>
    rw [ofValue, Binary64.isNaN_ofInt] at h
    exact nomatch h
  | real x =>
    have hx : x = .nan := Binary64.isNaN_iff.mp h
    exact absurd (congrArg Value.real hx) hnan
  | text s => exact ⟨s, rfl, h⟩

namespace ComparisonCheck

/-- Neither the moment nor the number of a word is there to compare it with. -/
theorem order?_self_of_isWord {v : Value} (h : v.IsWord) : order? (some v) (some v) = none := by
  obtain ⟨s, rfl, hdate, hnumber⟩ := h
  -- a word is no date, so it would have to be a number
  have hdates : isDateLike (some (.text s)) = false := by
    show (Moment.ofText? s).isSome = false
    rw [hdate, Option.isSome_none]
  rw [order?_of_not_dates (by rw [hdates, Bool.and_self])]
  exact Binary64.compare?_of_isNaN hnumber _

/-- Any other value is in the order of equals with itself. -/
theorem order?_self {v : Value} (h : ¬ v.IsWord) (hnan : v ≠ .real .nan) :
    order? (some v) (some v) = some .eq := by
  cases hdates : isDateLike (some v) with
  | true =>
    obtain ⟨x, hx, hmoment⟩ := exists_millis_of_isDateLike hdates
    rw [order?_of_dates hdates hdates hx hx]
    exact Binary64.compare?_self hmoment
  | false =>
    rw [order?_of_not_dates (by rw [hdates, Bool.and_self])]
    -- only text can have no number, and it would be a word, since it is not a date either
    refine Binary64.compare?_self ?_
    cases hnumber : (ofValue v).isNaN with
    | false => exact hnumber
    | true =>
      obtain ⟨s, rfl, hs⟩ := isNaN_ofValue hnumber hnan
      have hdate : (Moment.ofText? s).isNone = true := Option.isSome_eq_false_iff.mp hdates
      exact absurd ⟨s, rfl, Option.isNone_iff_eq_none.mp hdate, hs⟩ h

end ComparisonCheck
end RecordRules
