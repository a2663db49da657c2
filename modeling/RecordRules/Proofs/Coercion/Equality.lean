import RecordRules.Check.Uniqueness
import RecordRules.Proofs.Binary64.Nearest
import RecordRules.Proofs.Binary64.Order

/-!
# Strict and loose equality

Strict equality is told first by its cases, one for each pair of kinds that can be equal at all.
From them it is symmetric, and every field but a NaN equals itself.  It is not transitive: an
integer and a real are compared as numbers, which keep 53 bits, so that one real may equal two
different integers.  Loose equality holds wherever strict equality does and adds nothing between
two values of one kind.

## Key results

- `strictEq_iff`: strict equality, case by case
- `strictEq_laws`: it is symmetric, reflexive but for NaN, and transitive except between two
  integers that a real confuses
- `looseEq_extends_strictEq`: loose equality is symmetric and extends strict equality
-/

namespace RecordRules.Coercion

open Binary64 (nearest)

/-! ### Strict equality by cases -/

/-- Two fields that are strictly equal. -/
inductive StrictlyEqual : Option Value → Option Value → Prop
  | absent : StrictlyEqual none none
  | null : StrictlyEqual (some .null) (some .null)
  | boolean (b : Bool) : StrictlyEqual (some (.boolean b)) (some (.boolean b))
  | text (s : String) : StrictlyEqual (some (.text s)) (some (.text s))
  | integer (n : Int64) : StrictlyEqual (some (.integer n)) (some (.integer n))
  | real {x y : Binary64} (h : x.eq y = true) :
      StrictlyEqual (some (.real x)) (some (.real y))
  | integerReal {n : Int64} {y : Binary64} (h : (Binary64.ofInt n.toInt).eq y = true) :
      StrictlyEqual (some (.integer n)) (some (.real y))
  | realInteger {x : Binary64} {n : Int64} (h : x.eq (.ofInt n.toInt) = true) :
      StrictlyEqual (some (.real x)) (some (.integer n))

variable {a b c : Option Value}

/-- Only integers and reals are worth a number of their own. -/
private theorem real?_eq_some {v : Value} {x : Binary64} (h : v.real? = some x) :
    (∃ n : Int64, v = .integer n ∧ x = .ofInt n.toInt) ∨ v = .real x := by
  cases v with
  | null | boolean b | text s => exact nomatch h
  | integer n => exact .inl ⟨n, rfl, (Option.some.inj h).symm⟩
  | real y => exact .inr (congrArg Value.real (Option.some.inj h))

/-- Strict equality holds in these cases and in no others. -/
theorem strictEq_iff : strictEq a b = true ↔ StrictlyEqual a b := by
  constructor
  -- one case for each branch of the definition
  · fun_cases strictEq a b with
    | case1 => exact fun _ => .absent
    | case2 => exact fun _ => .null
    | case3 p q =>
      intro h
      obtain rfl : p = q := eq_of_beq h
      exact .boolean p
    | case4 s t =>
      intro h
      obtain rfl : s = t := eq_of_beq h
      exact .text s
    | case5 m n =>
      intro h
      obtain rfl : m = n := eq_of_beq h
      exact .integer m
    | case6 v w _ _ _ hintegers x y hy hx =>
      -- two numbers are left that are not both integers
      intro h
      obtain ⟨m, rfl, rfl⟩ | rfl := real?_eq_some hx
      · obtain ⟨n, rfl, rfl⟩ | rfl := real?_eq_some hy
        · exact (hintegers m n rfl rfl).elim
        · exact .integerReal h
      · obtain ⟨n, rfl, rfl⟩ | rfl := real?_eq_some hy
        · exact .realInteger h
        · exact .real h
    | case7 | case8 => exact fun h => absurd h Bool.false_ne_true
  · intro h
    cases h with
    | absent | null => rfl
    | boolean p => exact beq_self_eq_true p
    | text s => exact beq_self_eq_true s
    | integer n => exact beq_self_eq_true n
    | real h | integerReal h | realInteger h => exact h

/-! ### The laws of strict equality -/

/-- The cases are symmetric. -/
theorem StrictlyEqual.symm (h : StrictlyEqual a b) : StrictlyEqual b a := by
  cases h with
  | absent => exact .absent
  | null => exact .null
  | boolean b => exact .boolean b
  | text s => exact .text s
  | integer n => exact .integer n
  | real h => exact .real (Binary64.eq_comm .. ▸ h)
  | integerReal h => exact .realInteger (Binary64.eq_comm .. ▸ h)
  | realInteger h => exact .integerReal (Binary64.eq_comm .. ▸ h)

/-- Strict equality does not depend on which field comes first. -/
theorem strictEq_comm (a b : Option Value) : strictEq a b = strictEq b a := by
  rw [Bool.eq_iff_iff, strictEq_iff, strictEq_iff]
  exact ⟨StrictlyEqual.symm, StrictlyEqual.symm⟩

/-- Every field but a NaN is equal to itself. -/
theorem strictEq_self_iff : strictEq a a = true ↔ a ≠ some (.real .nan) := by
  cases a with
  | none => exact iff_of_true rfl nofun
  | some v =>
    -- values without a number equal themselves by their content, reals by their place
    cases v with
    | null => exact iff_of_true rfl nofun
    | boolean b => exact iff_of_true (beq_self_eq_true b) nofun
    | integer n => exact iff_of_true (beq_self_eq_true n) nofun
    | text s => exact iff_of_true (beq_self_eq_true s) nofun
    | real x =>
      have hself : strictEq (some (.real x)) (some (.real x)) = x.eq x := rfl
      rw [hself, Binary64.eq_self_iff]
      simp

/-- A real between two different integers that are rounded to one number. -/
def Confuses (b a c : Option Value) : Prop :=
  ∃ (m n : Int64) (x : Binary64), a = some (.integer m) ∧ b = some (.real x) ∧
    c = some (.integer n) ∧ m ≠ n ∧ nearest m.toInt = nearest n.toInt

/-- Equality goes on from field to field, unless it goes from integer to integer by a real. -/
theorem StrictlyEqual.trans_or_confuses (hab : StrictlyEqual a b) (hbc : StrictlyEqual b c) :
    StrictlyEqual a c ∨ Confuses b a c := by
  -- the first equality tells the kinds of two fields, the second one that of the third
  cases hab with
  | absent | null | boolean b | text s | integer n => exact .inl hbc
  | real hxy =>
    cases hbc with
    | real hyz => exact .inl (.real (Binary64.eq_trans hxy hyz))
    | realInteger hyz => exact .inl (.realInteger (Binary64.eq_trans hxy hyz))
  | realInteger hxy =>
    cases hbc with
    | integer n => exact .inl (.realInteger hxy)
    | integerReal hyz => exact .inl (.real (Binary64.eq_trans hxy hyz))
  | @integerReal m x hmx =>
    cases hbc with
    | real hxy => exact .inl (.integerReal (Binary64.eq_trans hmx hxy))
    | @realInteger _ n hxn =>
      by_cases hmn : m = n
      · subst hmn
        exact .inl (.integer m)
      · -- both integers stand where the real stands
        have hround : nearest m.toInt = nearest n.toInt :=
          (Binary64.ofInt_eq_iff (isSigned64_toInt m) (isSigned64_toInt n)).mp
            (Binary64.eq_trans hmx hxn)
        exact .inr ⟨m, n, x, rfl, rfl, rfl, hmn, hround⟩

/-- Integers that a real confuses are not equal themselves. -/
theorem Confuses.not_strictlyEqual (h : Confuses b a c) : ¬ StrictlyEqual a c := by
  obtain ⟨m, n, x, rfl, rfl, rfl, hmn, -⟩ := h
  -- two integers are strictly equal only if they are one
  intro heq
  cases heq with
  | integer n => exact hmn rfl

/-- Only integers from `2 ^ 53` on are confused. -/
theorem Confuses.le_natAbs (h : Confuses b a c) {n : Int64}
    (hn : a = some (.integer n) ∨ c = some (.integer n)) : twoTo 53 ≤ n.toInt.natAbs := by
  obtain ⟨k, m, x, rfl, rfl, rfl, hkm, hround⟩ := h
  have hne : k.toInt ≠ m.toInt := fun heq => hkm (Int64.toInt_inj.mp heq)
  -- rounding to one number is symmetric, so either integer will do
  rcases hn with hn | hn
  · obtain rfl := Value.integer.inj (Option.some.inj hn)
    exact Binary64.le_natAbs_of_nearest_eq hround hne
  · obtain rfl := Value.integer.inj (Option.some.inj hn)
    exact Binary64.le_natAbs_of_nearest_eq hround.symm hne.symm

/-- Strict equality is symmetric, and a field equals itself unless it is a NaN.  Of two fields that
    equal a third one, only two different integers may differ, namely if both are rounded to the
    real that they equal; below `2 ^ 53` that does not happen. -/
theorem strictEq_laws (a b c : Option Value) :
    strictEq a b = strictEq b a ∧
    (strictEq a a = true ↔ a ≠ some (.real .nan)) ∧
    (strictEq a b = true → strictEq b c = true →
      (strictEq a c = true ↔ ¬ Confuses b a c)) ∧
    (∀ n : Int64, a = some (.integer n) ∨ c = some (.integer n) →
      n.toInt.natAbs < twoTo 53 → ¬ Confuses b a c) := by
  refine ⟨strictEq_comm a b, strictEq_self_iff, fun hab hbc => ?_, fun n hn hsmall h => ?_⟩
  · rw [strictEq_iff] at hab hbc ⊢
    constructor
    · exact fun hac h => h.not_strictlyEqual hac
    · exact fun h => (hab.trans_or_confuses hbc).resolve_right h
  -- what is confused is at least `2 ^ 53`
  · have := h.le_natAbs hn
    omega

/-- Two as an integer equals two as a real, also by way of the integer. -/
theorem strictEq_laws_two :
    strictEq (some (.integer 2)) (some (.real 2)) = true ∧
    strictEq (some (.real 2)) (some (.integer 2)) = true ∧
    strictEq (some (.integer 2)) (some (.integer 2)) = true := by
  obtain ⟨hcomm, -, htrans, hsmall⟩ :=
    strictEq_laws (some (.integer 2)) (some (.real 2)) (some (.integer 2))
  have hequal : strictEq (some (.integer 2)) (some (.real 2)) = true := by decide +kernel
  have hequal' := hcomm.symm.trans hequal
  exact ⟨hequal, hequal', (htrans hequal hequal').mpr (hsmall 2 (.inl rfl) (by decide))⟩

/-- Strict equality is not transitive: `2 ^ 53` and its successor both equal the real `2 ^ 53`. -/
theorem strictEq_not_transitive :
    ¬ ∀ a b c : Option Value, strictEq a b = true → strictEq b c = true →
      strictEq a c = true := by
  intro h
  have htrans := h (some (.integer 9007199254740992)) (some (.real 9007199254740992))
    (some (.integer 9007199254740993)) (by decide +kernel) (by decide +kernel)
  exact absurd htrans (by decide +kernel)

/-- Each integer is held once, and equals what the real field holds. -/
example : ["a", "b", "c"].map (fun name =>
    let r : Record := .ofList [("a", .integer 9007199254740992),
      ("b", .integer 9007199254740993), ("c", .real 9007199254740992)]
    (r.get? name).map fun v => UniquenessCheck.occurrences v r) = [some 2, some 2, some 3] := by
  decide +kernel

/-! ### Loose equality -/

/-- Absent and null fields are the nullish ones. -/
theorem isNullish_iff : isNullish a = true ↔ a = none ∨ a = some .null := by
  cases a with
  | none => exact iff_of_true rfl (.inl rfl)
  | some v => cases v <;> simp [isNullish]

/-- With null and absent fields only null and absent fields are loosely equal. -/
theorem looseEq_of_isNullish (h : isNullish a = true) (b : Option Value) :
    looseEq a b = isNullish b := by
  simp only [looseEq, h, Bool.true_or, if_true, Bool.true_and]

/-- Between two values of one kind loose equality is strict. -/
theorem looseEq_of_kindName {v w : Value} (h : v.kindName = w.kindName) :
    looseEq (some v) (some w) = strictEq (some v) (some w) := by
  -- on the diagonal both definitions reduce to one comparison
  cases v with
  | null => cases w with
    | null => rfl
    | _ => simp [Value.kindName] at h
  | boolean p => cases w with
    | boolean q => rfl
    | _ => simp [Value.kindName] at h
  | integer m => cases w with
    | integer n => rfl
    | _ => simp [Value.kindName] at h
  | real x => cases w with
    | real y => rfl
    | _ => simp [Value.kindName] at h
  | text s => cases w with
    | text t => rfl
    | _ => simp [Value.kindName] at h

/-- Two values of different kinds are loosely equal as numbers. -/
theorem looseEq_of_kindName_ne {v w : Value} (hv : v ≠ .null) (hw : w ≠ .null)
    (h : v.kindName ≠ w.kindName) :
    looseEq (some v) (some w) = (ofValue v).eq (ofValue w) := by
  -- off the diagonal, and without nulls, both sides are taken as numbers
  cases v with
  | null => exact absurd rfl hv
  | boolean p => cases w with
    | null => exact absurd rfl hw
    | boolean q => exact absurd rfl h
    | integer n | real y | text t => rfl
  | integer m => cases w with
    | null => exact absurd rfl hw
    | integer n => exact absurd rfl h
    | boolean q | real y | text t => rfl
  | real x => cases w with
    | null => exact absurd rfl hw
    | real y => exact absurd rfl h
    | boolean q | integer n | text t => rfl
  | text s => cases w with
    | null => exact absurd rfl hw
    | text t => exact absurd rfl h
    | boolean q | integer n | real y => rfl

/-- Loose equality does not depend on which field comes first. -/
theorem looseEq_comm (a b : Option Value) : looseEq a b = looseEq b a := by
  -- nullish fields first, then the same kinds, then numbers, as the definition goes
  by_cases hnullish : (isNullish a || isNullish b) = true
  · have hnullish' : (isNullish b || isNullish a) = true := by
      rw [Bool.or_comm]
      exact hnullish
    simp only [looseEq, hnullish, hnullish', if_true]
    exact Bool.and_comm ..
  · rw [Bool.or_eq_true, not_or, isNullish_iff, isNullish_iff, not_or, not_or] at hnullish
    obtain ⟨⟨ha, hanull⟩, hb, hbnull⟩ := hnullish
    obtain ⟨v, rfl⟩ := Option.ne_none_iff_exists'.mp ha
    obtain ⟨w, rfl⟩ := Option.ne_none_iff_exists'.mp hb
    by_cases hkind : v.kindName = w.kindName
    · rw [looseEq_of_kindName hkind, looseEq_of_kindName hkind.symm]
      exact strictEq_comm ..
    · have hv : v ≠ .null := fun h => hanull (congrArg some h)
      have hw : w ≠ .null := fun h => hbnull (congrArg some h)
      rw [looseEq_of_kindName_ne hv hw hkind, looseEq_of_kindName_ne hw hv (Ne.symm hkind)]
      exact Binary64.eq_comm ..

/-- What is strictly equal is loosely equal. -/
theorem looseEq_of_strictlyEqual (h : StrictlyEqual a b) : looseEq a b = true := by
  cases h with
  | absent | null => rfl
  | boolean p => exact beq_self_eq_true p
  | text s => exact beq_self_eq_true s
  | integer n => exact beq_self_eq_true n
  | real h | integerReal h | realInteger h => exact h

/-- Loose equality is symmetric and holds wherever strict equality does.  Null and absent fields
    equal each other and nothing else, and between two values of one kind the two equalities are
    the same. -/
theorem looseEq_extends_strictEq (a b : Option Value) :
    looseEq a b = looseEq b a ∧
    (strictEq a b = true → looseEq a b = true) ∧
    (a = none ∨ a = some .null → (looseEq a b = true ↔ b = none ∨ b = some .null)) ∧
    (∀ v w, a = some v → b = some w → v.kindName = w.kindName →
      looseEq a b = strictEq a b) := by
  -- each part is one of the lemmas above
  refine ⟨looseEq_comm a b, fun h => ?_, fun ha => ?_, ?_⟩
  · exact looseEq_of_strictlyEqual (strictEq_iff.mp h)
  · rw [looseEq_of_isNullish (isNullish_iff.mpr ha), isNullish_iff]
  · rintro v w rfl rfl hkind
    exact looseEq_of_kindName hkind

/-- Two as an integer and as a real, an absent field and a null, and two spellings of one number. -/
theorem looseEq_extends_strictEq_spellings :
    looseEq (some (.integer 2)) (some (.real 2)) = true ∧
    looseEq none (some .null) = true ∧
    looseEq none (some (.integer 0)) = false ∧
    looseEq (some (.text "1.0")) (some (.text "1")) = false := by
  obtain ⟨-, hstrict, -, -⟩ := looseEq_extends_strictEq (some (.integer 2)) (some (.real 2))
  obtain ⟨-, -, hnull, -⟩ := looseEq_extends_strictEq none (some .null)
  obtain ⟨-, -, hzero, -⟩ := looseEq_extends_strictEq none (some (.integer 0))
  obtain ⟨-, -, -, hkind⟩ := looseEq_extends_strictEq (some (.text "1.0")) (some (.text "1"))
  refine ⟨hstrict (by decide +kernel), (hnull (.inl rfl)).mpr (.inr rfl), ?_, ?_⟩
  · rw [← Bool.not_eq_true, hzero (.inl rfl)]
    simp
  · rw [hkind _ _ rfl rfl rfl]
    decide

end RecordRules.Coercion
