import RecordRules.Proofs.Check.Modes

/-!
# Laws of comparing two fields

What an operator says of two fields, another one says of them the other way round, and a field is
equal to another that holds the same value.  The first law holds for conditions and for comparisons
of two fields; the second one fails for comparisons on text that is neither a date nor a number.

## Key results

- `comparisons_mirror`: exchanging two fields and turning the operator around changes nothing
- `ComparisonCheck.compares_with_itself`: which values a comparison finds equal to themselves
- `ComparisonCheck.may_differ_from_itself`: not all of them
-/

namespace RecordRules

open Coercion (toNumber)

/-! ### Exchanging the fields -/

/-- The operator that says of two values what an operator says of them the other way round. -/
def Relation.mirror : Relation → Relation
  | ge => le
  | le => ge
  | gt => lt
  | lt => gt
  | eq => eq
  | ne => ne
  | includes => includes

/-- The operator that compares two fields the other way round; sums do not depend on it. -/
def ComparisonOperator.mirror : ComparisonOperator → ComparisonOperator
  | greaterThan => lessThan
  | greaterThanOrEqual => lessThanOrEqual
  | lessThan => greaterThan
  | lessThanOrEqual => greaterThanOrEqual
  | equals => equals
  | notEquals => notEquals
  | sumEquals => sumEquals
  | sumLessThan => sumLessThan
  | sumGreaterThan => sumGreaterThan
  | unsupported => unsupported

/-- Turning an operator around turns its test around. -/
theorem Relation.test?_mirror (o : Relation) :
    o.mirror.test? = o.test?.map (· ∘ Ordering.swap) := by
  cases o with
  | includes => rfl
  -- two tests are the same function when they accept the same three orders
  | _ => exact congrArg some (funext fun order => by cases order <;> rfl)

/-- Equality is its own mirror. -/
theorem Relation.isEquality_mirror (o : Relation) : o.mirror.isEquality = o.isEquality := by
  cases o <;> rfl

/-- The same is true of the operators that compare two fields. -/
theorem ComparisonOperator.test?_mirror (o : ComparisonOperator) :
    o.mirror.test? = o.test?.map (· ∘ Ordering.swap) := by
  cases o with
  | sumEquals | sumLessThan | sumGreaterThan | unsupported => rfl
  | _ => exact congrArg some (funext fun order => by cases order <;> rfl)

namespace Condition

/-- A condition on an order says of two values what its mirror says of them the other way round. -/
theorem relates_mirror {o : Relation} (horder : o.isOrder = true) (a b : Option Value) :
    relates o.mirror b a = relates o a b := by
  obtain ⟨test, htest, hequality⟩ := Relation.exists_test?_of_isOrder horder
  have hmirror : o.mirror.test? = some (test ∘ Ordering.swap) := by
    rw [Relation.test?_mirror, htest, Option.map_some]
  have hequality' : o.mirror.isEquality = false := o.isEquality_mirror.trans hequality
  -- exchanging the values swaps their order, and the mirrored test undoes the swap
  rw [relates_of_test? hmirror hequality', relates_of_test? htest hequality, order?_swap a b,
    verdict_mirror]

/-- Of two values at most one is smaller. -/
theorem not_lt_and_gt (a b : Option Value) :
    ¬ (relates .lt a b = true ∧ relates .gt a b = true) := by
  rintro ⟨hlt, hgt⟩
  -- both operators look at one order, which cannot be two
  have hlt : order? a b = some .lt := eq_of_beq hlt
  have hgt : order? a b = some .gt := eq_of_beq hgt
  rw [hlt] at hgt
  exact nomatch hgt

theorem le_of_lt {a b : Option Value} (h : relates .lt a b = true) : relates .le a b = true :=
  Bool.or_eq_true_iff.mpr (.inl h)

theorem ge_of_gt {a b : Option Value} (h : relates .gt a b = true) : relates .ge a b = true :=
  Bool.or_eq_true_iff.mpr (.inl h)

/-- Where there is no order nothing is said to be ordered. -/
theorem relates_of_no_order {o : Relation} (horder : o.isOrder = true) {a b : Option Value}
    (h : order? a b = none) : relates o a b = false := by
  obtain ⟨test, htest, hequality⟩ := Relation.exists_test?_of_isOrder horder
  rw [relates_of_test? htest hequality, h]
  -- the tests that accept both directions, as a missing order does, are not about order
  cases o <;> obtain ⟨⟩ := horder <;> obtain ⟨⟩ := htest <;> rfl

end Condition

namespace ComparisonCheck

/-- The comparison with its fields exchanged and its operator turned around. -/
def mirror (c : ComparisonCheck) : ComparisonCheck where
  field1 := c.field2
  field2 := c.field1
  comparisonOperator := c.comparisonOperator.map ComparisonOperator.mirror
  expectedSum := c.expectedSum

/-- A comparison says of two fields what its mirror says of them the other way round. -/
theorem passed_mirror (c : ComparisonCheck) (r : Record) :
    (c.mirror.outcome r).passed = (c.outcome r).passed := by
  obtain ⟨field1, field2, o, expectedSum⟩ := c
  -- with all parts there the operator is either a test or about a sum
  match field1, field2, o with
  | some field1, some field2, some o =>
    cases ho : o.test? with
    | some test =>
      have hmirror : o.mirror.test? = some (test ∘ Ordering.swap) := by
        rw [ComparisonOperator.test?_mirror, ho, Option.map_some]
      show (outcome ⟨some field2, some field1, some o.mirror, expectedSum⟩ r).passed = _
      rw [passed_of_test? hmirror, passed_of_test? ho, order?_swap (r.get? field1),
        verdict_mirror]
    | none =>
      -- sums are left, which do not depend on the order of the fields
      have hsum : (toNumber (r.get? field2)).add (toNumber (r.get? field1)) =
          (toNumber (r.get? field1)).add (toNumber (r.get? field2)) := Binary64.add_comm ..
      cases o <;> obtain ⟨⟩ := ho <;> cases expectedSum <;>
        simp only [mirror, outcome, sum?, direct?, Option.map_some, ComparisonOperator.mirror, hsum,
          Outcome.passed_check]
  -- with a part missing the comparison passes
  | none, none, _ | none, some _, _ | some _, none, _ | some _, some _, none => rfl

section Equality

variable (field1 field2 : String) (expectedSum : Option Binary64) (r : Record)

/-- The comparison `equals` asks whether the order is that of equals. -/
theorem passed_equals :
    (outcome ⟨some field1, some field2, some .equals, expectedSum⟩ r).passed =
      verdict Ordering.isEq (order? (r.get? field1) (r.get? field2)) := by
  have hequals : ComparisonOperator.equals.test? = some Ordering.isEq := rfl
  rw [passed_of_test? hequals]

/-- Two fields are equal or different, and never both. -/
theorem passed_notEquals :
    (outcome ⟨some field1, some field2, some .notEquals, expectedSum⟩ r).passed =
      !(outcome ⟨some field1, some field2, some .equals, expectedSum⟩ r).passed := by
  have hnotEquals : ComparisonOperator.notEquals.test? = some Ordering.isNe := rfl
  rw [passed_equals, passed_of_test? hnotEquals]
  -- one of three orders, or none: exactly one of the two tests accepts it
  rcases order? (r.get? field1) (r.get? field2) with _ | (_ | _ | _) <;> rfl

end Equality

end ComparisonCheck

/-- Conditions and comparisons of two fields do not depend on which field comes first, if the
    operator is turned around with them.  Of two fields at most one is smaller, and none if one of
    them is absent; a comparison finds them equal or different, and never both. -/
theorem comparisons_mirror :
    (∀ (o : Relation) (a b : Option Value), o.isOrder = true →
      Condition.relates o a b = Condition.relates o.mirror b a) ∧
    (∀ a b, ¬ (Condition.relates .lt a b = true ∧ Condition.relates .gt a b = true)) ∧
    (∀ a b, Condition.relates .lt a b = true → Condition.relates .le a b = true) ∧
    (∀ a b, Condition.relates .gt a b = true → Condition.relates .ge a b = true) ∧
    (∀ (o : Relation) (a : Option Value), o.isOrder = true →
      Condition.relates o none a = false ∧ Condition.relates o a none = false) ∧
    (∀ (c : ComparisonCheck) (r : Record), (c.mirror.outcome r).passed = (c.outcome r).passed) ∧
    (∀ (field1 field2 : String) (sum : Option Binary64) (r : Record),
      (ComparisonCheck.outcome ⟨some field1, some field2, some .notEquals, sum⟩ r).passed =
        !(ComparisonCheck.outcome ⟨some field1, some field2, some .equals, sum⟩ r).passed) := by
  refine ⟨?mirror, ?apart, ?le, ?ge, ?absent, ?fields, ?equality⟩
  case mirror => exact fun o a b horder => (Condition.relates_mirror horder a b).symm
  case apart => exact Condition.not_lt_and_gt
  case le => exact fun a b => Condition.le_of_lt
  case ge => exact fun a b => Condition.ge_of_gt
  case absent =>
    intro o a horder
    exact ⟨Condition.relates_of_no_order horder (Condition.order?_none_left a),
      Condition.relates_of_no_order horder (Condition.order?_none_right a)⟩
  case fields => exact ComparisonCheck.passed_mirror
  case equality => exact ComparisonCheck.passed_notEquals

/-- A mail that was received on the day after it was sent. -/
private def mail : Record :=
  .ofList [("sent", .text "2024-01-15"), ("received", .text "01/16/2024")]

/-- It was received after it was sent, since it was sent before it was received; a comparison says
    so whichever field comes first. -/
theorem comparisons_mirror_mail :
    (Condition.relates .gt (mail.get? "received") (mail.get? "sent") = true ∧
      Condition.relates .le (mail.get? "sent") (mail.get? "received") = true ∧
      Condition.relates .gt (mail.get? "sent") (mail.get? "received") = false ∧
      Condition.relates .le (mail.get? "read") (mail.get? "sent") = false) ∧
    (ComparisonCheck.outcome ⟨some "received", some "sent", some .greaterThan, none⟩ mail).passed =
      true ∧
    (ComparisonCheck.outcome ⟨some "received", some "sent", some .notEquals, none⟩ mail).passed =
      true := by
  obtain ⟨hmirror, hapart, hle, -, habsent, hfields, hequality⟩ := comparisons_mirror
  have hlt : Condition.relates .lt (mail.get? "sent") (mail.get? "received") = true := by
    decide +kernel
  have hless : (ComparisonCheck.outcome ⟨some "sent", some "received", some .lessThan, none⟩
      mail).passed = true := by
    decide +kernel
  have hequal : (ComparisonCheck.outcome ⟨some "received", some "sent", some .equals, none⟩
      mail).passed = false := by
    decide +kernel
  refine ⟨⟨?after, hle _ _ hlt, ?notAfter, ?absent⟩, ?fields, ?different⟩
  case after => exact (hmirror .lt _ _ rfl).symm.trans hlt
  case notAfter => exact Bool.eq_false_iff.mpr fun hgt => hapart _ _ ⟨hlt, hgt⟩
  case absent => exact (habsent .le (mail.get? "sent") rfl).1
  case fields =>
    exact (hfields ⟨some "sent", some "received", some .lessThan, none⟩ mail).trans hless
  case different => rw [hequality, hequal, Bool.not_false]

/-! ### A value and itself -/

namespace ComparisonCheck

/-- A comparison of two fields that hold the same value finds them equal, and not different, unless
    the value is a word: text that names neither a moment nor a number is different from itself. -/
theorem compares_with_itself {r : Record} {field1 field2 : String} {v : Value}
    (h1 : r.get? field1 = some v) (h2 : r.get? field2 = some v) (hnan : v ≠ .real .nan)
    (expectedSum : Option Binary64) :
    (¬ v.IsWord →
      (outcome ⟨some field1, some field2, some .equals, expectedSum⟩ r).passed = true ∧
      (outcome ⟨some field1, some field2, some .notEquals, expectedSum⟩ r).passed = false) ∧
    (v.IsWord →
      (outcome ⟨some field1, some field2, some .equals, expectedSum⟩ r).passed = false ∧
      (outcome ⟨some field1, some field2, some .notEquals, expectedSum⟩ r).passed = true) := by
  -- both verdicts are about the order of the value and itself
  rw [passed_notEquals, passed_equals, h1, h2]
  constructor
  · intro hword
    rw [order?_self hword hnan]
    exact ⟨rfl, rfl⟩
  · intro hword
    rw [order?_self_of_isWord hword]
    exact ⟨rfl, rfl⟩

/-- Two fields that hold one value. -/
private def twice (v : Value) : Record :=
  .ofList [("sent", v), ("received", v)]

/-- The date of a mail header, and a word. -/
private def mailDate : Value := .text "Mon, 15 Jan 2024 10:30:00 +0000"
private def weekday : Value := .text "Monday"

/-- Two equal dates are equal, and two equal words are different. -/
theorem compares_with_itself_mailDate :
    ((outcome ⟨some "sent", some "received", some .equals, none⟩ (twice mailDate)).passed = true ∧
      (outcome ⟨some "sent", some "received", some .notEquals, none⟩ (twice mailDate)).passed =
        false) ∧
    ((outcome ⟨some "sent", some "received", some .equals, none⟩ (twice weekday)).passed = false ∧
      (outcome ⟨some "sent", some "received", some .notEquals, none⟩ (twice weekday)).passed =
        true) := by
  have hsent (v : Value) : (twice v).get? "sent" = some v := rfl
  have hreceived (v : Value) : (twice v).get? "received" = some v := rfl
  have hdate : ¬ mailDate.IsWord := by
    rintro ⟨s, hs, hnone, -⟩
    obtain rfl := Value.text.inj hs
    exact absurd hnone (by decide +kernel)
  have hword : weekday.IsWord := ⟨"Monday", rfl, by decide +kernel, by decide +kernel⟩
  exact ⟨(compares_with_itself (hsent mailDate) (hreceived mailDate) nofun none).1 hdate,
    (compares_with_itself (hsent weekday) (hreceived weekday) nofun none).2 hword⟩

/-- A comparison may find a value different from itself. -/
theorem may_differ_from_itself :
    ¬ ∀ (r : Record) (field1 field2 : String) (v : Value) (expectedSum : Option Binary64),
      r.get? field1 = some v → r.get? field2 = some v → v ≠ .null → v ≠ .real .nan →
        (outcome ⟨some field1, some field2, some .equals, expectedSum⟩ r).passed = true ∧
        (outcome ⟨some field1, some field2, some .notEquals, expectedSum⟩ r).passed = false := by
  intro h
  -- a word is compared as a number, which it is not
  have hequal :=
    (h (twice (.text "abc")) "sent" "received" (.text "abc") none rfl rfl nofun nofun).1
  exact absurd hequal (by decide +kernel)

end ComparisonCheck
end RecordRules
