import RecordRules.Check.Business
import RecordRules.Proofs.Binary64.Order
import RecordRules.Proofs.Check.RequiredField
import RecordRules.Proofs.Outcome

/-!
# Ages and salaries

Three of the business rules start from a number: the age of a person for the documents of adults
and for the consent that minors need, and a salary for its verification.  A field that holds no
number triggers none of them.  The two rules about the age share their bound, so that they split
all persons between them.

An empty text is a blank field, but it is also worth zero.  So it triggers whatever zero does, which
makes a person of an empty age a minor.

## Key results

- `BusinessRule.fails_ageVerification_iff`, `BusinessRule.fails_minorsConsent_iff`,
  `BusinessRule.fails_salaryVerification_iff`: when the rules about numbers fail
- `BusinessRule.adults_and_minors`: no person is both an adult and a minor
- `BusinessRule.blank_numbers`: what the rules say about blank numbers
- `BusinessRule.empty_age_asks_for_consent`: a blank number may make a rule fail
-/

namespace RecordRules

/-! ### Numbers in fields -/

namespace Coercion

/-- A field holds a number: it is there, its value is not null, and that value is worth the number,
    which is not NaN. -/
def HoldsNumber (field : Option Value) (x : Binary64) : Prop :=
  ∃ v, field = some v ∧ v ≠ .null ∧ ofValue v = x ∧ x.isNaN = false

/-- The number that the rules read from a field is the one that it holds. -/
theorem numeric?_eq_some_iff {field : Option Value} {x : Binary64} :
    numeric? field = some x ↔ HoldsNumber field x := by
  cases field with
  | none => simp [numeric?, isNullish, HoldsNumber]
  | some v =>
    -- a value that is there is nullish only if it is null
    have hnull : isNullish (some v) = true ↔ v = .null := by cases v <;> simp [isNullish]
    simp only [numeric?, toNumber, HoldsNumber, Option.ite_none_left_eq_some, Bool.or_eq_true,
      not_or, hnull, Bool.not_eq_true, Option.some.injEq, exists_eq_left', ne_eq]
    constructor
    · rintro ⟨⟨hv, hnan⟩, rfl⟩
      exact ⟨hv, rfl, hnan⟩
    · rintro ⟨hv, rfl, hnan⟩
      exact ⟨⟨hv, hnan⟩, rfl⟩

/-- A field holds at most one number. -/
theorem HoldsNumber.unique {field : Option Value} {x y : Binary64} (hx : HoldsNumber field x)
    (hy : HoldsNumber field y) : x = y :=
  Option.some.inj ((numeric?_eq_some_iff.mpr hx).symm.trans (numeric?_eq_some_iff.mpr hy))

/-- What a field holds is no NaN. -/
theorem HoldsNumber.isNaN_eq_false {field : Option Value} {x : Binary64} (h : HoldsNumber field x) :
    x.isNaN = false := by
  obtain ⟨v, -, -, -, hnan⟩ := h
  exact hnan

/-- What is said of some number in a field is said of the number that it holds. -/
theorem HoldsNumber.exists_and_iff {field : Option Value} {x : Binary64} (h : HoldsNumber field x)
    (p : Binary64 → Prop) : (∃ y, HoldsNumber field y ∧ p y) ↔ p x := by
  constructor
  · rintro ⟨y, hy, hp⟩
    rwa [h.unique hy]
  · intro hp
    exact ⟨x, h, hp⟩

/-- The only blank field that holds a number is the empty text, and that number is zero. -/
theorem holdsNumber_iff_of_blank {field : Option Value} (h : Blank field) {x : Binary64} :
    HoldsNumber field x ↔ field = some (.text "") ∧ x = .zero := by
  rw [← numeric?_eq_some_iff]
  cases h with
  | absent => simp [numeric?, isNullish]
  | null => simp [numeric?, isNullish]
  | empty =>
    -- the empty text is worth zero, like every text of blanks
    have hzero : numeric? (some (.text "")) = some .zero := by decide
    simp [hzero, eq_comm]

end Coercion

/-! ### When the rules about numbers fail -/

namespace BusinessRule

open Coercion (HoldsNumber isTruthy numeric?_eq_some_iff)

/-- A record fails a rule. -/
def Fails (rule : BusinessRule) (r : Record) : Prop :=
  (rule.outcome r).passed = false

instance (rule : BusinessRule) (r : Record) : Decidable (rule.Fails r) :=
  inferInstanceAs (Decidable ((rule.outcome r).passed = false))

variable {r : Record}

/-- Adults fail without the type of their identification, and without a document. -/
theorem fails_ageVerification_iff :
    ageVerification.Fails r ↔
      (∃ age, HoldsNumber (r.get? "age") age ∧ adultAge.le age = true) ∧
        (Blank (r.get? "idType") ∨ Blank (r.get? "verificationDocument")) := by
  -- the rule asks for some number in the field that is large enough
  have hadult := Option.any_eq_true (adultAge.le ·) (Coercion.numeric? (r.get? "age"))
  simp only [numeric?_eq_some_iff] at hadult
  rw [← hadult, ← Coercion.isBlankField_iff, ← Coercion.isBlankField_iff]
  simp [Fails, outcome, ageOutcome, imp_iff_not_or]

/-- Minors fail without consent, and without the email of a guardian. -/
theorem fails_minorsConsent_iff :
    minorsConsent.Fails r ↔
      (∃ age, HoldsNumber (r.get? "age") age ∧ age.lt adultAge = true) ∧
        (isTruthy (r.get? "guardianConsent") = false ∨ Blank (r.get? "guardianEmail")) := by
  have hminor := Option.any_eq_true (·.lt adultAge) (Coercion.numeric? (r.get? "age"))
  simp only [numeric?_eq_some_iff] at hminor
  rw [← hminor, ← Coercion.isBlankField_iff]
  simp only [Fails, outcome, consentOutcome]
  -- whoever is no minor passes at once; a minor meets one guard after the other
  cases (Coercion.numeric? (r.get? "age")).any (·.lt adultAge) with
  | false => simp
  | true => simp [Outcome.failed_ite_iff]

/-- Salaries fail without the verification that high ones need, and without an employment. -/
theorem fails_salaryVerification_iff :
    salaryVerification.Fails r ↔
      ∃ salary, HoldsNumber (r.get? "salary") salary ∧
        (verifiedSalary.lt salary = true ∧ isTruthy (r.get? "salaryVerification") = false ∨
          Binary64.zero.lt salary = true ∧
            isEmploymentStatus (r.get? "employmentStatus") = false) := by
  simp only [Fails, outcome, salaryOutcome, ← numeric?_eq_some_iff]
  -- without a number there is no salary to verify
  cases Coercion.numeric? (r.get? "salary") with
  | none => simp
  | some salary =>
    simp only [Option.some.injEq, exists_eq_left']
    simp [Outcome.failed_ite_iff]

/-! ### Adults and minors -/

/-- Whoever is a minor is no adult: a number is either below the bound, or at least the bound. -/
theorem lt_adultAge_iff {age : Binary64} (h : age.isNaN = false) :
    age.lt adultAge = true ↔ ¬ adultAge.le age = true := by
  -- the bound is a number, so below it and at least it are opposites
  have hbound : adultAge.isNaN = false := Binary64.isNaN_ofNat 18
  rw [Binary64.lt_eq_not_le h hbound, Bool.not_eq_true', Bool.not_eq_true]

/-- Nothing is said about documents and guardians: all fields about them are blank, if they are
    there at all. -/
def IsBare (r : Record) : Prop :=
  ∀ name ∈ ["idType", "verificationDocument", "guardianConsent", "guardianEmail"],
    Blank (r.get? name)

instance (r : Record) : Decidable (IsBare r) :=
  List.decidableBAll (fun name => Blank (r.get? name)) _

/-- The rules for adults and for minors never both fail.  Where the age is a number and nothing is
    said about documents and guardians, exactly one of them fails: the one for adults from 18 on,
    and the one for minors below that.  Where the age is no number both pass. -/
theorem adults_and_minors (r : Record) :
    ¬ (ageVerification.Fails r ∧ minorsConsent.Fails r) ∧
    (∀ age, HoldsNumber (r.get? "age") age → IsBare r →
      (ageVerification.Fails r ↔ ¬ minorsConsent.Fails r) ∧
      (ageVerification.Fails r ↔ adultAge.le age = true) ∧
      (minorsConsent.Fails r ↔ age.lt adultAge = true)) ∧
    ((∀ age, ¬ HoldsNumber (r.get? "age") age) →
      ¬ ageVerification.Fails r ∧ ¬ minorsConsent.Fails r) := by
  rw [fails_ageVerification_iff, fails_minorsConsent_iff]
  refine ⟨?_, ?_, ?_⟩
  · rintro ⟨⟨⟨age, hage, hadult⟩, -⟩, ⟨age', hage', hminor⟩, -⟩
    -- a field holds one number only, which is on one side of the bound
    obtain rfl := hage.unique hage'
    exact (lt_adultAge_iff hage.isNaN_eq_false).mp hminor hadult
  · intro age hage hbare
    have hdocuments : Blank (r.get? "idType") := hbare "idType" (by decide)
    have hguardian : Blank (r.get? "guardianEmail") := hbare "guardianEmail" (by decide)
    -- there is one number in the field, so what is said of some number is said of it
    have hadult := hage.exists_and_iff (adultAge.le · = true)
    have hminor := hage.exists_and_iff (·.lt adultAge = true)
    rw [hadult, hminor, and_iff_left (Or.inl hdocuments), and_iff_left (Or.inr hguardian)]
    refine ⟨?_, Iff.rfl, Iff.rfl⟩
    rw [lt_adultAge_iff hage.isNaN_eq_false, not_not]
  -- both rules start from a number, which there is not
  · intro hnone
    constructor
    · rintro ⟨⟨age, hage, -⟩, -⟩
      exact hnone age hage
    · rintro ⟨⟨age, hage, -⟩, -⟩
      exact hnone age hage

/-- A person of 18, by a text in another radix. -/
private def eighteen : Record :=
  .ofList [("age", .text " 0x12 "), ("idType", .null), ("guardianEmail", .text "")]

/-- On the bound it is the rule for adults that fails. -/
theorem adults_and_minors_eighteen :
    HoldsNumber (eighteen.get? "age") adultAge ∧ IsBare eighteen ∧
      ageVerification.Fails eighteen ∧ ¬ minorsConsent.Fails eighteen := by
  have hage : HoldsNumber (eighteen.get? "age") adultAge :=
    ⟨.text " 0x12 ", rfl, nofun, by decide +kernel, by decide +kernel⟩
  have hbare : IsBare eighteen := by decide
  obtain ⟨-, hnumber, -⟩ := adults_and_minors eighteen
  obtain ⟨hone, hadult, -⟩ := hnumber adultAge hage hbare
  have hfails : ageVerification.Fails eighteen := hadult.mpr (by decide +kernel)
  exact ⟨hage, hbare, hfails, hone.mp hfails⟩

/-! ### Blank numbers -/

/-- Someone of the age of zero is a minor. -/
theorem zero_lt_adultAge : Binary64.zero.lt adultAge = true := by
  decide +kernel

/-- A blank number triggers no rule, but for the empty text as an age.  That one counts as zero, so
    consent is asked for as for any minor. -/
theorem blank_numbers (r : Record) :
    (Blank (r.get? "age") →
      ¬ ageVerification.Fails r ∧
      (minorsConsent.Fails r ↔ r.get? "age" = some (.text "") ∧
        (isTruthy (r.get? "guardianConsent") = false ∨ Blank (r.get? "guardianEmail")))) ∧
    (Blank (r.get? "salary") → ¬ salaryVerification.Fails r) := by
  refine ⟨fun hage => ⟨?_, ?_⟩, fun hsalary => ?_⟩
  · rw [fails_ageVerification_iff]
    -- the only blank age that is a number is zero, which is below the bound
    rintro ⟨⟨age, hnumber, hadult⟩, -⟩
    obtain ⟨-, rfl⟩ := (Coercion.holdsNumber_iff_of_blank hage).mp hnumber
    exact (lt_adultAge_iff rfl).mp zero_lt_adultAge hadult
  · rw [fails_minorsConsent_iff]
    -- what the rule asks of the guardian is the same on both sides
    refine and_congr_left fun _ => ⟨?_, ?_⟩
    · rintro ⟨age, hnumber, -⟩
      exact ((Coercion.holdsNumber_iff_of_blank hage).mp hnumber).1
    · intro hempty
      exact ⟨.zero, (Coercion.holdsNumber_iff_of_blank hage).mpr ⟨hempty, rfl⟩, zero_lt_adultAge⟩
  · rw [fails_salaryVerification_iff]
    rintro ⟨salary, hnumber, hbreach⟩
    obtain ⟨-, rfl⟩ := (Coercion.holdsNumber_iff_of_blank hsalary).mp hnumber
    -- zero is neither a high salary nor any salary at all
    obtain ⟨hhigh, -⟩ | ⟨hany, -⟩ := hbreach
    · exact absurd hhigh (by decide +kernel)
    · exact absurd hany (by decide)

/-- A form that was left empty but for the guardian. -/
private def emptyForm : Record :=
  .ofList [("age", .text ""), ("salary", .text ""), ("guardianConsent", .text "yes"),
    ("guardianEmail", .text "parent@example.com")]

/-- Of a person of an empty age the guardian has to be known, as it is here. -/
theorem blank_numbers_emptyForm :
    Blank (emptyForm.get? "age") ∧ Blank (emptyForm.get? "salary") ∧
      ¬ ageVerification.Fails emptyForm ∧ ¬ minorsConsent.Fails emptyForm ∧
        ¬ salaryVerification.Fails emptyForm := by
  have hage : Blank (emptyForm.get? "age") := .empty
  have hsalary : Blank (emptyForm.get? "salary") := .empty
  obtain ⟨hperson, hworker⟩ := blank_numbers emptyForm
  obtain ⟨hadult, hminor⟩ := hperson hage
  refine ⟨hage, hsalary, hadult, ?_, hworker hsalary⟩
  rw [hminor]
  decide

/-- A blank number may make a rule fail: consent is asked for where the age is the empty text. -/
theorem empty_age_asks_for_consent :
    ¬ ∀ r : Record,
      (Blank (r.get? "age") → ¬ ageVerification.Fails r ∧ ¬ minorsConsent.Fails r) ∧
      (Blank (r.get? "salary") → ¬ salaryVerification.Fails r) := by
  intro h
  -- a record with nothing but an empty age is refused for the missing consent
  obtain ⟨hperson, -⟩ := h (.ofList [("age", .text "")])
  obtain ⟨-, hpasses⟩ := hperson .empty
  exact hpasses (by decide +kernel)

end BusinessRule
end RecordRules
