import RecordRules.Check.Range
import RecordRules.Record

/-! # Business rules

Fixed checks over well-known field names. -/

namespace RecordRules.BusinessRule

/-- The age from which on a person is an adult. -/
def adultAge : Binary64 := .ofNat 18

/-- The salary above which a verification is asked for. -/
def verifiedSalary : Binary64 := .ofNat 100000

/-- The employment statuses that a salary may come with. -/
def employmentStatuses : List String :=
  ["employed", "self-employed", "retired", "unemployed", "student"]

/-- Adults give the type of their identification and a document. -/
def ageOutcome (r : Record) : Outcome :=
  let isAdult := (Coercion.numeric? (r.get? "age")).any (adultAge.le ·)
  let isDocumented := !Coercion.isBlankField (r.get? "idType") &&
    !Coercion.isBlankField (r.get? "verificationDocument")
  .check (!isAdult || isDocumented)
    "ID type and verification document are required for users 18 and older"

/-- A person can be reached by email or by phone. -/
def contactOutcome (r : Record) : Outcome :=
  .check (!Coercion.isBlankField (r.get? "email") || !Coercion.isBlankField (r.get? "phone"))
    "Either email or phone number is required"

/-- Minors have the consent of a guardian, and the guardian's email. -/
def consentOutcome (r : Record) : Outcome :=
  if !(Coercion.numeric? (r.get? "age")).any (·.lt adultAge) then .pass
  else if !Coercion.isTruthy (r.get? "guardianConsent") then
    .fail "Guardian consent is required for users under 18"
  else if Coercion.isBlankField (r.get? "guardianEmail") then
    .fail "Guardian email is required for users under 18"
  else .pass

/-- Whether a field holds one of the employment statuses. -/
def isEmploymentStatus : Option Value → Bool
  | some (.text s) => employmentStatuses.contains s
  | _ => false

/-- High salaries are verified, and any salary comes with an employment status. -/
def salaryOutcome (r : Record) : Outcome :=
  match Coercion.numeric? (r.get? "salary") with
  | none => .pass
  | some salary =>
    if verifiedSalary.lt salary && !Coercion.isTruthy (r.get? "salaryVerification") then
      .fail "Salary verification is required for salaries above 100000"
    else if Binary64.zero.lt salary && !isEmploymentStatus (r.get? "employmentStatus") then
      .fail ("Employment status must be one of: " ++ ", ".intercalate employmentStatuses)
    else .pass

/-- The outcome of a rule for a record. -/
def outcome : BusinessRule → Record → Outcome
  | ageVerification, r => ageOutcome r
  | emailPhoneRequired, r => contactOutcome r
  | minorsConsent, r => consentOutcome r
  | salaryVerification, r => salaryOutcome r
  | unknown, _ => .pass

end RecordRules.BusinessRule
