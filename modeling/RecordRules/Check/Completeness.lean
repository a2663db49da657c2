import RecordRules.Check.Range
import RecordRules.Text.Blank

/-! # Checking that fields are filled

The tests run in a fixed order: present, not empty, long enough.  The first that fails
decides. -/

namespace RecordRules.CompletenessCheck

/-- What there is to say about a missing field. -/
def missingFault? (required : Bool) (field : Option Value) : Option String :=
  if required && (present? field).isNone then some "Required field is missing" else none

/-- What there is to say about a field without anything but blanks. -/
def emptyFault? (notEmpty : Bool) (field : Option Value) : Option String :=
  let isEmpty := match present? field with
    | none => true
    | some v => v.display.toList.all isBlank
  if notEmpty && isEmpty then some "Field must not be empty" else none

/-- What there is to say about a present field that is too short. -/
def lengthFault? (minLength : Option Nat) (field : Option Value) : Option String :=
  match minLength, present? field with
  | some least, some v =>
    let length := v.display.toList.length
    if length < least then
      some ("Field length " ++ toString length ++ " is less than minimum length " ++
        toString least)
    else none
  | _, _ => none

/-- The outcome for the value of a field. -/
def outcome (c : CompletenessCheck) (field : Option Value) : Outcome :=
  match missingFault? c.required field <|> emptyFault? c.notEmpty field <|>
      lengthFault? c.minLength field with
  | some message => .fail message
  | none => .pass

end RecordRules.CompletenessCheck
