import RecordRules.Check.Range
import RecordRules.PatternCache
import RecordRules.Web.Email
import RecordRules.Web.Url

/-! # Checking the shape of values

A present value is tested against a built-in type first and a pattern second.  A field that is
absent or null passes; that it is there is for the completeness check to ask. -/

namespace RecordRules

/-- Ten digits, in three groups that may be set off from each other. -/
def isPhoneNumber (s : String) : Bool :=
  let digits (n : Nat) (cs : List Char) : Option (List Char) :=
    if (cs.take n).length = n ∧ (cs.take n).all Char.isDigit then some (cs.drop n) else none
  let skip (marks : List Char) : List Char → List Char
    | [] => []
    | c :: rest => if marks.contains c then rest else c :: rest
  let gap := skip ['-', '.', ' ']
  let rest := do
    let rest ← digits 3 (skip ['('] s.toList)
    let rest ← digits 3 (gap (skip [')'] rest))
    digits 4 (gap rest)
  rest == some []

/-- Whether a value is of a type. -/
def DataType.accepts (t : DataType) (v : Value) : Bool :=
  match t with
  | email => Web.Email.isValid v.display
  | phone => isPhoneNumber v.display
  | url => Web.Url.isValid v.display
  | number => (Coercion.ofValue v).isFinite
  | date => (Coercion.millis? (some v)).isSome
  | other => true

/-- How messages name a type. -/
def DataType.description : DataType → String
  | email => "email address"
  | phone => "phone number"
  | url => "URL"
  | number => "number"
  | date => "date"
  | other => "value"

namespace FormatCheck

/-- What there is to say about a value that is not of a type. -/
def typeFault? (t : DataType) (v : Value) : Option String :=
  if t.accepts v then none
  else some ("Value '" ++ v.display ++ "' is not a valid " ++ t.description)

/-- What there is to say about a value that does not match a pattern. -/
def patternFault? (patterns : PatternCache) (pattern : String) (v : Value) : Option String :=
  match patterns.isMatch pattern v.display with
  | .ok true => none
  | .ok false => some ("Value '" ++ v.display ++ "' does not match required format pattern")
  | .error message => some ("Invalid format pattern '" ++ pattern ++ "': " ++ message)

/-- The outcome for the value of a field. -/
def outcome (c : FormatCheck) (field : Option Value) (patterns : PatternCache) : Outcome :=
  match present? field with
  | none => .pass
  | some v =>
    match c.dataType.bind (typeFault? · v) <|> c.pattern.bind (patternFault? patterns · v) with
    | some message => .fail message
    | none => .pass

end FormatCheck
end RecordRules
