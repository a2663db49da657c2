import RecordRules.Json.Basic
import RecordRules.Json.Error
import RecordRules.Binary64.Layout
import RecordRules.Text.Quoted

/-! # Why a JSON value is not what was asked for

Reading a domain value out of JSON can fail in the ways listed here.  `DecodeFault.message`
is the wording. -/

namespace RecordRules

/-- What a JSON value is, as far as messages tell. -/
inductive Found where
  | boolean (b : Bool)
  | integer (n : Int)
  | real (x : Binary64)
  | text (s : String)
  | null
  | list
  | object
  deriving DecidableEq

namespace Found

/-- What a value is. -/
def of : Json → Found
  | .null => null
  | .boolean b => boolean b
  | .integer n => integer n
  | .real x => real x
  | .text s => text s
  | .array _ => list
  | .object _ => object

/-- The wording. -/
def message : Found → String
  | boolean b => "boolean `" ++ (if b then "true" else "false") ++ "`"
  | integer n => "integer `" ++ toString n ++ "`"
  | real x => "floating point `" ++ x.render .json ++ "`"
  | text s => "string " ++ quoted s
  | null => "null"
  | list => "sequence"
  | object => "map"

end Found

/-- Why a JSON value is not what was asked for. -/
inductive DecodeFault where
  | syntaxError (fault : JsonFault)
  | invalidType (found : Found) (expected : String)
  | invalidValue (found : Found) (expected : String)
  | invalidLength (length : Nat) (expected : String)
  | missingField (name : String)
  | duplicateField (name : String)
  | unknownVariant (name : String) (expected : List String)
  | noVariant (type : String)
  | configuration (ruleType : String) (cause : DecodeFault)

namespace DecodeFault

/-- Alternatives in a message. -/
def alternatives : List String → String
  | [] => "there are no variants"
  | [a] => "`" ++ a ++ "`"
  | [a, b] => "`" ++ a ++ "` or `" ++ b ++ "`"
  | names => "one of " ++ ", ".intercalate (names.map fun n => "`" ++ n ++ "`")

/-- The wording. -/
def message : DecodeFault → String
  | syntaxError fault => fault.message
  | invalidType found expected =>
    "invalid type: " ++ found.message ++ ", expected " ++ expected
  | invalidValue found expected =>
    "invalid value: " ++ found.message ++ ", expected " ++ expected
  | invalidLength length expected =>
    "invalid length " ++ toString length ++ ", expected " ++ expected
  | missingField name => "missing field `" ++ name ++ "`"
  | duplicateField name => "duplicate field `" ++ name ++ "`"
  | unknownVariant name expected =>
    "unknown variant `" ++ name ++ "`, expected " ++ alternatives expected
  | noVariant type => "data did not match any variant of untagged enum " ++ type
  | configuration ruleType cause =>
    "Invalid configuration for rule type '" ++ ruleType ++ "': " ++ cause.message

end DecodeFault
end RecordRules
