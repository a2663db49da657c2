import RecordRules.Document.Fields
import RecordRules.Document.Rules
import RecordRules.Toml.Reader
import RecordRules.Yaml.Reader

/-! # Reading documents

* `DocumentFormat.readRules`    the rules that a text holds
* `DocumentFormat.readRecord`   the record that a text holds -/

namespace RecordRules
namespace DocumentFormat

/-- The value that a text holds, for rules. -/
def readValue (format : DocumentFormat) (text : String) : Except DocumentFault Json :=
  match format with
  | json => (Json.ofText text).mapError fun fault => .json (.syntaxError fault)
  | yaml => (Yaml.valueOfText? text).elim (.error .yaml) .ok
  | toml => (Toml.valueOfText? text).elim (.error .toml) .ok

/-- The rules that a text holds. -/
def readRules (format : DocumentFormat) (text : String) : Except DocumentFault (List Rule) := do
  let document ← readValue format text
  (RuleDocument.read document).mapError .ruleSet

/-- The members of the object that a text holds, for a record. -/
def readFields (format : DocumentFormat) (text : String) :
    Except DocumentFault (List (String × Json)) :=
  match format with
  | json => (Fields.ofJsonText text).mapError .json
  | yaml => (Yaml.membersOfText? text).elim (.error .yaml) .ok
  | toml => (Toml.membersOfText? text).elim (.error .toml) .ok

/-- The record that a text holds. -/
def readRecord (format : DocumentFormat) (text : String) : Except DocumentFault Record := do
  Fields.toRecord (← readFields format text)

end DocumentFormat
end RecordRules
