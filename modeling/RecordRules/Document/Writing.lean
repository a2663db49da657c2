import RecordRules.Document.Rules
import RecordRules.Json.Printer
import RecordRules.Toml.Printer
import RecordRules.Yaml.Printer

/-! # Writing documents

* `DocumentFormat.writeRules`   the text of rules -/

namespace RecordRules
namespace DocumentFormat

/-- The text of rules. -/
def writeRules (format : DocumentFormat) (rules : List Rule) : Except DocumentFault String :=
  match format with
  | json => .ok (RuleDocument.write rules).pretty
  | yaml => .ok (Yaml.render (RuleDocument.write rules))
  | toml => (Toml.render? [RuleDocument.member rules]).elim (.error .toml) .ok

end DocumentFormat
end RecordRules
