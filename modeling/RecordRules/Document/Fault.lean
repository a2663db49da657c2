import RecordRules.Document.Format
import RecordRules.Wire.Fault

/-! # Why a document is refused

The causes for which no rules and no record can be had from a document, and their wording.
What exactly is wrong with a YAML or TOML text is not told. -/

namespace RecordRules

/-- What keeps a file from being read or written. -/
inductive FileFault where
  | missing
  | directory
  /-- The path goes through a file as if it were a directory. -/
  | notDirectory
  | notText
  /-- Something else, in the words of the system. -/
  | other (text : String)
  deriving DecidableEq, Repr

namespace FileFault

/-- The wording. -/
def message : FileFault → String
  | missing => "No such file or directory (os error 2)"
  | directory => "Is a directory (os error 21)"
  | notDirectory => "Not a directory (os error 20)"
  | notText => "stream did not contain valid UTF-8"
  | other text => text

end FileFault

/-- Why a rule of a document is refused. -/
structure RuleFault where
  /-- How the rule is called in messages. -/
  label : String
  cause : DecodeFault

/-- Why a value is no list of rules. -/
inductive RuleSetFault where
  | noRules
  | rulesNotList
  | rule (fault : RuleFault)

namespace RuleSetFault

/-- The wording. -/
def message : RuleSetFault → String
  | noRules => "expected a list of rules or a 'rules' key"
  | rulesNotList => "'rules' must be a list"
  | rule fault => fault.label ++ ": " ++ fault.cause.message

end RuleSetFault

/-- Why a document is refused. -/
inductive DocumentFault where
  | json (cause : DecodeFault)
  | yaml
  | toml
  | ruleSet (fault : RuleSetFault)
  /-- A field of a record holds a list or an object. -/
  | nested (field : String)
  | file (fault : FileFault)
  | format (fault : FormatFault)

namespace DocumentFault

/-- The wording without what is wrong with the text. -/
def headline : DocumentFault → String
  | json _ => "Failed to parse JSON:"
  | yaml => "Failed to parse YAML:"
  | toml => "Failed to parse TOML:"
  | ruleSet fault => "Invalid rule set: " ++ fault.message
  | nested field => "Invalid record: field '" ++ field ++ "' holds a nested value"
  | file fault => "File I/O error: " ++ fault.message
  | format .noExtension => "Invalid or missing file extension"
  | format (.unsupported extension) => "Unsupported file format: " ++ extension

/-- The wording, as far as it is told. -/
def message : DocumentFault → String
  | json cause => (json cause).headline ++ " " ++ cause.message
  | fault => fault.headline

/-- The wording, and that of the fault behind it if there is one. -/
def causes (fault : DocumentFault) : List String :=
  fault.message ::
    match fault with
    | json cause => [cause.message]
    | file cause => [cause.message]
    | _ => []

end DocumentFault
end RecordRules
