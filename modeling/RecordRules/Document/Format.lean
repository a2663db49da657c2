import RecordRules.Unicode.Lowercase

/-! # The format of a document

The format of a file is told by the extension of its name.

* `DocumentFormat.ofPath`   the format of the file at a path -/

namespace RecordRules

/-- The formats in which rules and records are written. -/
inductive DocumentFormat where
  | json
  | yaml
  | toml
  deriving DecidableEq, Repr, Inhabited

/-- Why a path tells no format. -/
inductive FormatFault where
  | noExtension
  | unsupported (extension : String)
  deriving DecidableEq, Repr

namespace DocumentFormat

/-- The name of a format. -/
def name : DocumentFormat → String
  | json => "json"
  | yaml => "yaml"
  | toml => "toml"

/-- The format of a lower-case extension. -/
def ofExtension? : String → Option DocumentFormat
  | "json" => some json
  | "yaml" | "yml" => some yaml
  | "toml" => some toml
  | _ => none

/-- The steps of a path; empty ones and those that stay in place count for nothing. -/
def steps (path : List Char) : List (List Char) :=
  (path.splitBy fun a b => a ≠ '/' && b ≠ '/').filter fun step =>
    step ≠ ['/'] && step ≠ ['.']

/-- The extension of a file name: what follows the last point, which is not the first
    character. -/
def extensionOf (name : List Char) : Option (List Char) :=
  let after := (name.reverse.takeWhile (· ≠ '.')).reverse
  if after.length + 1 < name.length then some after else none

/-- The extension of a path; a path that ends by going up has none. -/
def pathExtension (path : List Char) : Option (List Char) :=
  (steps path).getLast?.bind fun name => if name = ['.', '.'] then none else extensionOf name

/-- The format of the file at a path. -/
def ofPath (path : String) : Except FormatFault DocumentFormat :=
  match pathExtension path.toList with
  | none => .error .noExtension
  | some letters =>
    let lowered := Lowercase.ofText (String.ofList letters)
    match ofExtension? lowered with
    | some format => .ok format
    | none => .error (.unsupported lowered)

end DocumentFormat
end RecordRules
