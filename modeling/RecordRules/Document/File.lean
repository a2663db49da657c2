import RecordRules.Document.Reading

/-! # Documents in files

The format of a file is told by its path, and only then is the file read.

* `Document.rulesAt`    the rules in a file
* `Document.recordAt`   the record in a file -/

namespace RecordRules

/-- How the text of a file is had by its path. -/
abbrev TextSource := String → Except FileFault String

namespace Document

/-- The format and the text of a file. -/
def textAt (source : TextSource) (path : String) :
    Except DocumentFault (DocumentFormat × String) := do
  let format ← (DocumentFormat.ofPath path).mapError .format
  let text ← (source path).mapError .file
  return (format, text)

/-- The rules in a file. -/
def rulesAt (source : TextSource) (path : String) : Except DocumentFault (List Rule) := do
  let (format, text) ← textAt source path
  format.readRules text

/-- The record in a file. -/
def recordAt (source : TextSource) (path : String) : Except DocumentFault Record := do
  let (format, text) ← textAt source path
  format.readRecord text

end Document
end RecordRules
