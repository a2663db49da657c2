import RecordRules.Document.Reading
import RecordRules.Document.Writing
import RecordRules.Storage.Folder

/-! # Rules kept in a file

A rule file is a path with the format of the rules there.  Rules are written as a whole, and
only after all of their text is at hand.

* `RuleFile.loading`   reads the rules in the file
* `RuleFile.saving`    writes other rules into the file
* `RuleFile.load`      the rules that are read
* `RuleFile.save`      the folder with other rules in the file -/

namespace RecordRules

/-- A file with rules. -/
structure RuleFile where
  path : String
  format : DocumentFormat
  deriving DecidableEq, Repr

/-- Why rules are not had from a file or not kept there. -/
inductive RuleFile.Cause where
  | document (fault : DocumentFault)
  | notWritten (fault : FileFault)

/-- A failure with the path of the file. -/
structure RuleFile.Fault where
  path : String
  cause : RuleFile.Cause

namespace RuleFile

/-- The wording of a cause, without what is wrong with a text. -/
def Cause.message : Cause → String
  | document fault => fault.headline
  | notWritten fault => fault.message

/-- The wording. -/
def Fault.message (fault : Fault) : String :=
  "Rule store error: " ++ fault.path ++ ": " ++ fault.cause.message

/-- The file at a path, with the format that the path tells. -/
def ofPath (path : String) : Except FormatFault RuleFile :=
  (DocumentFormat.ofPath path).map (⟨path, ·⟩)

/-- The refusal of a document in the file. -/
def refusal (f : RuleFile) (fault : DocumentFault) : Fault :=
  ⟨f.path, .document fault⟩

/-- The refusal to write to the file. -/
def notWritten (f : RuleFile) (fault : FileFault) : Fault :=
  ⟨f.path, .notWritten fault⟩

/-- Reads the rules in the file. -/
def loading (f : RuleFile) : Folder.Action Fault (List Rule) := do
  let text ← .look fun d => (d.readText f.path).mapError fun fault => f.refusal (.file fault)
  liftM ((f.format.readRules text).mapError f.refusal)

/-- Writes other rules into the file. -/
def saving (f : RuleFile) (rules : List Rule) : Folder.Action Fault Unit := do
  let text ← liftM ((f.format.writeRules rules).mapError f.refusal)
  .change fun d => (d.writeText f.path text).mapError f.notWritten

/-- The rules in the file. -/
def load (f : RuleFile) (d : Folder) : Except Fault (List Rule) :=
  (f.loading.on d).1

/-- The folder with other rules in the file. -/
def save (f : RuleFile) (d : Folder) (rules : List Rule) : Except Fault Folder :=
  let (done, d) := (f.saving rules).on d
  done.map fun _ => d

end RuleFile
end RecordRules
