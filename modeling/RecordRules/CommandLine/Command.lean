import RecordRules.CommandLine.Arguments
import RecordRules.Document.File
import RecordRules.Engine
import RecordRules.Report.Printer
import RecordRules.Rule.Listing

/-! # Running a command

A command reads its files, writes its answer and ends with a code: 0 if all is well, 1 if rules
or a record are not as they should be, and 2 if the arguments are not.

* `CommandLine.run`   what comes of arguments -/

namespace RecordRules.CommandLine

/-- What a run leaves behind. -/
structure Ending where
  code : Nat := 0
  output : String := ""
  /-- What is told of a failure, apart from the output. -/
  complaint : String := ""
  deriving DecidableEq, Repr

/-- Why a command has no files to work on. -/
structure Fault where
  /-- What the file was for. -/
  subject : String
  path : String
  cause : DocumentFault

namespace Fault

/-- The lines of a cause, and of the causes behind it with their numbers. -/
def causeLines : List String → List String
  | [cause] => ["    " ++ Lines.indentBreaks 4 cause]
  | causes => causes.zipIdx.map fun (cause, i) =>
      "    " ++ toString i ++ ": " ++ Lines.indentBreaks 7 cause

/-- The wording. -/
def message (f : Fault) : String :=
  Lines.join <|
    ["Error: Failed to parse " ++ f.subject ++ " file: " ++ f.path, "", "Caused by:"] ++
      causeLines f.cause.causes

end Fault

/-- The rules in a file. -/
def rulesAt (source : TextSource) (path : String) : Except Fault (List Rule) :=
  (Document.rulesAt source path).mapError (⟨"rules", path, ·⟩)

/-- The record in a file. -/
def recordAt (source : TextSource) (path : String) : Except Fault Record :=
  (Document.recordAt source path).mapError (⟨"record", path, ·⟩)

/-- The code of a run that found all well or not. -/
def codeOf (well : Bool) : Nat :=
  if well then 0 else 1

/-- A JSON value on lines of its own. -/
def jsonText (j : Json) : String :=
  j.pretty ++ "\n"

/-- What was loaded. -/
def loadedLine (rules : List Rule) (record : Record) : String :=
  "ℹ Loaded " ++ RuleListing.counts rules ++ " and a record with " ++
    toString record.size ++ " fields\n"

/-- Validates a record by rules. -/
def validate (rules : List Rule) (record : Record) (style : OutputStyle) (showPassed : Bool) :
    Ending :=
  let report := (({} : Engine).load rules).report record
  { code := codeOf report.passed
    output := match style with
      | .json => jsonText report.toJson
      | .text => loadedLine rules record ++ report.toText showPassed }

/-- Lists rules with their issues. -/
def check (rules : List Rule) (style : OutputStyle) : Ending :=
  let listing := RuleListing.ofRules rules
  { code := codeOf listing.isValid
    output := match style with
      | .json => jsonText listing.toJson
      | .text => listing.toText
    complaint := match style with
      | .json => ""
      | .text => listing.complaint }

/-- What comes of a command, unless a file is not as it should be. -/
def Command.run? (source : TextSource) : Command → Except Fault Ending
  | .validate rulesPath recordPath style showPassed => do
    let rules ← rulesAt source rulesPath
    let record ← recordAt source recordPath
    return CommandLine.validate rules record style showPassed
  | .check rulesPath style => do
    let rules ← rulesAt source rulesPath
    return CommandLine.check rules style

/-- What comes of a command. -/
def Command.run (source : TextSource) (c : Command) : Ending :=
  match c.run? source with
  | .ok ending => ending
  | .error fault => { code := 1, complaint := fault.message }

/-- The name of the program with its version. -/
def versionLine : String := "rulecheck 0.0.1\n"

/-- How the program is called. -/
def usage : String :=
  Lines.join [
    "Usage: rulecheck [-v] validate [-f text|json] [--show-passed] <RULES> <RECORD>",
    "       rulecheck [-v] check [-f text|json] <RULES>"]

/-- What comes of arguments. -/
def run (source : TextSource) (arguments : List String) : Ending :=
  match Invocation.ofArguments arguments with
  | none => { code := 2 }
  | some .help => { output := usage }
  | some .version => { output := versionLine }
  | some (.command c) => c.run source

end RecordRules.CommandLine
