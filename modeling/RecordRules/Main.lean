import RecordRules.CommandLine.Command
import RecordRules.Storage.Folder

/-! # The program

Reads the files that the arguments name, and runs the command on their texts. -/

namespace RecordRules.CommandLine

/-- What keeps a file of the system from being read. -/
def faultOf : IO.Error → FileFault
  | .noFileOrDirectory .. => .missing
  | .inappropriateType .. => .directory
  | e => .other (toString e)

/-- The text of a file of the system. -/
def readFile (path : String) : IO (Except FileFault String) := do
  try
    return Folder.textOf (← IO.FS.readBinFile path)
  catch e =>
    return .error (faultOf e)

/-- The paths of the files that arguments name. -/
def pathsOf (arguments : List String) : List String :=
  match Invocation.ofArguments arguments with
  | some (.command c) => c.paths
  | _ => []

end RecordRules.CommandLine

open RecordRules RecordRules.CommandLine in
/-- Runs the program. -/
def main (arguments : List String) : IO UInt32 := do
  let files ← (pathsOf arguments).mapM fun path => return (path, ← readFile path)
  let ending := CommandLine.run (fun path => (files.lookup path).getD (.error .missing)) arguments
  IO.print ending.output
  IO.eprint ending.complaint
  return ending.code.toUInt32
