import RecordRules.Binary64.Layout
import RecordRules.Json.Basic
import RecordRules.Toml.Style

/-! # Writing TOML texts

Each object of a document becomes a table with a header of its own, and each list that holds
only objects becomes a row of tables.  All other values stand behind their keys, before the
tables within.  TOML has no null.

* `Toml.render?`   the text of the members of a document -/

namespace RecordRules.Toml

/-- A table with its header, without the tables within it. -/
structure Section where
  /-- The keys that lead to the table. -/
  path : List String
  /-- Whether the table is one of a row. -/
  repeated : Bool
  /-- The lines of its entries. -/
  lines : List String
  /-- Whether there are tables within it. -/
  hasTables : Bool
  deriving Repr

namespace Section

/-- The header. -/
def header (s : Section) : String :=
  let keys := String.intercalate "." (s.path.map keyOf)
  if s.repeated then "[[" ++ keys ++ "]]\n" else "[" ++ keys ++ "]\n"

/-- Whether a table is written: one that only holds other tables goes without saying. -/
def isWritten (s : Section) : Bool :=
  if s.path.isEmpty then !s.lines.isEmpty
  else s.repeated || !s.lines.isEmpty || !s.hasTables

/-- The text of a table. -/
def render (s : Section) : String :=
  (if s.path.isEmpty then "" else s.header) ++ String.join s.lines

end Section

/-- Whether a value is an object. -/
def isObject : Json → Bool
  | .object _ => true
  | _ => false

/-- Whether a value is written as tables rather than behind its key. -/
def isTabular : Json → Bool
  | .object _ => true
  | .array items => !items.isEmpty && items.all isObject
  | _ => false

/-- Parts between brackets. -/
def bracketed (parts : List String) : String :=
  "[" ++ String.intercalate ", " parts ++ "]"

/-- Parts between braces. -/
def braced (parts : List String) : String :=
  if parts.isEmpty then "\x7b\x7d"
  else "\x7b " ++ String.intercalate ", " parts ++ " \x7d"

mutual

/-- A value on one line, but for texts of several lines. -/
def inline? : Json → Option String
  | .null => none
  | .boolean b => some (if b then "true" else "false")
  | .integer n => some (toString n)
  | .real x => some (x.render .toml)
  | .text s => some (textOf s)
  | .array items => (inlineItems? items).map bracketed
  | .object members => (inlineMembers? members).map braced

/-- The items of a list. -/
def inlineItems? : List Json → Option (List String)
  | [] => some []
  | item :: rest => do
    let s ← inline? item
    return s :: (← inlineItems? rest)

/-- The members of an object, with their keys. -/
def inlineMembers? : List (String × Json) → Option (List String)
  | [] => some []
  | (key, value) :: rest => do
    let s ← inline? value
    return (keyOf key ++ " = " ++ s) :: (← inlineMembers? rest)

end

/-- The lines of the members that stand behind their keys. -/
def bodyLines? (members : List (String × Json)) : Option (List String) :=
  (inlineMembers? (members.filter fun m => !isTabular m.2)).map (·.map (· ++ "\n"))

mutual

/-- The tables that a value is written as, at a path. -/
def tables? (path : List String) (repeated : Bool) : Json → Option (List Section)
  | .object members => do
    let lines ← bodyLines? members
    let inner ← innerTables? path members
    return ⟨path, repeated, lines, !inner.isEmpty⟩ :: inner
  | .array items => if isTabular (.array items) then rowTables? path items else some []
  | _ => some []

/-- The tables within a table, in the order of its members. -/
def innerTables? (path : List String) : List (String × Json) → Option (List Section)
  | [] => some []
  | (key, value) :: rest => do
    let first ← tables? (path ++ [key]) false value
    return first ++ (← innerTables? path rest)

/-- The tables of a row. -/
def rowTables? (path : List String) : List Json → Option (List Section)
  | [] => some []
  | item :: rest => do
    let first ← tables? path true item
    return first ++ (← rowTables? path rest)

end

/-- The text of the members of a document, unless there is null among their values. -/
def render? (members : List (String × Json)) : Option String := do
  let sections ← tables? [] false (.object members)
  return String.intercalate "\n" ((sections.filter (·.isWritten)).map (·.render))

end RecordRules.Toml
