import RecordRules.Toml.Scalar

/-! # Tables of TOML documents

A table lists its entries in order.  It is opened by a header, by the key of an entry with
several parts, or within braces, and only once; `TableKind` keeps how, for that decides what may
be added to it later.

* `Entries.insert?`   adds an entry
* `Draft.open?`       opens a table by its header -/

namespace RecordRules.Toml

/-- How a table came to be. -/
inductive TableKind where
  /-- Only named in the header of a table within it. -/
  | implicit
  /-- Named in the keys of entries. -/
  | dotted
  /-- Opened by a header of its own. -/
  | explicit
  /-- Written within braces. -/
  | braced
  deriving DecidableEq, Repr, Inhabited

/-- A value of a document. -/
inductive Value where
  | scalar (s : Scalar)
  | array (items : List Value)
  | table (kind : TableKind) (entries : List (String × Value))
  /-- The tables that headers in double brackets open, in order. -/
  | tables (items : List Value)
  deriving Inhabited

/-- The entries of a table, in order. -/
abbrev Entries := List (String × Value)

namespace Entries

/-- The value of a key. -/
def get? (key : String) : Entries → Option Value
  | [] => none
  | (k, v) :: rest => if k = key then some v else get? key rest

/-- Entries with another value under a key that they have. -/
def set (key : String) (value : Value) : Entries → Entries
  | [] => []
  | (k, v) :: rest => if k = key then (k, value) :: rest else (k, v) :: set key value rest

/-- Entries without a key. -/
def erase (key : String) (entries : Entries) : Entries :=
  entries.filter (·.1 ≠ key)

/-- What is done to a table, given how it came to be. -/
abbrev Change := TableKind → Entries → Option Entries

/-- Changes a value if it is a table that may be entered: through the keys of an entry only if no
    header has opened it, and never if it stands within braces. -/
def enter? (dotted : Bool) (change : Change) : Value → Option Value
  | .table kind entries =>
    if kind = .braced || (dotted && kind = .explicit) then none
    else (change kind entries).map (.table kind)
  | .tables items =>
    match items.getLast? with
    | some (.table kind entries) =>
      (change kind entries).map fun entries => .tables (items.dropLast ++ [.table kind entries])
    | _ => none
  | _ => none

/-- Changes the table at a path, and opens the tables on the way that are missing. -/
def changeAt? (dotted : Bool) (change : Change) : List String → Change
  | [], kind, entries => change kind entries
  | key :: path, _, entries =>
    match get? key entries with
    | none =>
      let kind : TableKind := if dotted then .dotted else .implicit
      (changeAt? dotted change path kind []).map fun inner => entries ++ [(key, .table kind inner)]
    | some v =>
      (enter? dotted (changeAt? dotted change path) v).map fun v => set key v entries

/-- Adds an entry to a table at a path.  Keys with several parts lead to tables that only such
    keys have opened. -/
def insert? (path : List String) (key : String) (value : Value) : Change :=
  changeAt? true (fun kind entries =>
    if decide (kind = .dotted) == path.isEmpty || (get? key entries).isSome then none
    else some (entries ++ [(key, value)])) path

end Entries

/-- The header of a table: the path to the table around it, its key, and whether it is in double
    brackets. -/
structure Header where
  path : List String
  key : String
  repeated : Bool

/-- A document under way: the tables that are complete, and the one that is open. -/
structure Draft where
  root : Entries := []
  header : Option Header := none
  current : Entries := []

namespace Draft

/-- Puts the open table into its place. -/
def close? (d : Draft) : Option Entries :=
  match d.header with
  | none => some d.current
  | some h =>
    let table := Value.table .explicit d.current
    let place : Entries.Change := fun _ entries =>
      match Entries.get? h.key entries with
      | some (.tables items) => some (Entries.set h.key (.tables (items ++ [table])) entries)
      | some _ => none
      | none => some (entries ++ [(h.key, if h.repeated then .tables [table] else table)])
    Entries.changeAt? false place h.path .explicit d.root

/-- The entries that a header finds: those of a table that was named in other headers only. -/
def found? (h : Header) (entries : Entries) : Option Entries :=
  match Entries.get? h.key entries, h.repeated with
  | none, _ => some []
  | some (.table .implicit inner), false => some inner
  | some (.tables _), true => some []
  | _, _ => none

/-- The table at a path that exists. -/
def tableAt : List String → Entries → Entries
  | [], entries => entries
  | key :: path, entries =>
    match Entries.get? key entries with
    | some (.table _ inner) => tableAt path inner
    | some (.tables items) =>
      match items.getLast? with
      | some (.table _ inner) => tableAt path inner
      | _ => []
    | _ => []

/-- Opens a table by its header, after the one that was open. -/
def open? (d : Draft) (h : Header) : Option Draft := do
  let root ← d.close?
  let inner ← found? h (tableAt h.path root)
  let take : Entries.Change := fun _ entries =>
    some (if h.repeated then entries else Entries.erase h.key entries)
  let root ← Entries.changeAt? false take h.path .explicit root
  return { root := root, header := h, current := inner }

/-- Adds an entry to the open table. -/
def insert? (d : Draft) (path : List String) (key : String) (value : Value) : Option Draft :=
  (Entries.insert? path key value .explicit d.current).map fun entries =>
    { d with current := entries }

end Draft
end RecordRules.Toml
