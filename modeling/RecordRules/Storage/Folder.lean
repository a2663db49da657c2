import RecordRules.Document.Fault

/-! # Files in a folder

A folder keeps the contents of its files under their names.  It has no folders within it.

* `Folder.readText`    the text of the file at a path
* `Folder.writeText`   the folder with another text in the file at a path
* `Folder.bytes?_put`  a content is seen under its name and nowhere else
* `Folder.Action`      what is done to a folder, faults included -/

namespace RecordRules

/-- The contents of files by their names. -/
structure Folder where
  files : List (String × ByteArray) := []

namespace Folder

/-- A folder without files. -/
def empty : Folder := {}

/-- The content of a file. -/
def bytes? (d : Folder) (name : String) : Option ByteArray :=
  (d.files.find? (·.1 = name)).map Prod.snd

/-- The folder with a content in a file, which may be new. -/
def put (d : Folder) (name : String) (content : ByteArray) : Folder :=
  ⟨(name, content) :: d.files.filter (·.1 ≠ name)⟩

/-- A file has the content that was put into it last, and other files keep theirs. -/
theorem bytes?_put (d : Folder) (name other : String) (content : ByteArray) :
    (d.put name content).bytes? other = if name = other then some content else d.bytes? other := by
  by_cases h : name = other
  · simp [put, bytes?, h]
  -- the filter only takes away entries that a search for `other` passes over
  · have filtered : (d.files.filter (·.1 ≠ name)).find? (·.1 = other) =
        d.files.find? (·.1 = other) := by
      rw [List.find?_filter]
      congr 1
      funext file
      by_cases same : file.1 = other
      · simp [same, Ne.symm h]
      · simp [same]
    simp [put, bytes?, h] at filtered ⊢
    rw [filtered]

/-- Of two contents in a file the later one stays. -/
theorem put_put (d : Folder) (name : String) (earlier later : ByteArray) :
    (d.put name earlier).put name later = d.put name later := by
  simp [put]

/-- The name of the file to which a path leads, whether there is one or not. -/
def fileName (d : Folder) (path : String) : Except FileFault String :=
  let cs := path.toList
  if cs.head? = some '/' then .error .missing
  else match DocumentFormat.steps cs with
    | [] => .error .directory
    | step :: more =>
      let name := String.ofList step
      if more.isEmpty && cs.getLast? ≠ some '/' then .ok name
      else if (d.bytes? name).isSome then .error .notDirectory
      else .error .missing

/-- A path that leads to a file still does when files are put into the folder. -/
theorem fileName_put {d : Folder} {path name : String} (h : d.fileName path = .ok name)
    (other : String) (content : ByteArray) : (d.put other content).fileName path = .ok name := by
  -- only a path through a file, which ends in a fault, looks at the contents of the folder
  revert h
  unfold fileName
  simp only
  split
  · exact id
  · split
    · exact id
    · split
      · exact id
      · split <;> exact nofun

/-- The text that a content spells. -/
def textOf (content : ByteArray) : Except FileFault String :=
  (String.fromUTF8? content).elim (.error .notText) .ok

/-- A text is spelled by its own bytes. -/
theorem textOf_toUTF8 (s : String) : textOf s.toUTF8 = .ok s := by
  simp [textOf, String.fromUTF8?, s.isValidUTF8, String.fromUTF8]

/-- The text of the file at a path. -/
def readText (d : Folder) (path : String) : Except FileFault String := do
  let name ← d.fileName path
  ((d.bytes? name).map textOf).getD (.error .missing)

/-- The folder with another content in the file at a path. -/
def write (d : Folder) (path : String) (content : ByteArray) : Except FileFault Folder :=
  (d.fileName path).map fun name => d.put name content

/-- The folder with another text in the file at a path. -/
def writeText (d : Folder) (path text : String) : Except FileFault Folder :=
  d.write path text.toUTF8

/-- A text that was put into a file is read there. -/
theorem readText_put {d : Folder} {path name : String} (h : d.fileName path = .ok name)
    (text : String) : (d.put name text.toUTF8).readText path = .ok text := by
  rw [readText, fileName_put h]
  show ((d.put name text.toUTF8).bytes? name |>.map textOf).getD (.error .missing) = _
  rw [bytes?_put, if_pos rfl]
  exact textOf_toUTF8 text

/-- A text can be written wherever a path leads to a file. -/
theorem writeText_of_fileName {d : Folder} {path name : String} (h : d.fileName path = .ok name)
    (text : String) : d.writeText path text = .ok (d.put name text.toUTF8) := by
  rw [writeText, write, h]
  rfl

/-- What is done to a folder.  It ends with a value or with a fault, and what was changed before
    a fault stays changed. -/
abbrev Action (ε α : Type) := ExceptT ε (StateM Folder) α

namespace Action

variable {ε α β : Type}

/-- How an action on a folder ends, and the folder that it leaves. -/
def on (x : Action ε α) (d : Folder) : Except ε α × Folder :=
  x.run.run d

/-- Looks into the folder. -/
def look (question : Folder → Except ε α) : Action ε α := do
  let d ← get
  question d

/-- Changes the folder.  A change that is begun comes to its end. -/
def change (f : Folder → Except ε Folder) : Action ε Unit := do
  let changed ← look f
  set changed

/-- A result that is there without the folder. -/
@[simp] theorem on_lift (x : Except ε α) (d : Folder) : on (liftM x) d = (x, d) :=
  rfl

@[simp] theorem on_look (question : Folder → Except ε α) (d : Folder) :
    (look question).on d = (question d, d) :=
  rfl

/-- The second action meets the folder that the first one leaves, unless the first one fails. -/
theorem on_bind (x : Action ε α) (f : α → Action ε β) (d : Folder) :
    (x >>= f).on d =
      match x.on d with
      | (.ok a, d) => (f a).on d
      | (.error fault, d) => (.error fault, d) := by
  -- the transformer runs the first action and then, on a value, the continuation
  show (ExceptT.bindCont f (x.on d).1).run (x.on d).2 = _
  rcases x.on d with ⟨fault | a, d⟩ <;> rfl

/-- A change takes place as a whole, or it fails and nothing is changed. -/
theorem on_change (f : Folder → Except ε Folder) (d : Folder) :
    (change f).on d =
      match f d with
      | .ok changed => (.ok (), changed)
      | .error fault => (.error fault, d) := by
  rw [change, on_bind, on_look]
  cases f d <;> rfl

end Action

end Folder
end RecordRules
