/-! # Tokens of a YAML text

What the lines and signs of a text mean, before they are put together to nodes.  Indentation
has become tokens of its own, and each key and each value is announced. -/

namespace RecordRules.Yaml

/-- A tag as it is written: a handle and a suffix. -/
structure TagName where
  handle : String
  suffix : List Char
  deriving DecidableEq, Inhabited

/-- A token of a text. -/
inductive Token where
  /-- A directive that tells the version. -/
  | version (major minor : Nat)
  /-- A directive that gives a handle of tags its meaning. -/
  | tagHandle (handle : String) (meaning : List Char)
  | documentStart
  | documentEnd
  | blockSequence
  | blockMapping
  | blockEnd
  | flowSequence
  | flowSequenceEnd
  | flowMapping
  | flowMappingEnd
  | entry
  | comma
  | key
  | value
  | reference (name : String)
  | anchor (name : String)
  | tag (name : TagName)
  | scalar (plain : Bool) (text : String)
  | streamEnd
  deriving DecidableEq, Inhabited

end RecordRules.Yaml
