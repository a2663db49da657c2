import RecordRules.Yaml.Token

/-! # Nodes of a YAML document

A node is a scalar, a list, a mapping, or a reference to a node that is marked with a number.

* `Node.ofTokens?`   the root of the only document that tokens hold -/

namespace RecordRules.Yaml

/-- A part of a document. -/
inductive Node where
  | reference (mark : Nat)
  | scalar (mark : Option Nat) (tag : Option (List Char)) (plain : Bool) (text : String)
  | sequence (mark : Option Nat) (tag : Option (List Char)) (items : List Node)
  | mapping (mark : Option Nat) (tag : Option (List Char)) (entries : List (Node × Node))
  deriving Inhabited

namespace Node

/-- What stands where nothing is written. -/
def empty : Node := .scalar none none true ""

/-- What anchors a reader has met, the last first, and the tokens before it.  An anchor is known
    by how many different names came before it. -/
structure Reader where
  tokens : List Token
  anchors : List (String × Nat) := []

namespace Reader

/-- The next token. -/
def peek (r : Reader) : Token :=
  r.tokens.headD .streamEnd

/-- Behind the next token. -/
def next (r : Reader) : Reader :=
  { r with tokens := r.tokens.tail }

/-- Behind the next token if it is the given one. -/
def after? (r : Reader) (token : Token) : Option Reader :=
  if r.peek = token then some r.next else none

/-- Whether a name has come before. -/
def knows (r : Reader) (name : String) : Bool :=
  r.anchors.any (·.1 = name)

/-- Notes an anchor: its number, and the reader that knows it. -/
def anchor (r : Reader) (name : String) : Nat × Reader :=
  let count := (r.anchors.map Prod.fst).eraseDups.length
  (count, { r with anchors := (name, count) :: r.anchors })

/-- The number of an anchor. -/
def number? (r : Reader) (name : String) : Option Nat :=
  (r.anchors.find? (·.1 = name)).map Prod.snd

end Reader

/-- The meanings of the handles of tags. -/
abbrev Handles := List (String × List Char)

/-- The handles that have a meaning of their own. -/
def defaultHandles : Handles :=
  [("!", ['!']), ("!!", "tag:yaml.org,2002:".toList)]

/-- The tag of a name. -/
def resolveTag (handles : Handles) (name : TagName) : Option (List Char) :=
  if name.handle.isEmpty then some name.suffix
  else (handles.find? (·.1 = name.handle)).map fun (_, meaning) => meaning ++ name.suffix

/-- An anchor and a tag, in any order. -/
def properties (r : Reader) : Option String × Option TagName × Reader :=
  match r.peek, r.next.peek with
  | .anchor a, .tag t => (some a, some t, r.next.next)
  | .tag t, .anchor a => (some a, some t, r.next.next)
  | .anchor a, _ => (some a, none, r.next)
  | .tag t, _ => (none, some t, r.next)
  | _, _ => (none, none, r)

/-- What ends an item that has nothing in it, by the kind of collection. -/
def endsItem : Token → Bool
  | .entry | .blockEnd => true
  | _ => false

/-- What ends an item of a list that is not indented. -/
def endsFlatItem : Token → Bool
  | .entry | .key | .value | .blockEnd => true
  | _ => false

/-- What ends a key or a value that has nothing in it. -/
def endsEntry : Token → Bool
  | .key | .value | .blockEnd => true
  | _ => false

/-- What ends a key between braces. -/
def endsFlowKey : Token → Bool
  | .value | .comma | .flowMappingEnd => true
  | _ => false

/-- What ends a value between braces. -/
def endsFlowValue : Token → Bool
  | .comma | .flowMappingEnd => true
  | _ => false

/-- What ends a value of a single pair between brackets. -/
def endsPair : Token → Bool
  | .comma | .flowSequenceEnd => true
  | _ => false

mutual

/-- A node.  Block collections are read only if `block`, and a list may stand in the column of
    the mapping around it only if `flat`. -/
def read (handles : Handles) : Nat → Bool → Bool → Reader → Option (Node × Reader)
  | 0, _, _, _ => none
  | fuel + 1, block, flat, r =>
    match r.peek with
    | .reference name => do
      let mark ← r.number? name
      return (.reference mark, r.next)
    | _ => do
      let (anchor, tagName, r) := properties r
      let tag ← match tagName with
        | none => some none
        | some name => (resolveTag handles name).map some
      let (mark, r) := match anchor with
        | none => (none, r)
        | some name => let (n, r) := r.anchor name; (some n, r)
      match r.peek with
      | .scalar plain text =>
        let tag := if tag = some ['!'] then none else tag
        return (.scalar mark tag plain text, r.next)
      | .flowSequence => do
        let (items, r) ← flowItems handles fuel true r.next
        return (.sequence mark tag items, r)
      | .flowMapping => do
        let (entries, r) ← flowEntries handles fuel true r.next
        return (.mapping mark tag entries, r)
      | .blockSequence =>
        if block then do
          let (items, r) ← blockItems handles fuel r.next
          return (.sequence mark tag items, r)
        else if anchor.isSome || tag.isSome then return (.scalar mark tag true "", r) else none
      | .blockMapping =>
        if block then do
          let (entries, r) ← blockEntries handles fuel r.next
          return (.mapping mark tag entries, r)
        else if anchor.isSome || tag.isSome then return (.scalar mark tag true "", r) else none
      | token =>
        if flat && token = .entry then do
          let (items, r) ← flatItems handles fuel r
          return (.sequence mark tag items, r)
        else if anchor.isSome || tag.isSome then return (.scalar mark tag true "", r) else none

/-- A node of a block collection, or the empty one before a token that ends it. -/
def readUnless (handles : Handles) (ends : Token → Bool) (flat : Bool) :
    Nat → Reader → Option (Node × Reader)
  | 0, _ => none
  | fuel + 1, r => if ends r.peek then some (empty, r) else read handles fuel true flat r

/-- A node between brackets, or the empty one before a token that ends it. -/
def readFlowUnless (handles : Handles) (ends : Token → Bool) : Nat → Reader → Option (Node × Reader)
  | 0, _ => none
  | fuel + 1, r => if ends r.peek then some (empty, r) else read handles fuel false false r

/-- The items of an indented list, up to its end. -/
def blockItems (handles : Handles) : Nat → Reader → Option (List Node × Reader)
  | 0, _ => none
  | fuel + 1, r =>
    match r.peek with
    | .entry => do
      let (item, r) ← readUnless handles endsItem false fuel r.next
      let (items, r) ← blockItems handles fuel r
      return (item :: items, r)
    | .blockEnd => some ([], r.next)
    | _ => none

/-- The items of a list that is not indented. -/
def flatItems (handles : Handles) : Nat → Reader → Option (List Node × Reader)
  | 0, _ => none
  | fuel + 1, r =>
    match r.peek with
    | .entry => do
      let (item, r) ← readUnless handles endsFlatItem false fuel r.next
      let (items, r) ← flatItems handles fuel r
      return (item :: items, r)
    | _ => some ([], r)

/-- The value of a block mapping behind its sign; without a sign it is empty. -/
def blockValue (handles : Handles) : Nat → Reader → Option (Node × Reader)
  | 0, _ => none
  | fuel + 1, r =>
    match r.after? .value with
    | some r => readUnless handles endsEntry true fuel r
    | none => some (empty, r)

/-- The entries of a block mapping, up to its end. -/
def blockEntries (handles : Handles) : Nat → Reader → Option (List (Node × Node) × Reader)
  | 0, _ => none
  | fuel + 1, r =>
    match r.peek with
    | .key => do
      let (key, r) ← readUnless handles endsEntry true fuel r.next
      let (value, r) ← blockValue handles fuel r
      let (entries, r) ← blockEntries handles fuel r
      return ((key, value) :: entries, r)
    | .blockEnd => some ([], r.next)
    | _ => none

/-- A single pair between brackets, behind the sign of its key. -/
def flowPair (handles : Handles) : Nat → Reader → Option (Node × Reader)
  | 0, _ => none
  | fuel + 1, r => do
    let (key, r) ← if endsPair r.peek || r.peek = .value then some (empty, r.next)
      else read handles fuel false false r
    let (value, r) ← match r.after? .value with
      | some r => readFlowUnless handles endsPair fuel r
      | none => some (empty, r)
    return (.mapping none none [(key, value)], r)

/-- The items between brackets, up to the closing one. -/
def flowItems (handles : Handles) : Nat → Bool → Reader → Option (List Node × Reader)
  | 0, _, _ => none
  | fuel + 1, first, r =>
    if r.peek = .flowSequenceEnd then some ([], r.next)
    else do
      let r ← if first then some r else r.after? .comma
      match r.peek with
      | .flowSequenceEnd => return ([], r.next)
      | .key => do
        let (item, r) ← flowPair handles fuel r.next
        let (items, r) ← flowItems handles fuel false r
        return (item :: items, r)
      | _ => do
        let (item, r) ← read handles fuel false false r
        let (items, r) ← flowItems handles fuel false r
        return (item :: items, r)

/-- The entries between braces, up to the closing one. -/
def flowEntries (handles : Handles) : Nat → Bool → Reader → Option (List (Node × Node) × Reader)
  | 0, _, _ => none
  | fuel + 1, first, r =>
    if r.peek = .flowMappingEnd then some ([], r.next)
    else do
      let r ← if first then some r else r.after? .comma
      match r.peek with
      | .flowMappingEnd => return ([], r.next)
      | .key => do
        let (key, r) ← readFlowUnless handles endsFlowKey fuel r.next
        let (value, r) ← match r.after? .value with
          | some r => readFlowUnless handles endsFlowValue fuel r
          | none => some (empty, r)
        let (entries, r) ← flowEntries handles fuel false r
        return ((key, value) :: entries, r)
      | _ => do
        let (key, r) ← read handles fuel false false r
        let (entries, r) ← flowEntries handles fuel false r
        return ((key, empty) :: entries, r)

end

/-- What directives say: whether the version is told, and the handles of tags. -/
structure Directives where
  version : Bool := false
  handles : Handles := []

/-- The directives at the beginning of a document. -/
def directives : List Token → Directives → Option (Directives × List Token)
  | .version major minor :: rest, d =>
    if d.version || major ≠ 1 || (minor ≠ 1 && minor ≠ 2) then none
    else directives rest { d with version := true }
  | .tagHandle handle meaning :: rest, d =>
    if d.handles.any (·.1 = handle) then none
    else directives rest { d with handles := d.handles ++ [(handle, meaning)] }
  | tokens, d => some (d, tokens)

/-- Whether a token belongs to the frame of documents. -/
def isFrame : Token → Bool
  | .version _ _ | .tagHandle _ _ | .documentStart | .documentEnd | .streamEnd => true
  | _ => false

/-- Reads a root node with enough fuel for the tokens. -/
def readRoot (handles : Handles) (tokens : List Token) : Option (Node × List Token) :=
  (read (handles ++ defaultHandles) (4 * tokens.length + 8) true false { tokens }).map
    fun (node, r) => (node, r.tokens)

/-- The root of the first document, unless there is no document. -/
def firstDocument (tokens : List Token) : Option (Option Node × List Token) :=
  match tokens with
  | [] | .streamEnd :: _ => some (none, tokens)
  | first :: _ => do
    let (d, rest) ← directives tokens {}
    match rest with
    | .documentStart :: rest =>
      if isFrame (rest.headD .streamEnd) then return (some empty, rest)
      else
        let (node, rest) ← readRoot d.handles rest
        return (some node, rest)
    | _ =>
      guard (!isFrame first)
      let (node, rest) ← readRoot [] tokens
      return (some node, rest)

/-- The root of the only document that tokens hold; `some none` if they hold none. -/
def ofTokens? (tokens : List Token) : Option (Option Node) := do
  let (root, rest) ← firstDocument tokens
  match rest.dropWhile (· = .documentEnd) with
  | [.streamEnd] => return root
  | _ => none

end Node
end RecordRules.Yaml
