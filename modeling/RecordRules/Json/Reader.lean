import RecordRules.Json.Basic
import RecordRules.Json.Number

/-! # Reading JSON text

`Json.Draft` is a JSON text as it stands: members in the order of the text, repeated keys
included, and cut short where the text goes wrong.  A consumer that walks a draft from left
to right meets the fault exactly where a reader of the text would; one that wants the whole
value asks for `Draft.toJson`.

* `Json.Draft.ofText`   the draft of a text and the fault after its value, if any
* `Json.ofText`         the value of a text -/

namespace RecordRules
namespace Json

/-- A JSON text as far as it can be read.  `cut` is the fault that ends a list or an object
    before its bracket. -/
inductive Draft where
  | null
  | boolean (b : Bool)
  | integer (n : Int)
  | real (x : Binary64)
  | text (s : String)
  | array (items : List Draft) (cut : Option JsonFault)
  | object (members : List (String × Draft)) (cut : Option JsonFault)
  | broken (fault : JsonFault)
  deriving Inhabited

namespace Draft

/-- Whether a character is white space of the format. -/
def isSpace (c : Char) : Bool :=
  c = ' ' || c = '\n' || c = '\t' || c = '\r'

/-- The rest of a text after white space. -/
def skipSpace (cs : List Char) : List Char :=
  cs.dropWhile isSpace

/-- The rest after the letters of a literal name. -/
def ident : List Char → List Char → Except JsonFault (List Char)
  | [], cs => .ok cs
  | _ :: _, [] => .error .endInValue
  | w :: ws, c :: cs => if w = c then ident ws cs else .error .expectedIdent

/-- Four hexadecimal digits; bytes are counted to tell a short text from a wrong digit. -/
def hexEscape (cs : List Char) : Except JsonFault (Nat × List Char) :=
  let four := cs.take 4
  if four.foldl (fun n c => n + c.utf8Size) 0 < 4 then .error .endInString
  else match Numeral.natural? 16 four with
    | some n => if four.length = 4 then .ok (n, cs.drop 4) else .error .invalidEscape
    | none => .error .invalidEscape

/-- The character of an escape after its `\u`, which may be a surrogate pair. -/
def unicodeEscape (cs : List Char) : Except JsonFault (Char × List Char) := do
  let (n, rest) ← hexEscape cs
  if 0xDC00 ≤ n ∧ n ≤ 0xDFFF then .error .loneSurrogate
  else if n < 0xD800 ∨ 0xDFFF < n then .ok (Char.ofNat n, rest)
  else match rest with
    | '\\' :: 'u' :: rest => do
      let (low, rest) ← hexEscape rest
      if low < 0xDC00 ∨ 0xDFFF < low then .error .loneSurrogate
      else .ok (Char.ofNat (0x10000 + (n - 0xD800) * 0x400 + (low - 0xDC00)), rest)
    | [] | ['\\'] => .error .endInString
    | _ => .error .unfinishedSurrogate

/-- The character that a one-letter escape stands for. -/
def simpleEscape? : Char → Option Char
  | '"' => some '"'
  | '\\' => some '\\'
  | '/' => some '/'
  | 'b' => some '\x08'
  | 'f' => some '\x0c'
  | 'n' => some '\n'
  | 'r' => some '\r'
  | 't' => some '\t'
  | _ => none

/-- The characters of a string after its opening quote, last first, and the rest after the
    closing one. -/
def stringFrom : Nat → List Char → List Char → Except JsonFault (List Char × List Char)
  | 0, _, _ => .error .endInString
  | _ + 1, _, [] => .error .endInString
  | fuel + 1, acc, c :: rest =>
    if c = '"' then .ok (acc, rest)
    else if c = '\\' then
      match rest with
      | [] => .error .endInString
      | 'u' :: rest => do
        let (d, rest) ← unicodeEscape rest
        stringFrom fuel (d :: acc) rest
      | e :: rest =>
        match simpleEscape? e with
        | some d => stringFrom fuel (d :: acc) rest
        | none => .error .invalidEscape
    else if c.toNat < 0x20 then .error .controlCharacter
    else stringFrom fuel (c :: acc) rest

/-- A string after its opening quote. -/
def string (cs : List Char) : Except JsonFault (String × List Char) :=
  (stringFrom (cs.length + 1) [] cs).map fun (acc, rest) => (String.ofList acc.reverse, rest)

/-- What a value leaves behind: the rest of the text, unless the value was cut short. -/
abbrev Rest := Option (List Char)

/-- A scalar that reads to the end, or the fault in it. -/
def scalar {α : Type} (make : α → Draft) : Except JsonFault (α × List Char) → Draft × Rest
  | .ok (a, rest) => (make a, some rest)
  | .error fault => (.broken fault, none)

/-- A literal name. -/
def literal (value : Draft) (letters : String) (cs : List Char) : Draft × Rest :=
  scalar (fun _ => value) ((ident letters.toList cs).map fun rest => ((), rest))

/-- A number as a draft. -/
def ofNumber : JsonNumber.Parsed → Draft
  | .integer n => .integer n
  | .real x => .real x

mutual

/-- A value, in a list or object that may nest `depth` levels more. -/
def value : Nat → Nat → List Char → Draft × Rest
  | 0, _, _ => (.broken .tooDeep, none)
  | fuel + 1, depth, cs =>
    match skipSpace cs with
    | [] => (.broken .endInValue, none)
    | 'n' :: rest => literal .null "ull" rest
    | 't' :: rest => literal (.boolean true) "rue" rest
    | 'f' :: rest => literal (.boolean false) "alse" rest
    | '"' :: rest => scalar .text (string rest)
    | '[' :: rest =>
      match depth with
      | 0 | 1 => (.broken .tooDeep, none)
      | depth + 1 =>
        let (items, cut) := items fuel depth true rest
        match cut with
        | .ok rest => (.array items none, some rest)
        | .error fault => (.array items fault, none)
    | '{' :: rest =>
      match depth with
      | 0 | 1 => (.broken .tooDeep, none)
      | depth + 1 =>
        let (members, cut) := members fuel depth true rest
        match cut with
        | .ok rest => (.object members none, some rest)
        | .error fault => (.object members fault, none)
    | c :: rest =>
      if c.isDigit || c = '-' then scalar ofNumber (JsonNumber.read (c :: rest))
      else (.broken .expectedValue, none)

/-- The items up to the closing bracket, and how the list ends: with the rest, with a fault
    of its own, or (`error none`) in the middle of its last item. -/
def items : Nat → Nat → Bool → List Char →
    List Draft × Except (Option JsonFault) (List Char)
  | 0, _, _, _ => ([], .error (some .tooDeep))
  | fuel + 1, depth, first, cs =>
    let next (cs : List Char) : List Draft × Except (Option JsonFault) (List Char) :=
      let (item, rest) := value fuel depth cs
      match rest with
      | none => ([item], .error none)
      | some rest =>
        let (more, cut) := items fuel depth false rest
        (item :: more, cut)
    match skipSpace cs with
    | [] => ([], .error (some .endInList))
    | ']' :: rest => ([], .ok rest)
    | ',' :: rest =>
      if first then next cs
      else match skipSpace rest with
        | [] => ([], .error (some .endInValue))
        | ']' :: _ => ([], .error (some .trailingComma))
        | rest => next rest
    | rest => if first then next rest else ([], .error (some .expectedCommaOrBracket))

/-- The members up to the closing brace, and how the object ends, as for `items`. -/
def members : Nat → Nat → Bool → List Char →
    List (String × Draft) × Except (Option JsonFault) (List Char)
  | 0, _, _, _ => ([], .error (some .tooDeep))
  | fuel + 1, depth, first, cs =>
    let next (cs : List Char) : List (String × Draft) × Except (Option JsonFault) (List Char) :=
      match string cs with
      | .error fault => ([], .error (some fault))
      | .ok (key, rest) =>
        match skipSpace rest with
        | [] => ([], .error (some .endInObject))
        | ':' :: rest =>
          let (item, rest) := value fuel depth rest
          match rest with
          | none => ([(key, item)], .error none)
          | some rest =>
            let (more, cut) := members fuel depth false rest
            ((key, item) :: more, cut)
        | _ => ([], .error (some .expectedColon))
    match skipSpace cs with
    | [] => ([], .error (some .endInObject))
    | '}' :: rest => ([], .ok rest)
    | ',' :: rest =>
      if first then ([], .error (some .keyNotString))
      else match skipSpace rest with
        | [] => ([], .error (some .endInValue))
        | '"' :: rest => next rest
        | '}' :: _ => ([], .error (some .trailingComma))
        | _ => ([], .error (some .keyNotString))
    | c :: rest =>
      if first then
        if c = '"' then next rest else ([], .error (some .keyNotString))
      else ([], .error (some .expectedCommaOrBrace))

end

/-- Lists and objects may nest this deep, less one. -/
def maxDepth : Nat := 128

/-- The draft of a text, and the fault that follows its value. -/
def ofText (s : String) : Draft × Option JsonFault :=
  let cs := s.toList
  let (draft, rest) := value (2 * cs.length + 2) maxDepth cs
  match rest with
  | none => (draft, none)
  | some rest => (draft, if (skipSpace rest).isEmpty then none else some .trailingCharacters)

mutual

/-- The value of a draft, or the first fault in it. -/
def toJson : Draft → Except JsonFault Json
  | .null => .ok .null
  | .boolean b => .ok (.boolean b)
  | .integer n => .ok (.integer n)
  | .real x => .ok (.real x)
  | .text s => .ok (.text s)
  | .array items cut => do
    let values ← itemsToJson items
    match cut with
    | some fault => .error fault
    | none => .ok (.array values)
  | .object members cut => do
    let values ← membersToJson members
    match cut with
    | some fault => .error fault
    | none => .ok (ofMembers values)
  | .broken fault => .error fault

/-- The values of items. -/
def itemsToJson : List Draft → Except JsonFault (List Json)
  | [] => .ok []
  | d :: rest => do
    let v ← d.toJson
    return v :: (← itemsToJson rest)

/-- The values of members, with their keys. -/
def membersToJson : List (String × Draft) → Except JsonFault (List (String × Json))
  | [] => .ok []
  | (k, d) :: rest => do
    let v ← d.toJson
    return (k, v) :: (← membersToJson rest)

end
end Draft

/-- The value of a text. -/
def ofText (s : String) : Except JsonFault Json := do
  let (draft, after) := Draft.ofText s
  let v ← draft.toJson
  match after with
  | some fault => .error fault
  | none => .ok v

end Json
end RecordRules
