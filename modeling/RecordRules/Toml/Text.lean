import RecordRules.Numeral

/-! # Strings of TOML texts

A string stands in single quotes as it is, or in double quotes with escapes; three quotes on
each side let it go over several lines.

* `Text.read?`   the string at the beginning of a text -/

namespace RecordRules.Toml.Text

/-- The characters that strings and comments of one line may hold. -/
def isAllowed (c : Char) : Bool :=
  c = '\t' || (0x20 ≤ c.toNat && c.toNat ≠ 0x7F)

/-- The character of an escape with one letter. -/
def escaped? : Char → Option Char
  | 'b' => some '\x08'
  | 't' => some '\t'
  | 'n' => some '\n'
  | 'f' => some '\x0c'
  | 'r' => some '\r'
  | 'e' => some '\x1b'
  | '"' => some '"'
  | '\\' => some '\\'
  | _ => none

/-- How many hexadecimal digits follow the letter of an escape. -/
def escapeDigits? : Char → Option Nat
  | 'x' => some 2
  | 'u' => some 4
  | 'U' => some 8
  | _ => none

/-- The character of an escape behind its backslash, and what follows. -/
def escape? : List Char → Option (Char × List Char)
  | [] => none
  | c :: rest =>
    match escapeDigits? c with
    | none => (escaped? c).map (·, rest)
    | some count => do
      let digits := rest.take count
      let n ← Numeral.natural? 16 digits
      guard (digits.length = count ∧ n.isValidChar)
      return (Char.ofNat n, rest.drop count)

/-- Whether a character is a space or a tab. -/
def isBlank (c : Char) : Bool :=
  c = ' ' || c = '\t'

/-- The rest after a line break. -/
def afterBreak? : List Char → Option (List Char)
  | '\n' :: rest => some rest
  | '\r' :: '\n' :: rest => some rest
  | _ => none

/-- The rest after blanks and line breaks. -/
def skipSpace : Nat → List Char → List Char
  | 0, cs => cs
  | fuel + 1, cs =>
    let cs := cs.dropWhile isBlank
    match afterBreak? cs with
    | some rest => skipSpace fuel rest
    | none => cs

/-- The rest after the end of a line that a backslash continues, with the space that begins
    the next ones. -/
def continuation? (cs : List Char) : Option (List Char) :=
  (afterBreak? (cs.dropWhile isBlank)).map (skipSpace cs.length)

/-- A string of one line behind its opening quote: its characters after those given, last
    first, and what follows. -/
def line? (escapes : Bool) (quote : Char) : Nat → List Char → List Char →
    Option (List Char × List Char)
  | 0, _, _ => none
  | _ + 1, _, [] => none
  | fuel + 1, acc, c :: rest =>
    if c = quote then some (acc, rest)
    else if escapes && c = '\\' then do
      let (d, rest) ← escape? rest
      line? escapes quote fuel (d :: acc) rest
    else if isAllowed c then line? escapes quote fuel (c :: acc) rest
    else none

/-- A string of several lines behind its opening quotes: its characters after those given, last
    first, and what follows.  Of up to five quotes the last three end it. -/
def lines? (escapes : Bool) (quote : Char) : Nat → List Char → List Char →
    Option (List Char × List Char)
  | 0, _, _ => none
  | _ + 1, _, [] => none
  | fuel + 1, acc, c :: rest =>
    if c = quote then
      let count := ((c :: rest).take 5).takeWhile (· = quote) |>.length
      if count < 3 then lines? escapes quote fuel (c :: acc) rest
      else some (List.replicate (count - 3) quote ++ acc, (c :: rest).drop count)
    else if escapes && c = '\\' then
      match continuation? rest with
      | some rest => lines? escapes quote fuel acc rest
      | none => do
        let (d, rest) ← escape? rest
        lines? escapes quote fuel (d :: acc) rest
    else match c, rest with
      | '\n', _ => lines? escapes quote fuel ('\n' :: acc) rest
      | '\r', '\n' :: rest => lines? escapes quote fuel ('\n' :: '\r' :: acc) rest
      | _, _ => if isAllowed c then lines? escapes quote fuel (c :: acc) rest else none

/-- A text of the characters of a string, which come last first. -/
def finish (found : Option (List Char × List Char)) : Option (String × List Char) :=
  found.map fun (acc, rest) => (String.ofList acc.reverse, rest)

/-- The string of one line at the beginning of a text. -/
def readLine? (cs : List Char) : Option (String × List Char) :=
  match cs with
  | '"' :: rest => finish (line? true '"' (cs.length + 1) [] rest)
  | '\'' :: rest => finish (line? false '\'' (cs.length + 1) [] rest)
  | _ => none

/-- The string at the beginning of a text; a line break right behind three opening quotes does
    not count. -/
def read? (cs : List Char) : Option (String × List Char) :=
  let body (rest : List Char) := (afterBreak? rest).getD rest
  match cs with
  | '"' :: '"' :: '"' :: rest => finish (lines? true '"' (cs.length + 1) [] (body rest))
  | '\'' :: '\'' :: '\'' :: rest => finish (lines? false '\'' (cs.length + 1) [] (body rest))
  | _ => readLine? cs

end RecordRules.Toml.Text
