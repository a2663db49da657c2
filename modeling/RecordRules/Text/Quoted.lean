import RecordRules.Unicode.Category
import RecordRules.Unicode.GraphemeExtend

/-! # Text in double quotes

`quoted` shows a text in messages: within double quotes, with backslashes before quotes and
backslashes, short escapes for the usual control characters, and the code point of every
character that would not be seen on its own. -/

namespace RecordRules

/-- Whether a character shows something of its own when it is printed. -/
def isPrintable (c : Char) : Bool :=
  c = ' ' || match GeneralCategory.ofCode c.toNat with
    | .cc | .cf | .cs | .co | .cn | .zl | .zp | .zs => false
    | _ => !isGraphemeExtend c

/-- The text of a character within quotes. -/
def quotedChar (c : Char) : List Char :=
  match c with
  | '"' => ['\\', '"']
  | '\\' => ['\\', '\\']
  | '\n' => ['\\', 'n']
  | '\r' => ['\\', 'r']
  | '\t' => ['\\', 't']
  | '\x00' => ['\\', '0']
  | c => if isPrintable c then [c] else '\\' :: 'u' :: '{' :: Nat.toDigits 16 c.toNat ++ ['}']

/-- A text within quotes. -/
def quoted (s : String) : String :=
  String.ofList ('"' :: s.toList.flatMap quotedChar ++ ['"'])

end RecordRules
