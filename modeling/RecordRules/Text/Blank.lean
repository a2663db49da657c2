/-! # Blank characters

The characters with the Unicode property `White_Space`, and trimming by them.

* `trim`             a text without its leading and trailing blanks
* `blankSeparated`   the pieces of a text between runs of blanks -/

namespace RecordRules

/-- The Unicode property `White_Space`. -/
def isBlank (c : Char) : Bool :=
  let n := c.toNat
  (9 ≤ n && n ≤ 13) || n == 0x20 || n == 0x85 || n == 0xA0 || n == 0x1680 ||
    (0x2000 ≤ n && n ≤ 0x200A) || n == 0x2028 || n == 0x2029 || n == 0x202F || n == 0x205F ||
    n == 0x3000

/-- The list without its leading and trailing blanks. -/
def trimBlanks (cs : List Char) : List Char :=
  ((cs.dropWhile isBlank).reverse.dropWhile isBlank).reverse

/-- The text without its leading and trailing blanks. -/
def trim (s : String) : String :=
  String.ofList (trimBlanks s.toList)

/-- The pieces of a text between runs of blanks. -/
def blankSeparated (s : String) : List String :=
  ((s.toList.splitBy fun a b => isBlank a == isBlank b).filter
    fun piece => piece.any (!isBlank ·)).map String.ofList

end RecordRules
