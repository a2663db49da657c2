import RecordRules.Regex.Fault
import RecordRules.Unicode.Age
import RecordRules.Unicode.Break
import RecordRules.Unicode.CodeSet
import RecordRules.Unicode.Property
import RecordRules.Unicode.Script

/-! # Classes of characters that a pattern can name

* `PerlKind.codes`            digits, white space and word characters
* `UnicodeQuery.codes`        the class that a property, or a value of one, describes -/

namespace RecordRules.Regex

/-- Names of general categories and of groups of them. -/
def categoryNames : List (List String × List GeneralCategory) :=
  [(["c", "other"], [.cc, .cf, .cs, .co, .cn]),
   (["cc", "cntrl", "control"], [.cc]),
   (["cf", "format"], [.cf]),
   (["cn", "unassigned"], [.cn]),
   (["co", "privateuse"], [.co]),
   (["l", "letter"], [.lu, .ll, .lt, .lm, .lo]),
   (["lc", "casedletter"], [.lu, .ll, .lt]),
   (["ll", "lowercaseletter"], [.ll]),
   (["lm", "modifierletter"], [.lm]),
   (["lo", "otherletter"], [.lo]),
   (["lt", "titlecaseletter"], [.lt]),
   (["lu", "uppercaseletter"], [.lu]),
   (["m", "mark", "combiningmark"], [.mn, .mc, .me]),
   (["mc", "spacingmark"], [.mc]),
   (["me", "enclosingmark"], [.me]),
   (["mn", "nonspacingmark"], [.mn]),
   (["n", "number"], [.nd, .nl, .no]),
   (["nd", "digit", "decimalnumber"], [.nd]),
   (["nl", "letternumber"], [.nl]),
   (["no", "othernumber"], [.no]),
   (["p", "punct", "punctuation"], [.pc, .pd, .ps, .pe, .pi, .pf, .po]),
   (["pc", "connectorpunctuation"], [.pc]),
   (["pd", "dashpunctuation"], [.pd]),
   (["pe", "closepunctuation"], [.pe]),
   (["pf", "finalpunctuation"], [.pf]),
   (["pi", "initialpunctuation"], [.pi]),
   (["po", "otherpunctuation"], [.po]),
   (["ps", "openpunctuation"], [.ps]),
   (["s", "symbol"], [.sm, .sc, .sk, .so]),
   (["sc", "currencysymbol"], [.sc]),
   (["sk", "modifiersymbol"], [.sk]),
   (["sm", "mathsymbol"], [.sm]),
   (["so", "othersymbol"], [.so]),
   (["z", "separator"], [.zs, .zl, .zp]),
   (["zl", "lineseparator"], [.zl]),
   (["zp", "paragraphseparator"], [.zp]),
   (["zs", "spaceseparator"], [.zs])]

/-- Properties that have a name in the standard but are neither binary nor listed here. -/
def otherProperties : List String :=
  ["cjkaccountingnumeric", "kaccountingnumeric", "cjkothernumeric", "kothernumeric",
   "cjkprimarynumeric", "kprimarynumeric", "nv", "numericvalue", "bmg", "bidimirroringglyph",
   "bpb", "bidipairedbracket", "cf", "casefolding", "cjkcompatibilityvariant",
   "kcompatibilityvariant", "dm", "decompositionmapping", "equideo",
   "equivalentunifiedideograph", "fcnfkc", "fcnfkcclosure", "lc", "lowercasemapping",
   "nfkccf", "nfkccasefold", "nfkcscf", "nfkcsimplecasefold", "scf", "simplecasefolding",
   "sfc", "slc", "simplelowercasemapping", "stc", "simpletitlecasemapping", "suc",
   "simpleuppercasemapping", "tc", "titlecasemapping", "uc", "uppercasemapping", "cjkiicore",
   "kiicore", "cjkirggsource", "kirggsource", "cjkirghsource", "kirghsource", "cjkirgjsource",
   "kirgjsource", "cjkirgkpsource", "kirgkpsource", "cjkirgksource", "kirgksource",
   "cjkirgmsource", "kirgmsource", "cjkirgssource", "kirgssource", "cjkirgtsource",
   "kirgtsource", "cjkirguksource", "kirguksource", "cjkirgusource", "kirgusource",
   "cjkirgvsource", "kirgvsource", "cjkrsunicode", "krsunicode", "unicoderadicalstroke",
   "urs", "isc", "ocomment", "jsn", "jamoshortname", "na", "name", "na1", "unicode1name",
   "namealias", "scx", "scriptextensions", "age", "blk", "block", "sc", "script", "bc",
   "bidiclass", "bpt", "bidipairedbrackettype", "ccc", "canonicalcombiningclass", "dt",
   "decompositiontype", "ea", "eastasianwidth", "gc", "generalcategory", "gcb",
   "graphemeclusterbreak", "hst", "hangulsyllabletype", "incb", "indicconjunctbreak", "inpc",
   "indicpositionalcategory", "insc", "indicsyllabiccategory", "jg", "joininggroup", "jt",
   "joiningtype", "lb", "linebreak", "nfcqc", "nfcquickcheck", "nfdqc", "nfdquickcheck",
   "nfkcqc", "nfkcquickcheck", "nfkdqc", "nfkdquickcheck", "nt", "numerictype", "sb",
   "sentencebreak", "vo", "verticalorientation", "wb", "wordbreak", "bidim", "bidimirrored",
   "ce", "compositionexclusion", "compex", "fullcompositionexclusion", "cwkcf",
   "changeswhennfkccasefolded", "idcompatmathcontinue", "idcompatmathstart", "mcm",
   "modifiercombiningmark", "xonfc", "expandsonnfc", "xonfd", "expandsonnfd", "xonfkc",
   "expandsonnfkc", "xonfkd", "expandsonnfkd", "kehcat", "kehcore", "kehdesc", "kehfunc",
   "kehfval", "kehhg", "kehifao", "kehjsesh", "kehnomirror", "kehnorotate", "kehunik",
   "cjkmandarin", "kmandarin", "cjktotalstrokes", "ktotalstrokes", "cjkunihancore2020",
   "kunihancore2020"]

/-- The code points of some categories. -/
def codesOfCategories (categories : List GeneralCategory) : CodeSet :=
  CodeSet.normal (GeneralCategory.codes categories.contains)

/-- The code points with a binary property. -/
def binaryCodes? (name : String) : Option CodeSet :=
  (findCodes? name binaryProperties).map fun codes => (CodeRanges.ofText codes).toSet

/-- A name as it is compared: without blanks, hyphens, underscores and characters that are
    not ASCII, in lower case and without a leading "is". -/
def looseName (name : String) : String :=
  let lower (c : Char) : Char := if c.isUpper then Char.ofNat (c.toNat + 32) else c
  let (isMarked, rest) := match name.toList with
    | a :: b :: rest =>
      if lower a = 'i' ∧ lower b = 's' then (true, rest) else (false, a :: b :: rest)
    | short => (false, short)
  let kept := rest.filter fun c => c ≠ ' ' ∧ c ≠ '_' ∧ c ≠ '-' ∧ c.toNat < 0x80
  let kept := kept.map lower
  if isMarked ∧ kept = ['c'] then "isc" else String.ofList kept

/-- The code points of a general category. -/
def categoryCodes? (name : String) : Option CodeSet :=
  match name with
  | "any" => some CodeSet.everything
  | "ascii" => some [(0, 0x7F)]
  | "assigned" => some (CodeSet.complement (codesOfCategories [.cn]))
  | _ => (categoryNames.find? fun entry => entry.1.contains name).map
      fun entry => codesOfCategories entry.2

/-- Whether a name is that of the category of surrogates, which holds no characters. -/
def isSurrogateName (name : String) : Bool :=
  name = "cs" || name = "surrogate"

/-- The code points of a script. -/
def scriptCodes? (name : String) : Option CodeSet :=
  (findCodes? name scripts).map fun codes => (CodeRanges.ofText codes).toSet

/-- The code points used in a script. -/
def scriptExtensionCodes? (name : String) : Option CodeSet :=
  let entry := scripts.find? fun entry => entry.1.contains name
  entry.map fun (names, own) =>
    let extended := scriptExtensions.find? fun entry => entry.1.any names.contains
    (CodeRanges.ofText ((extended.map Prod.snd).getD own)).toSet

/-- The code points that were assigned in a version of the standard. -/
def ageCodes? (name : String) : Option CodeSet :=
  let upTo := ages.takeWhile fun entry => !entry.1.contains name
  match ages.drop upTo.length with
  | [] => none
  | entry :: _ =>
    some (CodeSet.normal ((upTo ++ [entry]).flatMap fun e => (CodeRanges.ofText e.2).toSet))

/-- The code points that a table gives to a value. -/
def tableCodes? (table : List (List String × String)) (name : String) : Option CodeSet :=
  (findCodes? name table).map fun codes => (CodeRanges.ofText codes).toSet

/-- The code points of a single name: a binary property, a category or a script. -/
def nameCodes (name : String) : Except Cause CodeSet :=
  let isProperty := name ≠ "cf" ∧ name ≠ "sc" ∧ name ≠ "lc"
  match if isProperty then binaryCodes? name else none with
  | some codes => .ok codes
  | none =>
    if isProperty ∧ otherProperties.contains name then .error .propertyNotFound
    else if isSurrogateName name then .error .propertyValueNotFound
    else match categoryCodes? name <|> scriptCodes? name with
      | some codes => .ok codes
      | none => .error .propertyNotFound

/-- The code points where a property has a value. -/
def valueCodes (property value : String) : Except Cause CodeSet :=
  let found : Option CodeSet → Except Cause CodeSet
    | some codes => .ok codes
    | none => .error .propertyValueNotFound
  match property with
  | "gc" | "generalcategory" => found (categoryCodes? value)
  | "sc" | "script" => found (scriptCodes? value)
  | "scx" | "scriptextensions" => found (scriptExtensionCodes? value)
  | "age" => found (ageCodes? value)
  | "gcb" | "graphemeclusterbreak" => found (tableCodes? graphemeBreaks value)
  | "wb" | "wordbreak" => found (tableCodes? wordBreaks value)
  | "sb" | "sentencebreak" => found (tableCodes? sentenceBreaks value)
  | _ =>
    if otherProperties.contains property || (findCodes? property binaryProperties).isSome then
      .error .propertyValueNotFound
    else .error .propertyNotFound

/-- The code points that a query asks for. -/
def UnicodeQuery.codes : UnicodeQuery → Except Cause CodeSet
  | .letter c => nameCodes (looseName (String.singleton c))
  | .name n => nameCodes (looseName n)
  | .value p v => valueCodes (looseName p) (looseName v)

/-- The characters that words are made of. -/
def wordCodes : CodeSet :=
  CodeSet.normal (((binaryCodes? "alphabetic").getD []) ++
    ((binaryCodes? "joincontrol").getD []) ++ codesOfCategories [.mn, .mc, .me, .nd, .pc])

/-- Decimal digits. -/
def digitCodes : CodeSet := codesOfCategories [.nd]

/-- White space. -/
def spaceCodes : CodeSet := (binaryCodes? "whitespace").getD []

/-- The characters of a shorthand class. -/
def PerlKind.codes : PerlKind → CodeSet
  | .digit => digitCodes
  | .space => spaceCodes
  | .word => wordCodes

/-- The ASCII characters of a shorthand class. -/
def PerlKind.asciiCodes : PerlKind → CodeSet
  | .digit => AsciiKind.digit.ranges
  | .space => AsciiKind.space.ranges
  | .word => AsciiKind.word.ranges

/-- The word characters, to be searched. -/
def wordRanges : CodeRanges := wordCodes.toRanges

/-- Whether a character belongs to words. -/
def isWordChar (c : Char) : Bool := wordRanges.contains c.toNat

/-- Whether a character is an ASCII letter or digit or the underscore. -/
def isAsciiWordChar (c : Char) : Bool := c.isAlphanum || c = '_'

end RecordRules.Regex
