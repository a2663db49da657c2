import RecordRules.Unicode.Property

/-! # Lower case

The lower-case form of a text by the full mappings of the Unicode standard.  One character has
a form of two, and a sigma at the end of a word has a form of its own.

* `Lowercase.ofText`   the lower-case form of a text -/

namespace RecordRules
namespace Lowercase

/-- Runs of code points with a lower-case form of one code point, as numbers: the distance of a
    run's first code point from that of the run before, twice the length less one (one more if the
    run takes every other code point), and how far the forms are away: twice the distance upwards,
    or twice the distance downwards less one. -/
def runsText : String :=
  String.join ["CnByCmExBsCmymCmBoBvcByfchpcrBtcBuaJhbfciaQebdceaPwbacccPucacdaGcbaPobaPqbaccaPubaPycaQgbaQc",
  "baceaQgbaQkcaQmbfcgaQubaccaQudaccaQubacccQscdceaQwbaceaciaebaccaebaccaebrctrctaebdceaHlbaEhb",
  "BncBoaJzcrcyaBFYkbaccaMnbaBFYedaccaOzbaFibaFmbjcLmdcgacjaIyhaCyceCweaEyccEwdBgCmsqCmBsaqjxcB",
  "caEpdaccanbacdeJzdBeGeqCkCmDcBhcBqCbcCcaBebncpDrcDtCwDsEIpCwVMuBnaVMugaVMuBBvGcEKZoDckqDGrac",
  "hDgIXjBteIXjMlFtcGcaWNtcDrcEaopqkpqopqopqkprhppopBgopqopqopqcpccFrcarmgGpearmcpccHrocpccIpca",
  "nmcJvccJrcarLmaWGfeaYUvbaYLnhaCeBuBeBgBjacBFnByCaCTuDqDsDsaccaBFUjbaLHjbaBFTddfcgaBFXfbaBFUv",
  "baBFXlbaBFXjcacdacjcBFZxcDvcEddchacBTYkBtcCmBbcGgncqCjcCtdceaEANvbjcnaccaEVChddcgtcuaEVElbaE",
  "VFhbaEVEzbaEVEfbaEVElcaEVApbaEVClbaEVAvbaCTkbpcqaDrbaEVEjbaEARvbdceaEVHdbpcqaEVXxzacBHAiByCm",
  "BVzDaDcGuCsDcHkuDamBcDaqmDaicDaCQeDwEyIaBqCmEHkCkCmBGLcCkCmDsBwCcBUIyCoCq"]

/-- Code points that lie equally far from their lower-case forms. -/
structure Run where
  first : Nat
  last : Nat
  step : Nat
  offset : Int
  deriving Inhabited

/-- The runs that numbers describe; `fuel` bounds their number. -/
def runsFrom : Nat → Nat → List Nat → List Run
  | fuel + 1, before, gap :: shape :: move :: rest =>
    let first := before + gap
    let step := shape % 2 + 1
    let offset : Int := if move % 2 = 0 then (move / 2 : Nat) else -((move / 2 + 1 : Nat) : Int)
    ⟨first, first + shape / 2 * step, step, offset⟩ :: runsFrom fuel first rest
  | _, _, _ => []

/-- The runs, ascending. -/
def runs : Array Run :=
  let numbers := BaseLetters.decode runsText
  (runsFrom numbers.length 0 numbers).toArray

/-- The last of some ascending runs, from `lo` to below `hi`, that begins at or before a code
    point; `best` is one that does. -/
def searchRun (runs : Array Run) (n : Nat) : Nat → Option Run → Nat → Nat → Option Run
  | 0, best, _, _ => best
  | fuel + 1, best, lo, hi =>
    if hi ≤ lo then best
    else
      let mid := (lo + hi) / 2
      match runs[mid]? with
      | none => best
      | some run =>
        if run.first ≤ n then searchRun runs n fuel (some run) (mid + 1) hi
        else searchRun runs n fuel best lo mid

/-- The lower-case form of a character, wherever it stands. -/
def ofChar (c : Char) : List Char :=
  if c = '\u0130' then ['i', '\u0307']
  else match searchRun runs c.toNat (runs.size + 1) none 0 runs.size with
    | some run =>
      if c.toNat ≤ run.last ∧ (c.toNat - run.first) % run.step = 0 then
        [Char.ofNat ((c.toNat : Int) + run.offset).toNat]
      else [c]
    | none => [c]

/-- Letters that have case. -/
def cased : CodeRanges :=
  .ofText ((findCodes? "cased" binaryProperties).getD "")

/-- Characters that are looked through when a sigma looks for its word. -/
def caseIgnorable : CodeRanges :=
  .ofText ((findCodes? "caseignorable" binaryProperties).getD "")

/-- Whether the first character that counts is a letter that has case. -/
def meetsCased (cs : List Char) : Bool :=
  match cs.dropWhile fun c => caseIgnorable.contains c.toNat with
  | c :: _ => cased.contains c.toNat
  | [] => false

/-- The lower-case form of characters that come after others, which are given last first. -/
def fromChars (before : List Char) : List Char → List Char
  | [] => []
  | c :: rest =>
    (if c = 'Σ' then
      if meetsCased before && !meetsCased rest then ['ς'] else ['σ']
    else ofChar c) ++ fromChars (c :: before) rest

/-- The lower-case form of a text. -/
def ofText (s : String) : String :=
  String.ofList (fromChars [] s.toList)

end Lowercase
end RecordRules
