import RecordRules.Unicode.Ranges

/-! # Simple case folding

Two characters fold together when the Unicode standard gives them the same simple case
folding.  The table lists the classes of characters that fold together: for each class its
size less two, its least code point as the distance from that of the class before, and the
distances between its members. -/

namespace RecordRules
namespace CaseFolding

/-- The classes, as numbers. -/
def classesText : String :=
  String.join ["aCnBgabBgabBgabBgabBgabBgabBgabBgabBgabBgbbBgMKlabBgabBgabBgabBgabBgabBgabBgbbBgKiabBgabBgab",
  "BgabBgabBgabBgabBgbDnBCpBgalBgabBgabBgabBgabBgbbBgMFuabBgabBgabBgabBgabBgabBgabBgabBgabBgabB",
  "gabBgabBgabBgabBgabBgabBgabBgacBgabBgabBgabBgabBgabBgabBgabLGxaBgErabbacbacbacbacbacbacbacba",
  "cbacbacbacbacbacbacbacbacbacbacbacbacbacbacbacbaebacbacbadbacbacbacbacbacbacbacbadbacbacbacb",
  "acbacbacbacbacbacbacbacbacbacbacbacbacbacbacbacbacbacbacbadbacbacbadHnabIcabbacbacHyabbacHxa",
  "bHxabbadDbabHuabHvabbacHxabHzabDtabIdabIbabbacGhabCKYzabIdabIfabFaabIgabbacbacbacIkabbacIkad",
  "bacIkabbacIjabIjabbacbacIlabbaebadCebfbbbdbbbdbbadbacbacbacbacbacbacbacbadbacbacbacbacbacbac",
  "bacbacbbdbbadbaebacbacbacbacbacbacbacbacbacbacbacbacbacbacbacbacbacbacbacbaebacbacbacbacbacb",
  "acbacbacbaiPZfabbadPZcabPZzabPZzabbadCrabCtabbacbacbacbacbacPYtabPYqabPYsakCKPrafCKPnadCKQpa",
  "bCKOeabCKPgaeCKPgabPXfabCKPdafPXlamPWpafCKPfafCKOgawCKNlabCKNicGlDgBgKPxaBrbacbaebafFaabFaab",
  "FaacEmahBmacBlabBlabBlacCmacClabClabKShabBgbbBgBeabBgabBgbbBgCmabBgabBgcbBgzBjbcBgCcabBgacBg",
  "abBgabBgbbBgwbbBgBwbcBfbabBgabBgbbBgpabBgabBgbbBgLDdabBgabBgafKRraBfiajbacbacbacbacbacbacbac",
  "bacbacbacbacbaehafbadbagDcabDcabDcabDcabDcabDcabDcabDcabDcabDcabDcabDcabDcabDcabDcabDcabBgab",
  "BgbbBgJFiabBgbbBgJFhabBgabBgabBgabBgabBgabBgabBgabBgabBgbbBgJEyabBgabBgbbBgJEwcbBgJEwbabBgab",
  "BgabBgabBgabBgabBgabBgbbBgJEqabBgabBgabBgabBgabBgaBxbbcbJDsacbacbacbacbacbacbacbacbacbacbacb",
  "acbacbacbacbakbacbacbacbacbacbacbacbacbacbacbacbacbacbacbacbacbacbacbacbacbacbacbacbacbacbac",
  "bacpabbacbacbacbacbacbacbadbacbacbacbacbacbacbacbacbacbacbacbacbacbacbacbacbacbacbacbacbacba",
  "cbacbacbacbacbacbacbacbacbacbacbacbacbacbacbacbacbacbacbacbacbacbacbacbacbacbadBwabBwabBwabB",
  "wabBwabBwabBwabBwabBwabBwabBwabBwabBwabBwabBwabBwabBwabBwabBwabBwabBwabBwabBwabBwabBwabBwabB",
  "wabBwabBwabBwabBwabBwabBwabBwabBwabBwabBwabBwaEHeKTkabKTkabKTkabKTkabKTkabKTkabKTkabKTkabKTk",
  "abKTkabKTkabKTkabKTkabKTkabKTkabKTkabKTkabKTkabKTkabKTkabKTkabKTkabKTkabKTkabKTkabKTkabKTkab",
  "KTkabKTkabKTkabKTkabKTkabKTkabKTkabKTkabKTkabKTkabKTkacKTkagKTkadELsabELsabELsabELsabELsabEL",
  "sabELsabELsabELsabELsabELsabELsabELsabELsabELsabELsabELsabELsabELsabELsabELsabELsabELsabELsa",
  "bELsabELsabELsabELsabELsabELsabELsabELsabELsabELsabELsabELsabELsabELsabELsabELsabELsabELsabE",
  "LsadELsabELsabELsaZxCFMuabCFMuabCFMuabCFMuabCFMuabCFMuabCFMuabCFMuabCFMuabCFMuabCFMuabCFMuab",
  "CFMuabCFMuabCFMuabCFMuabCFMuabCFMuabCFMuabCFMuabCFMuabCFMuabCFMuabCFMuabCFMuabCFMuabCFMuabCF",
  "MuabCFMuabCFMuabCFMuabCFMuabCFMuabCFMuabCFMuabCFMuabCFMuabCFMuabCFMuabCFMuabCFMuabCFMuabCFMu",
  "abCFMuabCFMuabCFMuabCFMuabCFMuabCFMuabCFMuabCFMuabCFMuabCFMuabCFMuabCFMuabCFMuabCFMuabCFMuab",
  "CFMuabCFMuabCFMuabCFMuabCFMuabCFMuabCFMuabCFMuabCFMuabCFMuabCFMuabCFMuabCFMuabCFMuabCFMuabCF",
  "MuabCFMuabCFMuabCFMuabCFMuabCFMuabCFMuabiabiabiabiabiabibDGlCAEkbabbaJgCAGyaeFQsarCAIyaEkbac",
  "bacbacbacbacbacbacbacbacbacbacbacbacbacbacbacbacbacbacbacbacbacbacbacbacbacbacbacbacbacbacba",
  "cbacbacbacbacbacbacbacbacbacbacbacbacbacbacbacbbcbCgacbacbacbacbacbacbacbacbacbacbacbacbacba",
  "cbacbacbacbacbacbacbacbacbacbacbacbacbambacbacbacbacbacbacbacbacbacbacbacbacbacbacbacbacbacb",
  "acbacbacbacbacbacbacbacbacbacbacbacbacbacbacbacbacbacbacbacbacbacbacbacbacbacbacbacbacbacbac",
  "iabiabiabiabiabiabiabiajiabiabiabiabiabialiabiabiabiabiabiabiabiajiabiabiabiabiabiabiabiajia",
  "biabiabiabiabiamiaciaciaciajiabiabiabiabiabiabiabiajCwabCwabDiabDiabDiabDiabDwabDwabEyabEyab",
  "EiabEiabEwabEwadiabiabiabiabiabiabiabiajiabiabiabiabiabiabiabiajiabiabiabiabiabiabiabiajiabi",
  "acjaqjaniabiapiabiaehaojaMhBcaBuqabqabqabqabqabqabqabqabqabqabqabqabqabqabqabqaubaBFnBaabBaa",
  "bBaabBaabBaabBaabBaabBaabBaabBaabBaabBaabBaabBaabBaabBaabBaabBaabBaabBaabBaabBaabBaabBaabBaa",
  "bBaaCSvBwabBwabBwabBwabBwabBwabBwabBwabBwabBwabBwabBwabBwabBwabBwabBwabBwabBwabBwabBwabBwabB",
  "wabBwabBwabBwabBwabBwabBwabBwabBwabBwabBwabBwabBwabBwabBwabBwabBwabBwabBwabBwabBwabBwabBwabB",
  "wabBwabBwabBwaBxbahbacbacbahbadbalbacbacbacbacbacbacbacbacbacbacbacbacbacbacbacbacbacbacbacb",
  "acbacbacbacbacbacbacbacbacbacbacbacbacbacbacbacbacbacbacbacbacbacbacbacbacbacbacbacbacbacbaj",
  "bacbafbaBTYkbacbacbacbacbaebacbacbacbacbacbacbacbacbacbacbacbacbacbacbacbacbaubacbacbacbacba",
  "cbacbacbacbacbacbacbacbacbaFgbacbacbacbacbacbacbaebacbacbacbacbacbacbacbacbacbacbacbacbacbac",
  "bacbacbacbacbacbacbacbacbacbacbacbacbacbacbacbacbalbacbadbacbacbacbacbafbafbacbacBwacbacbacb",
  "acbacbacbacbacbacbacbalBJsabbacbacbacbacbacbacbacbafbacbadbacbacbacbacbacbacbacbaBbbaBFLwbaB",
  "OmBgabBgabBgabBgabBgabBgabBgabBgabBgabBgabBgabBgabBgabBgabBgabBgabBgabBgabBgabBgabBgabBgabBg",
  "abBgabBgabBgaBVaBoabBoabBoabBoabBoabBoabBoabBoabBoabBoabBoabBoabBoabBoabBoabBoabBoabBoabBoab",
  "BoabBoabBoabBoabBoabBoabBoabBoabBoabBoabBoabBoabBoabBoabBoabBoabBoabBoabBoabBoabBoaFhBoabBoa",
  "bBoabBoabBoabBoabBoabBoabBoabBoabBoabBoabBoabBoabBoabBoabBoabBoabBoabBoabBoabBoabBoabBoabBoa",
  "bBoabBoabBoabBoabBoabBoabBoabBoabBoabBoabBoaGbBnabBnabBnabBnabBnabBnabBnabBnabBnabBnabBnacBn",
  "abBnabBnabBnabBnabBnabBnabBnabBnabBnabBnabBnabBnabBnabBnacBnabBnabBnabBnabBnabBnabBnacBnabBn",
  "aCQdCmabCmabCmabCmabCmabCmabCmabCmabCmabCmabCmabCmabCmabCmabCmabCmabCmabCmabCmabCmabCmabCmab",
  "CmabCmabCmabCmabCmabCmabCmabCmabCmabCmabCmabCmabCmabCmabCmabCmabCmabCmabCmabCmabCmabCmabCmab",
  "CmabCmabCmabCmabCmabCmaGcBgabBgabBgabBgabBgabBgabBgabBgabBgabBgabBgabBgabBgabBgabBgabBgabBga",
  "bBgabBgabBgabBgabBgaEGpBgabBgabBgabBgabBgabBgabBgabBgabBgabBgabBgabBgabBgabBgabBgabBgabBgabB",
  "gabBgabBgabBgabBgabBgabBgabBgabBgabBgabBgabBgabBgabBgabBgaBGJxBgabBgabBgabBgabBgabBgabBgabBg",
  "abBgabBgabBgabBgabBgabBgabBgabBgabBgabBgabBgabBgabBgabBgabBgabBgabBgabBgabBgabBgabBgabBgabBg",
  "abBgaCnBbabBbabBbabBbabBbabBbabBbabBbabBbabBbabBbabBbabBbabBbabBbabBbabBbabBbabBbabBbabBbabB",
  "babBbabBbabBbaBUIaBiabBiabBiabBiabBiabBiabBiabBiabBiabBiabBiabBiabBiabBiabBiabBiabBiabBiabBi",
  "abBiabBiabBiabBiabBiabBiabBiabBiabBiabBiabBiabBiabBiabBiabBi"]

/-- The members after one of a class, from their distances; `size` of them. -/
def membersFrom : Nat → Nat → List Nat → List Nat × List Nat
  | 0, _, rest => ([], rest)
  | _ + 1, _, [] => ([], [])
  | size + 1, last, d :: rest =>
    let (more, rest) := membersFrom size (last + d) rest
    ((last + d) :: more, rest)

/-- The classes that numbers describe; `last` is the least member of the class before. -/
def classesFrom : Nat → Nat → List Nat → List (List Nat)
  | 0, _, _ => []
  | fuel + 1, last, size :: d :: rest =>
    let first := last + d
    let (more, rest) := membersFrom (size + 1) first rest
    (first :: more) :: classesFrom fuel first rest
  | _ + 1, _, _ => []

/-- Each character that folds together with others, with those others, ascending. -/
def entries : Array (Nat × List Nat) :=
  let numbers := BaseLetters.decode classesText
  let classes := classesFrom numbers.length 0 numbers
  let pairs := classes.flatMap fun members =>
    members.map fun n => (n, members.filter (· ≠ n))
  (pairs.mergeSort fun a b => a.1 ≤ b.1).toArray

/-- Searches a table of entries from `lo` to below `hi`. -/
def search (table : Array (Nat × List Nat)) (n : Nat) : Nat → Nat → Nat → List Nat
  | 0, _, _ => []
  | fuel + 1, lo, hi =>
    if hi ≤ lo then []
    else
      let mid := (lo + hi) / 2
      match table[mid]? with
      | none => []
      | some (m, others) =>
        if n < m then search table n fuel lo mid
        else if m < n then search table n fuel (mid + 1) hi
        else others

/-- The other code points that fold together with one. -/
def others (n : Nat) : List Nat :=
  search entries n (entries.size + 1) 0 entries.size

end CaseFolding

/-- Whether two characters are equal up to simple case folding. -/
def foldsTogether (a b : Char) : Bool :=
  a = b || (CaseFolding.others a.toNat).contains b.toNat

end RecordRules
