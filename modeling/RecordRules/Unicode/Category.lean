import RecordRules.Unicode.Ranges

/-! # General categories

The Unicode property `General_Category`: every code point has exactly one of thirty
categories.  The table lists runs of code points from zero on, each with its length less one
and the place of its category in `GeneralCategory.all`. -/

namespace RecordRules

/-- A general category, by its two-letter name in the standard. -/
inductive GeneralCategory where
  | lu
  | ll
  | lt
  | lm
  | lo
  | mn
  | mc
  | me
  | nd
  | nl
  | no
  | pc
  | pd
  | ps
  | pe
  | pi
  | pf
  | po
  | sm
  | sc
  | sk
  | so
  | zs
  | zl
  | zp
  | cc
  | cf
  | cs
  | co
  | cn
  deriving DecidableEq, Repr, Inhabited

namespace GeneralCategory

/-- The categories in the order of the table. -/
def all : Array GeneralCategory :=
  #[.lu, .ll, .lt, .lm, .lo, .mn, .mc, .me, .nd, .nl, .no, .pc, .pd, .ps, .pe, .pi, .pf, .po, .sm, .sc, .sk, .so, .zs, .zl, .zp, .cc, .cf, .cs, .co, .cn]

/-- Runs of code points, as length less one and category. -/
def runsText : String :=
  String.join ["BfzawcratcranaoarasarambrjibrcsbrzaanaraoaualauzbanasaoasBgzawardtavarauavaeapasaBaavauavasb",
  "kauabbrauakaeaqckarwaasgaxbashbaaabaaabaaabaaabaaabaaabaaabaaabaaabaaabaaabaaabaaabaaabaaaba",
  "aabaaabaaabaaabaaabaaabaaabaaabaaabaaabaaabaaabaabbaaabaaabaaabaaabaaabaaabaaabaabbaaabaaaba",
  "aabaaabaaabaaabaaabaaabaaabaaabaaabaaabaaabaaabaaabaaabaaabaaabaaabaaabaaabaaabaaabbaabaaaba",
  "acbbaabaaabbaabcabbdaabbaabcacbbaabbaabaaabaaabbaabaabbaaabbaabcaabaaabbabbaeaacbdeaaacabaaa",
  "cabaaacabaaabaaabaaabaaabaaabaaabaaabaabbaaabaaabaaabaaabaaabaaabaaabaaabaabbaaacabaaabcaaba",
  "aabaaabaaabaaabaaabaaabaaabaaabaaabaaabaaabaaabaaabaaabaaabaaabaaabaaabaaabaaabaaabaaabaaaba",
  "aabaaabaaabaaabaaabaagbbaabbabbaaabdaabaaabaaabaaabaaCqbbezbrdduldnuedguadauadquEhfaaabaaaba",
  "dauaaabbBdadcbaraadBdbuaaarcaaBdaaaBdbaabqaaBdiaBibaabbcacbaaabaaabaaabaaabaaabaaabaaabaaaba",
  "aabaaabaaabaaebaaabasaaabbabbByaBvbaaabaaabaaabaaabaaabaaabaaabaaabaaabaaabaaabaaabaaabaaaba",
  "aabaaabaaabavefbhaaabaaabaaabaaabaaabaaabaaabaaabaaabaaabaaabaaabaaabaaabaaabaaabaaabaaabaaa",
  "baaabaaabaaabaaabaaabaaabaaabaaabbaabaaabaaabaaabaaabaaabaabbaaabaaabaaabaaabaaabaaabaaabaaa",
  "baaabaaabaaabaaabaaabaaabaaabaaabaaabaaabaaabaaabaaabaaabaaabaaabaaabaaabaaabaaabaaabaaabaaa",
  "baaabaaabaaabaaabaaabaaabaaabaaabaaabaaabaaabaaabaaabaaabaaabaaabaaabaBdBlabBdadfrBobarambBd",
  "bvataBdBsfamafarbfarbfarafhBdBaedBddebrkBdfBacsbratbrbvkfaraBacrBfeadjeufjidrbeafDuearaegfaB",
  "aavffbdbfavdfbejicebvaenraBdaBaaeafBdeBafbBdDkekfaenBdjiBgeifbdavcradbBdafbtvedfadifadcfadef",
  "bBdoraBdyecfbBdaraBdkeeBdxeaugebBaeBdifBoeadxfaBaBffagCbeafagafaecghfdgafbgaegfjebfbrjiarado",
  "eafbgaBdhebBdbebBdveaBdgeaBdaecBddebBdafaecgdfbBdbgbBdbgafaehBdagdBdbeaBdcebfbBdjibebtfkavat",
  "aearafbBdbfagaBdfedBdbebBdveaBdgeaBdbeaBdbeaBdbebBdafaBdcgbfdBdbfbBdcfcBdafgBddeaBdaegBdjibf",
  "ceafarjBdbfagaBdieaBdceaBdveaBdgeaBdbeaBdeebBdafaecgefaBdbfagaBdbgafbBdaeoBdbebfbBdjiaratgBd",
  "aeffaBdafbgaBdhebBdbebBdveaBdgeaBdbeaBdeebBdafaeagafagdfbBdbgbBdbgafgBdbfagdBdbeaBdcebfbBdji",
  "avaefkjBdafaeaBdfecBdceaBddecBdbeaBdaeaBdbecBdbecBdcecBdledBdbgafbgcBdcgaBdcgafbBdaefBdagnBd",
  "jickfvataveBdafcgafheaBdceaBdweaBdpebBdafaecfdgaBdcfaBddfgBdbfaBdceaBdbebBdbebfbBdjigBdargka",
  "vaeafbgarheaBdceaBdweaBdjeaBdeebBdafaeagafegaBdafbgaBdbgbfgBdbgeBdceaBdbebfbBdjiaBdbeaglBdbf",
  "bgieaBdceaBdBoebfaecgdfaBdcgaBdcgafaeavdBdceaggkcebfbBdjiikavfeaBdafbgaBdrecBdxeaBdieaBdaebB",
  "dgecBdafdBdcgcfaBdafaBdhgfBdjibBdbgarlBdBveafbegfdBdatfeadhfarjibrBkBdbeaBdaeaBdeeaBdxeaBdae",
  "aBdjeafbeifaebBdeeaBdadaBdgfaBdjibBddeBfBdaecvoravarcvbffvjijkavafavafavafanaoanaobgheaBdBje",
  "dBdnfagefarbfeekfaBdBjfaBdhvaffvaBdbverdvbrBkBdBqebgdfagffagbfbgbfaejifrfebgbfdecfaecgbeggce",
  "dfmeafbgbffgafaeagjicgafbvBlaaBdaaeBdaabBdBqbaradcbMqeaBddebBdgeaBdaeaBddebBdBoeaBddebBdBgea",
  "BddebBdgeaBdaeaBddebBdoeaBdCeeaBddebBdCoebBdcfirtkcBdpejvfBdDhabBdfbbBdamXveavarqeawzeanaocB",
  "dCwecrcjhegBdrecfagiBdsebfagbriBdrebflBdmeaBdceaBdbflBdBzebfaggfhgafbgkfcradcrataeafbBdjifBd",
  "jkfBdframdrcfaBaafjifBdBieadCaegBdeebfBheafaeeBdCrejBdBeeaBdcfdgbfcgdBdbgaffgcfdBdavcBdbrjiB",
  "debBdeekBdBredBdzefBdjiakcBdBhvwebfbgafbBdbrCaeagafaggfaBdafagafbghffgjfbBdafjifBdjifBdgradf",
  "rbBdnfahBefbBdlftBddfagBueafagefagafegafbgheaBdbrjigrjvifivcrbfagBdeagdfbgbfagcfbejiBreafagb",
  "fcgafagcfbghBddrBjehghfbgbfcBderjicBdcejiBdefdbribaaabeBdBqabBdcahrhBdcfarmfaggfdeaffeafbeag",
  "bfaeeBdBrbCkdmbadBhbBkdClfaaabaaabaaabaaabaaabaaabaaabaaabaaabaaabaaabaaabaaabaaabaaabaaabaa",
  "abaaabaaabaaabaaabaaabaaabaaabaaabaaabaaabaaabaaabaaabaaabaaabaaabaaabaaabaaabaaabaaabaaabaa",
  "abaaabaaabaaabaaabaaabaaabaaabaaabaaabaaabaaabaaabaaabaaabaaabaaabaaabaaabaaabaaabaaabaaabaa",
  "abaaabaaabaaabaaabaaabaaabaaabaaabaaabaaabaaabaaibaaabaaabaaabaaabaaabaaabaaabaaabaaabaaabaa",
  "abaaabaaabaaabaaabaaabaaabaaabaaabaaabaaabaaabaaabaaabaaabaaabaaabaaabaaabaaabaaabaaabaaabaa",
  "abaaabaaabaaabaaabaaabaaabaaabaaabaaabaaabaaabaaabaaabaaabaaibhafbbBdfabBdhbhahbhafbbBdfabBd",
  "hbaBdaaaBdaaaBdaaaBdaahbhanbbBdhbhchbhchbhcebaBdbbdaacauabcucbaBdbbdaaccudbbBdbbdaaBdcuhbeac",
  "ubBdcbaBdbbdaacbuaBdkweBafmbrapaqanbpaqanaphraxayeBaawirapaqdrblcrasanaokrasaraljraweBaaBdjB",
  "aakadbBdfkcsanaoadjkcsanaoaBdmdcBdBhtnBdmfdhafchlfoBdbvaadvaabvabcabbcaabavaabvaseafvaaavaaa",
  "vaaavdaavabdaabdeabbvbbbaesaadbavasbvabavpkBijaaabdjakbvdBdesevbsdvasbvasbvasgvasBevbsbvasav",
  "asBevKhshvanaoanaotvbsgvanaoDcvasBdvysBnvfsCtvvBdkvuBdChkCzvvkHavasivasCbvhsEgvasJnvanaoanao",
  "anaoanaoanaoanaoanaoBdkBrvesanaoBesanaoanaoanaoanaoanaopsJvvFasanaoanaoanaoanaoanaoanaoanaoa",
  "naoanaoanaoanaoCksanaoanaoBfsanaoJxsBvvusbvfsBmvbBdFhvBvaBvbaaabcabbaaabaaabaaabdaabaabbaafb",
  "bdcaabaaabaaabaaabaaabaaabaaabaaabaaabaaabaaabaaabaaabaaabaaabaaabaaabaaabaaabaaabaaabaaabaa",
  "abaaabaaabaaabaaabaaabaaabaaabaaabaaabaaabaaabaaabaaabaaabaaabaaabaaabaaabaaabaaabaaabaaabaa",
  "abaaabaaabaaabaabbfvaaabaaabcfaaabeBddrakbrBlbaBdabeBdabbBdCdegBdadarnBdafweiBdgeaBdgeaBdgea",
  "BdgeaBdgeaBdgeaBdgeaBdgeaBdBffbrapaqapaqcrapaqarapaqirambramarapaqbrapaqanaoanaoanaoanaoerad",
  "jrbmdramaranmrbvcranaoanaoanaoanaoamBhBdzvaBdDkvlBdIfvzBdpvawcravadaeajanaoanaoanaoanaoanaob",
  "vanaoanaoanaoanaoamanboavijdfbgamedbvcjadaearbvaBdDhebBdbfbubdaeamDlearcdaeeBdBqeaBdDpeaBdbv",
  "dkjvBfeBlviBdavpeBevaBdjkBdvhkavokBfvjkBmvokMhvJTneClvBFCeeadBRyecBdCcviBdBnefdbrKheadcrpeji",
  "betBdaaabaaabaaabaaabaaabaaabaaabaaabaaabaaabaaabaaabaaabaaabaaabaaabaaabaaabaaabaaabaaabaaa",
  "baaabaeafcharjfaradaaabaaabaaabaaabaaabaaabaaabaaabaaabaaabaaabaaabaaabaaabbdbfCrejjbffrhBdw",
  "uidbuaaabaaabaaabaaabaaabaaabaacbaaabaaabaaabaaabaaabaaabaaabaaabaaabaaabaaabaaabaaabaaabaaa",
  "baaabaaabaaabaaabaaabaaabaaabaaabaaabaaabaaabaaabaaabaaabaaabaaabadhbaaabaaabbaabaaabaaabaaa",
  "baaabadbuaaabaaabaeaaabaacbaaabaaabaaabaaabaaabaaabaaabaaabaaabaaabeaabeaabaaabaaabaaabaaaba",
  "aabaaabaaabdaabaaabbaabaaabaaabaaabaaabaaabaaabaaabaatBdddaaabaebdabgeafceafdeafwebgbfagdvaf",
  "cBdfkbvatavfBdBzedrhBdbgBxepgbfhBdbrjifBdrffecraearbeafjiBbehfbrwekfbgkBdarBcecBdcfagBueafbg",
  "dfbgbfcgmraBdadjidBdbreeafadiejieeaBdBoeffbgbfbgbfiBdceafheafagbBdjibBddrpeadfecvaeagafagBxe",
  "afaecfbebfeebfaeafaexBdbeadbrkeagbfbgbraebdagafjBdfebBdfebBdfeiBdgeaBdgeaBdBqbauddibadbudBdD",
  "bbBiebgafbgafbgaragafbBdjifBdQNrelBdwedBdBwedBdDAtBbJMdBcObebBdEbeBlBdgblBdebeBdaeafjeasmeaB",
  "deeaBdaeaBdbeaBdbeaBdEdequpvNyeaoanpvClebvCbehvBfBdleatcvpfgranaoarfBdpfarbmblanaoanaoanaoan",
  "aoanaoanaoanaoanaobranaodrclcraBddramanaoanaoanaocrasamcsaBdaratbrdBdeeaBdFeebBdaBaaBdcratcr",
  "anaoarasarambrjibrcsbrzaanaraoaualauzbanasaoasanaoaranaobrjeadBsebdBeecBdfebBdfebBdfebBdcecB",
  "dbtasauavbtaBdavdsbvjBdcBabvbBdleaBdzeaBdseaBdbeaBdoebBdneBhBdEseeBdcrdBdBskcBdivCajdkqvbkcv",
  "aBdmvcBdavBuBdBsvafEzBdBcecBdBweoBdafBakdBdBfedkiBdteajheajeBdBleefeBdBdeaBdarBjedBdhearejBp",
  "BdBnaBnbCzebBdjifBdBjadBdBjbdBdBnehBdBzekBdarkaaBdoaaBdgaaBdbaaBdkbaBdobaBdgbaBdbbcBdBzelBdL",
  "yeiBdvejBdhexBdfdaBdBpdaBdidCqBdfebBdaeaBdBreaBdbecBdaebBdweaBdarhkwebvgkBeehBdikBvBdseaBdbe",
  "eBdekvefkcBdarzeeBdarzeBlBdCdedBdbkbepkbBdBtkaecfaBdbfeBddfdeaBdceaBdBcebBdcfdBdafikgBdirgBd",
  "BcebkarBceckBfBdheavBbebfdBdekgriBdCbecBdgrvebBdhkseeBdhkregBddrlBdgkDbBdCueCcBdByamBdBybgBd",
  "fkBjedfhBdjifBdjideadaevacBdefamadvbhBdbsHzBdBekaBdBpeaBdbfambBdbepBdceadbehBdarhvBgBdffBcej",
  "kaehBdvekfdkervBdredfdrBlBduegktBdweiBdagafagCaeofgrdBdtkjiafbebfaeiBdcfagBsecgdfbgbfbraBadr",
  "afjBdaBabBdyegBdjifBdcfBjeefaghfaBdjidraebgaehBdBieafbraeiBdbfagBvecgifbgdedrdfaragafjiaeara",
  "ecraBdtkkBdreaBdyecgcfbgafagbffrafbeafCjBdgeaBdaeaBddeaBdoeaBdjearfBdBueafcghfeBdjifBdbfbgaB",
  "dhebBdbebBdveaBdgeaBdbeaBdeeaBdbfaebgafdgbBdbgbBdcgbBdaefBdageBdeebgbBdgfcBdefkBdjeaBdaebBda",
  "eaBdBleaBdaecgffaBdagbBdagaBddgaBdbgafagafaeafaebraBdbrhBdbfBcBdCaecghfbgcfagafdeerjibraBdar",
  "afceBdBdBvecgffagafdgbfagbfbearaehBdjiGjBdBuecgdfbBddgbfagbfwrdebfBhBdBvecghfbgafagbfcraekBd",
  "jifBdmrsBdBqeafagafbgffagafaearfBdjifBdtiBbBdBaebBdafagafbgdfagefdBdjibkcravgeHcBdBrecgifagb",
  "farDvBdBfaBfbjiiklBdhebBdaebBdheaBdbeaBdxefgaBdbgbBdbfagafaeagaeagafcriBdjiCrBdhebBdBmecgdfb",
  "BdbfdgafaearaeagBaBdaejfBneffagaedfhrafhBdaeffbgcfBtemfagbfcraeermBdCuegBdjrDhBdafagcfagafag",
  "DjBdBgearnBdjifBdieaBdBkeaggfaBdffagafaeerjBdjiskcBdbrBdebBdvfaBdaggfagbfagbfCuBdgeaBdbeaBdB",
  "leffcBdafaBdbfaBdgfaeafhBdjifBdfeaBdbeaBdBfeegaBdbfaBdbgafagafaegBdjifBdBoeadbedBdjiJlBdsebf",
  "bgbrgBdbfaeagmeaBdBhebgefcBdbgafagafmrjiafDgBdaeoBdukhvdtqvmBdarBJleDxBdEgjaBderkBdHneDXjBdD",
  "sebrmBdBPfepBaaffeofjBdFXqeeBdWkeKDcBdBdelfcgcfjiCOrBdVwegBdBeeaBdjidBdbrDaeaBdjifBdBdebBdef",
  "arjBdBvegferdvddaravjBdjiaBdgkaBdueeBdseQpBdcdBnebdcrjiHpBdBfaBfbwkdreBdyabBdybBrBdCwedBdafa",
  "eCcggBddfmdClBdbdaradafkBdbgbdcjiBdKXxeBoBdBfeDsBdEkeMWqBdddaBdgdaBdbdaBdLeeoBdaeBcBdcebBdae",
  "nBddehBdPfeDKtBdEceeBdmecBdiegBdjebBdavbfardBaFVfBdJfvjicvcBdQtvfBdwvoBdpvasoBdBtfbBdwfiBdEl",
  "vChBdJlvjBdBmvbBdChvbgcfcvfghBahfbvgfBdvdfCivuBdCnvcfavErBdtklBdtklBdDiviBdykFeBdzazbzagbaBd",
  "rbzazbaaaBdbabBdaabBdbabBddaaBdhadbaBdabaBdgbaBdkbzazbbaaBddabBdhaaBdgaaBdzbbaaBddaaBdeaaBda",
  "acBdgaaBdzbzazbzazbzazbzazbzazbzaBbbbBdyaasybasfbyaasybasfbyaasybasfbyaasybasfbyaasybasfbaaa",
  "bbBdBxiTrvCcfdvBxfhvafnvafbveroBdefaBdofBQlBdjbaetbfBdfbIeBdgfaBdqfbBdgfaBdbfaBdefeBdCjdBgBd",
  "afEhBdBsecBdgfgdbBdjidBdaeavMhBdBdeafqBdBredfjieBdatRvBdBaeaddfjiIfBdBdebfaejidBdarHjBdBeeaB",
  "dceafbeafgebfeeafhBdaeadIpBdgeaBddeaBdbeaBdoeaBdHoebBdikgfBoBdBhaBhbgfaddBdjidBdbrBEeBdCgkav",
  "ckatdkCxBdBskavokHlBddeaBdBaeaBdbeaBdaebBdaeaBdjeaBddeaBdaeaBdaefBdaedBdaeaBdaeaBdaeaBdceaBd",
  "beaBdaebBdaeaBdaeaBdaeaBdaeaBdaeaBdbeaBdaebBddeaBdgeaBddeaBddeaBdaeaBdjeaBdqeeBdceaBdeeaBdqe",
  "BzBdbsKjBdBrvdBdDvvlBdovbBdovaBdovaBdBkvjBdmkGevCdBdBcvmBdBrvdBdivgBdbvnBdfvFxBdJqveuBCavcBd",
  "qvcBdmvcBdIjvfBdlvdBdavoBdlvdBdCdvhBdjvfBdBnvhBdBdvbBdlvdBdbvnBdisBmBdNfvhBdnvbBdmvcBdkvcBdC",
  "evaBdavdBdpvbBdlvdBdjvgBdFqvaBdDnvjiavBNoBdCLFbeBfBdGMnebBdIObebBdLBkeoBdXxeDQvBdUveCFxBdHHy",
  "eeBdMOneBOGOcBdaBaBdBdDrBaExBdJffDSFnBdDSYnBcbBdDSYnBcbBd"]

/-- Runs from a code point on, as first and last code point and category. -/
def runsFrom (next : Nat) : List (Nat × Nat) → List (Nat × Nat × GeneralCategory)
  | [] => []
  | (length, i) :: rest =>
    (next, next + length, all.getD i .cn) :: runsFrom (next + length + 1) rest

/-- Every code point in one run. -/
def runs : Array (Nat × Nat × GeneralCategory) :=
  (runsFrom 0 (BaseLetters.pairs (BaseLetters.decode runsText))).toArray

/-- Searches the runs from `low` to below `high`. -/
def search (n : Nat) : Nat → Nat → Nat → GeneralCategory
  | 0, _, _ => .cn
  | fuel + 1, low, high =>
    if high ≤ low then .cn
    else
      let mid := (low + high) / 2
      match runs[mid]? with
      | none => .cn
      | some (first, last, category) =>
        if n < first then search n fuel low mid
        else if last < n then search n fuel (mid + 1) high
        else category

/-- The category of a code point. -/
def ofCode (n : Nat) : GeneralCategory :=
  search n (runs.size + 1) 0 runs.size

/-- The code points of the categories that satisfy a predicate; touching runs stay apart. -/
def codes (p : GeneralCategory → Bool) : List (Nat × Nat) :=
  runs.toList.filterMap fun (first, last, category) =>
    if p category then some (first, last) else none

end GeneralCategory
end RecordRules
