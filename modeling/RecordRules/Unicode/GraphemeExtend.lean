import RecordRules.Unicode.Ranges

/-! # Characters that extend a grapheme

The Unicode property `Grapheme_Extend`. -/

namespace RecordRules

/-- The code points with the property. -/
def graphemeExtend : CodeRanges := .ofText <|
  String.join ["BDoEhKpgKdBsbabbbbbaCukBwuqaDxgcfcbbdBjaBeBaDnkCgijaydbibcbeBrcChiBqxbBfCdabaeheadgkbBdaCgab",
  "acdiajakbBaacbCfaebebccdaBebdalbCfaeebbeaubwfbaCgabbbdiahckbBeaChabamajaBoadaCdabcfcbdhblbBd",
  "aCgacbbadcbdhblbBcbCfbbacdiajakbBdaCuaeaccbaiaDdacgmhDuacilgCvbBbababaCdnbebbfkbBjjaDydbfbbc",
  "bzbecqdnacbgapaBBbcBKkdBccBdbBebCmbbgiackjaBtcbaEnbBiaEocebjagcIlbcaCgabgbabachgjcaBwBtcludB",
  "wjecBmimbBgdcfCeabbdabeCehcbFwcbmbgeagadbHqClUeaHnBgEOccFlaDsBfVifEbbBSQedbjBgbDcbKmadaeazbf",
  "aFvbBarnaBmhzkbaBscBwacdcbcaBkaCpfcbcbmaiaBvaBzabccbfbbaBqbiaJeacaeaBDZsaBCjpqpOcbXhaIsaFteC",
  "MgcbbfdBoceaGjbWbdCneMfbCzfCskBxdEtaCcoBpacbkcBxdcbhaCjcBkebhCkambCaibaidcaDrccdgacaGbadhvbC",
  "fbbabamajaogdeCpacfbacabcecbaobDhhccbaxaDdacfbacabbbbJbacdgbbbBbbDhhcabbEcabachDxabacdbeJzib",
  "bJlakdeaFodcbeaBgjBofcdiajfccBumbbHqabcbaHtgbfbaDevcgbbbbEsfdabbbgbaCubdabaNjblbCaefcxaHXtag",
  "oQYyldcDSaeChgBOiaCldDdalbBDAxbGYzBtcwUwedfihcgBedFscCYdCceBxiaoaweboCAigbqcgbbbeDwaGegOlaCj",
  "dTodJubJjacahbfaSggEfgBTCAfDrEyJf"]

/-- Whether a character extends the grapheme before it. -/
def isGraphemeExtend (c : Char) : Bool :=
  graphemeExtend.contains c.toNat

end RecordRules
