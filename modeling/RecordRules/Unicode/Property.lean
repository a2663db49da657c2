import RecordRules.Unicode.Category

/-! # Binary properties of code points

For each binary property of the Unicode standard that a pattern can name: its names, in
lower case and without separators, and the code points that have it, written as
`CodeRanges.ofText` reads them. -/

namespace RecordRules

/-- Binary properties. -/
def binaryProperties : List (List String × String) :=
  [(["asciihexdigit", "ahex"],
     "BwjhfBaf"),
   (["alphabetic", "alpha"],
     String.join ["CnzgzBvakaeafwbBebRpeloehabaDiaBdrbbcdbagabcbabtbDebFiiGjbBlcagBoBnnbabbbbbaiBaedBdkfCdbgoDx",
      "bheheckccaqBvnDwyBgjbeafxcstyhkfxbghaiBpkldggCxbpbceonsbhcbcvbgbadddhcbcbbaiaebbembkaecbfebc",
      "vbgbbbbbbeeebcbeahdbarflcbibcbvbgbbbedibcbbdapdvdecbhcbcvbgbbbedhcbcbjbebbenaqbbfdcbddbbabbd",
      "bdcdleedcbcdagaBombcbwbpdhbcbcibbcbbcdBcdbhbcbwbjbedhbcbcibfcbdncmmbcbBochbcbcbafdhewfbcbrdx",
      "bibacgifbabhsbnCffggaBzbbabebxbabsbccebagaodBgaClhbBjesepbBjCpCcbaceqClkdcBlbafacBqbMubdcgba",
      "bdcBobdcBgbdcgbabdcobCebdcCoBlpqDhcfdXvcqbzfCwdkhtlumtmmbcbbmBzcsoaeaCpDkhBqfCrkBebleixBdcel",
      "BrezCcBbeCkctByaxblcBxBzbobhBzBpcdkBrbkoCcwckBjckfBqccBpdbfbbdafHjtBhlKrcfcBlcfchbabababBecC",
      "abgbadcbgddcfemfcbgEmanaqmDxaeacjbadegabababdbkcdfeearBoBFhBzCRuIugddbmBlbafacCdhaqwjgbgbgbg",
      "bgbgbgbgbBfBvaSbcziheceeDhgcbDlbdfBqbDprBfBwpTsJTnCmBGUeCpBtcKidpkbuBufhdEiBnicDycDduubBgyBz",
      "mCpbaBsfdabckBgfBinBcdByblpaqpkebCcjnswdCqbabayccpcdlfcfcfjgbgbBqbngEsvQNrmweBwMNcObcEbBmgme",
      "flbmbebabbbbbEdBhNysClcCbBolEmebFeBkzgzlDkdfcfcfccBjlbzbsbbbocnBiEsCrCaKhBcdBwBvBfnBdfBqfBdc",
      "BjehbeBqGbsBjeBjeBniBzmkbobgbbbkbobgbbdBzmLyjvkhyfbBpbiCrfcabBrbbdacwkwjBeCnsbbkvkzgzBmCdgbC",
      "mdbbfhbcbBcBqBcdBcBjhbBbBbCbkvksnrEgCuCdBynBynBnBiBbdafwJqBpbbdbqfBycdBckaivBqrBuuBbwjCrBrek",
      "CejanyxByrdiBidajClbdjbkabaBjrbBhcagdCkgbabdbobjhCexdbhcbcvbgbbbedhcbcbdagafgBcjbacabBlbjbac",
      "abdbbdabaBsCnbcbducBeCncbbaHcCbcgzfBiCkbadaChCbcaCtBacnvgHdCeDzClBfhcachbbbBdbbcbcdDphcBtcfb",
      "abbBbBycjrCtfasCuDzhDkBgBfibBsbgbaBxBdcvbnCvgbbbBrdabbbcbacbyfbbbBkbbbdbaxBrKawjqbBodcEhaDbB",
      "JlDyEgrHnDXkDspBPfrfzFXqfWkKDdBuCPdVwhBerDarBdsBvqdBfufsQqBsIdClBgycyBsCweCehqCmbbamgjKXxBpB",
      "fDtEkMWrdbgbbbLepaBdccaodiPfDKuEcfmdihjeaIWfDgbCsbbcacbcdblbabgbCmbdchbgbBbbdbebadgbNbcybybB",
      "ebybBebybBebybBebybhCSyBegfIfgbqcgbbbefCjBhaEiBskgqaMjBdsBrSqBbIuBdcaHzBebvibIqgbdbbbobHoChC",
      "pdadaBUidbBabbbacabjbdbabagaeabababcbbbacabababababbbacdbgbdbdbabjbqfcbebqYezgzgzFMkCLFbBgGM",
      "ncIObcLBkpXxDQwUvCFyHHyfMOn"]),
   (["bidicontrol", "bidic"],
     "CIeaJVlbBaeCdd"),
   (["caseignorable", "ci"],
     String.join ["BnagalaBjabaCtaeabaeacbTjHjebeajbbaJrgHzafaBxBsbabbbbbaBsalfkkbaBjakuqaDxhbjbdBhabaBeBaDnkCg",
      "keacayxBrcBsahbfiBpCfCdabaeheadgkbnapaCgaediaubBaacbCfaebebccdaBebdalbCfaeebbeaubwfbaCgacabd",
      "iahblbBeaCjamaByadaCdabcfcbdhblbBdaCgacagafbubBcbCfbediaubBdaCuahcbaDmacgliDuacijabgCvbBbaba",
      "baCdnbebbfkbBjjaDydbfbbcbzbecqdnacbgapaDqaXkcBKkcBdbBebBebCmbbgiackdafaBteBzaCnbBiaEocebjagc",
      "IlbcaCgabgbabachgjcaBnaiBtcludBwabebafaBoimbBgdcbbcCeabbdabcCghcbCmfDecbmbgeagadbByCknaBiDwR",
      "dabclcncncnbmeibkacaceBxebjbanaqmBzBgEJrbEjcEvapaDsBfBvaSbaBkddefaDpfDpcBQBuaBWcfKkaDudbjbaB",
      "cdDcboBhDaaxcDyddbiadaeazbfaFvbBarnaBmhzkBucBwacdcbravbCofcbcbmaiaBjalaBzabccbfbbaBbaobfbbaD",
      "wejcEracaeaBDZsaFrqWbpdampBiacaGnahagalaBjabaBvaBtbCpavcTtaIsaFteBNpfbBpbiWkcbbfdBoceaGjbWbd",
      "BmaBaebaMdbyaCafCskBxdEtaCcoBpacbkcBxdcbcaeakaBycBkebhCkambCaikdcaDrccabbgacaGbadhvbCfbdaBlg",
      "deCsfnababaobDhhccbaxaDgfbaebbbJedgbbbBbbDhhcabbEcabacfbaDxabacdbeJzibbJwbbaeaFodcbeaBgjBofc",
      "diajfccBumbbHqabcbaHtgbfbaDevcgbbbbEsfdabbbgbaCubdabaCnaKvblbCaefabaxaHXdqgoQYyldcDSaeChgjdT",
      "ocBobSoaClqCmbbbnbYGadbgbbEUgbbdGYuBtcwUycjpcgBedFscCYdCceBxiaoaweboCAigbqcgbbbefCjBhaGenOea",
      "CjdTneJubJjacahbfajaRwgEfhEBfeBSXXpaBeDrEyJf"]),
   (["cased"],
     String.join ["CnzgzBvakaeafwbBebHmbdeHzcBihbBeeDsaBqdcbcdbagabcbabtbDebFiiGjbBljBoEFfBlbafacBqbdZwDhcfDFuk",
      "fBqccCmHjCmKrcfcBlcfchbabababBecCabgbadcbgddcfemfcbgEmanaqmDxaeacjbadegabababdbfeacdfeearBfd",
      "bBFlBzCRuIugddbmBlbafaBTWcBtsBdFcDxddbCyufbcBFpBqbngDbBEAigmeBNtzgzBTtDbDsBjeBjEmkbobgbbbkbo",
      "bgbbRjaccbBpbiBUzBynByDpvkvEFiClBGIqClBgycyBMIeDgbCsbbcacbcdblbabgbCmbdchbgbBbbdbebadgbNbcyb",
      "ybBebybBebybBebybBebybhCSyjbtgfKbCjDGkCpDAazgzgz"]),
   (["changeswhencasefolded", "cwcf"],
     String.join ["CnzDmakwbhBgabababababababababababababababababababababababababababacababababababababbbababab",
      "abababababababababababababababababababbbabababbbabbbccdbbbcdbbbbababbbacabbbcbabbdahbbbbbbab",
      "ababababababacababababababababacbbabcbababababababababababababababababababababababababababab",
      "abahbbbcabdbabababaJmaBqabadaiagabcbabbbqbiwamcdbbababababababababababababbcbbabbcByBwababab",
      "abababababababababababababajabababababababababababababababababababababababababababbbabababab",
      "abacabababababababababababababababababababababababababababababababababababababababababababab",
      "abababacBlBwaEFgBlbafaBFefDFujgBqccMiabababababababababababababababababababababababababababa",
      "babababababababababababababababababababababababababababababababababababababababababababababa",
      "bafbcabababababababababababababababababababababababababababababababababababababababababababa",
      "bababababajhifkhihiflabababaihqBvcccffccfldmefccfLladbgaBtptaBFmzCSuBvBwabccabababdbacaicbab",
      "abababababababababababababababababababababababababababababababababababababababababababababab",
      "abaiabaeaBTYjababababababababababababababababababababababatabababababababababababababaFfabab",
      "ababababadababababababababababababababababababababababababababababababakababbbabababaeabacab",
      "adababababababababababebebabababababababdbabbbabababababababayaBIgDbBEAigmeBNtzBUzBnFgBjGakb",
      "obgbbCQcByGbvEGoBfBGJwBfCmyBUHzBh"]),
   (["changeswhencasemapped", "cwcm"],
     String.join ["CnzgzCgakwbBebClbDfbBbcncbbaeDobrgBabbbabbdbbdbecabbcahacabbdffakbGkaBqdcbdcbagabcbabtbBudBg",
      "bebFciGjbBlkBmEFgBlbafacBqccZwDhcfDFukfBqccHdadaqaEjFzcabEncfcBlcfchbabababBecCabgbadcbgddcf",
      "emfcbgLladbgaBbarBfdbBFlBzCRuEibbbbhDxhddbmBlbafaBTWcBtsBbFencCjjodccebybBsybBHcaBcDbBEAigme",
      "BNtzgzBTtDbDsBjeBjEmkbobgbbbkbobgbbCOpBynByDpvkvEFiClBGIqClBgycyBUGyCp"]),
   (["changeswhenlowercased", "cwl"],
     String.join ["CnzDxwbgBhabababababababababababababababababababababababababababacabababababababacababababab",
      "ababababababababababababababababababbbabadbbabbbccdbbbcdbbbbababbbacabbbcbabbdahbbbbbbababab",
      "ababababacababababababababacbbabcbababababababababababababababababababababababababababababah",
      "bbbcabdbabababaLdabadaiagabcbabbbqbiBjaiabababababababababababafacabbcByBwababababababababab",
      "abababababababajabababababababababababababababababababababababababababbbabababababacabababab",
      "abababababababababababababababababababababababababababababababababababababababababababacBlEH",
      "dBlbafaBBuDhDGlagBqccMiababababababababababababababababababababababababababababababababababa",
      "babababababababababababababababababababababababababababababababababababababababajabababababa",
      "bababababababababababababababababababababababababababababababababababababababababababajhifkh",
      "ihiflabababaihyhihihieleldmeleLladbgaBtptaBFmzCSuBvBwabccabababdbacaicbababababababababababa",
      "babababababababababababababababababababababababababababababababababababababaiabaeaBTYjababab",
      "abababababababababababababababababababatabababababababababababababaFfababababababadababababa",
      "babababababababababababababababababababababababababakababbbabababaeabacabadababababababababa",
      "babebebabababababababdbabbbabababababababayaBHAhzBUzBnFgBjGakbobgbbCQcByGbvEGoBfBGJwBfCmyBUH",
      "zBh"]),
   (["changeswhentitlecased", "cwt"],
     String.join ["DtzCgaBpxbhbabababababababababababababababababababababababababababacabababababababbbabababab",
      "ababababababababababababababababababacababccabacadafacadccacababacaeacadabacadabaeabbbbbabab",
      "ababababababbbababababababababcbabadabababababababababababababababababababadabababababababab",
      "aiacbbaeababababfbbbabbdbbdbecabbcahacabbdffakbGkaBrabadadcsaBbBibbdcbababababababababababab",
      "ebacacaCaBvbababababababababababababababababajababababababababababababababababababababababab",
      "abababacababababababbbababababababababababababababababababababababababababababababababababab",
      "ababababababababababababaBxBmFMefDFuibaJeadaqaEkabababababababababababababababababababababab",
      "abababababababababababababababababababababababababababababababababababababababababababababab",
      "ababababababgfababababababababababababababababababababababababababababababababababababababab",
      "ababababababababiifkhihifkhihinchihihiebbgadcbbidcbihkcbbNeaBhpeaBGlzCTqBvbadbbababagacakaba",
      "babababababababababababababababababababababababababababababababababababababababababababababa",
      "babaiabaeamBlbafaBTWdababababababababababababababababababababababatababababababababababababa",
      "baFfababababababadababababababababababababababababababababababababababababababakabacabababab",
      "aeaeabbcabababababababababalabababababababaeabacabababababababaBaaBHcaBcDbBEAigmeBOzzBVhBnFg",
      "BjFzkbobgbbCRbByEvvEGoBfBGJwBfChyBUIgBh"]),
   (["changeswhenuppercased", "cwu"],
     String.join ["DtzCgaBpxbhbabababababababababababababababababababababababababababacabababababababbbabababab",
      "ababababababababababababababababababacababccabacadafacadccacababacaeacadabacadabafbbbbbbabab",
      "abababababbbababababababababbbbbadabababababababababababababababababababadababababababababai",
      "acbbaeababababfbbbabbdbbdbecabbcahacabbdffakbGkaBrabadadcsaBbBibbdcbabababababababababababeb",
      "acacaCaBvbababababababababababababababababajabababababababababababababababababababababababab",
      "ababacababababababbbabababababababababababababababababababababababababababababababababababab",
      "abababababababababababaBxBmEHcBqccBDgfDFuibaJeadaqaEkabababababababababababababababababababa",
      "babababababababababababababababababababababababababababababababababababababababababababababa",
      "bababababababababgfababababababababababababababababababababababababababababababababababababa",
      "bababababababababababiifkhihifkhihincCabbeabadcbbeaddcbihkcbbeaMzaBhpeaBGlzCTqBvbadbbababaga",
      "cakababababababababababababababababababababababababababababababababababababababababababababa",
      "bababababaiabaeamBlbafaBTWdababababababababababababababababababababababatabababababababababa",
      "babababaFfababababababadababababababababababababababababababababababababababababababakabacab",
      "abababaeaeabbcabababababababababalabababababababaeabacabababababababaBaaBHcaBcDbBEAigmeBOzzB",
      "VhBnFgBjFzkbobgbbCRbByEvvEGoBfBGJwBfChyBUIgBh"]),
   (["dash"],
     "BtaCAuaBzaFKjaBNpaDBdfCjaBnapaPaaEOiacaBfbeaBcaReataEhaCZWabBlakaGnaFLoaMga"),
   (["defaultignorablecodepoint", "di"],
     "GraZxaBBoaEGwbCKhbDheDApeBaeBxpGKyaCZMppJfaGeaDbiCTLndHWxhBTKZlGBn"),
   (["deprecated", "dep"],
     "MraBYvaDKtabaDCjbDIjfBAvbBZRYka"),
   (["diacritic", "dia"],
     String.join ["DqabaCtagaeacbTjGcbhffrbeajbJteIbaCdBsbabbbbbaFbhebFebebdcCpBaDnkCgkBibEwhBpjqBbCjaqaddBcaCw",
      "aqaEgaqaEgaqaBvcCiaqahaEpaEgaqaEgaqaEfbqaEuaEhamfbaEdaneCxbBbababaebCocbbCkaEiabbBobeezgbakb",
      "BBdcBKmbBeaFskjaNjcLgauhcaBwockdoclCuapaBmiCcbCgalbCobCmfDeyeagaccByCkBwBjflBlkRdabclcncncnb",
      "EXkcMfaTmfEbdDraBSMkambbaBcbDeboBhDycDyagbmaBlaFvaBbrCfdBkaDramaBkaFtcCndBzaDwejcEybBDZsaBDp",
      "pKkabaBvaBtbCpaBDkaBTnfbBpbiYnceaGjbVzfBmaBaePgaccCskBxdHkaBpaCubEqbCkaCyajcEabGwbDcbqaygdeD",
      "lcbbnbDradaEtbJrbEwaEobElaKjbJybeaGaaDfasaDdaQfaJyabbDdaCnaNvbxaHYaoQZpaDSaeChgVsbVaqDcbYGcd",
      "bgbbLThBtcwUycdfihcgBedFMwCjHmgOlaCjdBDmbBCigEfcbc"]),
   (["emoji"],
     String.join ["BjagafjEhaeaLYramaIiawaDmfpbOdbmaGkazkecHraIxbkajaCgdbejacacbcaeacabbcadadbicfabafllbcabbbas",
      "acbsfbabbdbfacbeblbfbcafbbabbubffbdcaeacacfbacababagadagakbpacaeabaecbalbBwcjaoaoaOibRvctbBz",
      "aeaBVuamaXdabaGMRqaHuaGebmboacjCxzbbxauacivbGsBhcEhcbbccDeccbKcbCklfbxhbchmacdcaebnbcaibjafc",
      "mciccabaeagadagDhBwCrfhcddjdabbdacjItleaKxBubjbHcEimdkdCebaepclej"]),
   (["emojicomponent", "ecomp"],
     "BjagafjMBjaIfaDFTraDOIwzTneCEadBSVUqDr"),
   (["emojimodifier", "emod"],
     "HHIxe"),
   (["emojimodifierbase", "ebase"],
     String.join ["OLhaIlaqdGSJvaCiccaccEnbckvsdaecbchabayaHtbeavaebGscdeDfaqcjalaWdacaihgajjccCeaCjbbbbarcbmIv",
      "cBqi"]),
   (["emojipresentation", "epres"],
     String.join ["NHqbHxddacaUbbvbBylBratanaibrbfbiafavahbbaeacahaebBcaBjabaecbaCjcyaoaBHbbBzaeaGPLeaHuaHiacjC",
      "xzbayauacebcvbGsBgmibCrbvmBqeemqdadCsbabHecCkndbxsaBabnaDiDgBwCrgadccdddlbhiItleaKxBubjbHcEi",
      "mdkdCebaepclej"]),
   (["extendedpictographic", "extpict"],
     String.join ["GnaeaLYramaIiawaDmfpbOdbmaGkazkecHraIxbkajaCgdbejacacbcaeacabbcadadbicfabafllbcabbbasacbsfba",
      "bbdbfacbeblbfbcafbbabbubffbdcaeacacfbacababagadagakbpacaeabaecbalbBwcjaoaoaOibRvctbBzaeaBVua",
      "maXdabaGMRqaBndDwlpbpaobBljEibmboacjtCdBbokauacibdjwgHfcEhcbbccDeccbdfJtbCklfbxhbchmacdcaebn",
      "bcaibjafcmciccabaeagadagDhBwCrfhcqdabfcmIkBlmdCehkfBohBebmdcnjBmmBubjbHcDkhoFpJwBNh"]),
   (["extender", "ext"],
     String.join ["HbaUqbBHuaQzaYgaFhaDlaBCyaExaDNfaCeaXnaPiaCqaHKjaBreDzbDpcBQBuaCGsaBLaawaFhaEeavbBFZvaDBkbCF",
      "baBbaeaBVbaLhaEmbTecBVjaBGaaBDIebBTkbbaobBQXkbBUfaBGuc"]),
   (["graphemebase", "grbase"],
     String.join ["BgDqBhmbWvEihcfegbabtbIphGjbBlcBxccBuabacacajBaefrjlabBtvpbDwiagbcaeBfcabBdBdDklaoBqjgdxeaja",
      "dahobyfabkfBfqBpCfCcbabdidbchjcBcbbbhcbcvbgbadddabbgbcbbanbbcexfabfebcvbgbbbbbbecydbahjccbam",
      "abibcbvbgbbbeddiabbdapbelhaibbhcbcvbgbbbedacagbcbpbbcerlabfdcbddbbabbdbdcdlfabbdcbcdavugcbhb",
      "cbwbpdaddtcbbcbejhjbkbcbwbjbedbcabbxcbbejbcokbcbBocabbfcbcbbecbjezcbbrdxbibacgjbgghjccmBvbbl",
      "himBlbbabebxbabjbbjacebajjcdBgxcBabababnbBjsafaceBxhbfbmBlBseagacbcycddpembbcfbobBnbafacOmbd",
      "cgbabdcBobdcBgbdcgbabdcobCebdcCofBcdzgDhcfcZsdDkhrnsdbjrombcpBzcahhbblidjgjgkfjgDkhecBhbafCr",
      "kBeedccebbfhadBpcelBrezgkdCecbdCdbajabbifnjgjgnDiBvkddhbBcjlcBfebgCdbaccbanBvibfodCjfBqcklan",
      "ahdbfbccafHjCmKrcfcBlcfchbabababBecCabobncfbsccbibkfxhBwqbcBabmdBhCkFjeZpwkvCRrcOmdbfBsbafac",
      "CdhbpwjgbgbgbgbgbgbgbgBhDpBizbDkmIfBaCfgpbDheDwfBqbDpbDhjBvbBRIqdCcjNjuBueakBfcDbcfiImuqbcbd",
      "byceejgCdiCpklymbBliylamBdgBvbbebcbbmbkegbybBogbcblcbhbacjcBfbBybadbcecabayqchlfcfcfjgbgbChe",
      "EmbbbddjgQNrmweBwMNcObcEbBmgmefabxbebabbbbbYzBgpqjwBibsbdeebFeeGacBedfcfcfccdgbgnbclbzbsbbbo",
      "cnBiEsfceBsdDjbmdaBvBsFbBcdBwqBaeBjjBdfBlkBdbBkenBqGbcjgBjeBjeBniBzllbobgbbbkbobgbbdBzmLyjvk",
      "hyfbBpbiCrfcabBrbbdacwbCtiiBwsbbfBgdBafBaBmCdetcBupdbcbBckihihClBgBkgljCbdBccBafzhdmgDcCuCdB",
      "ynByhBpmjgBlixibIaBebBpdacbqfiiBnBnivliwredBmBbuwjabCbpgeBdbbcamBwebcbbdoyhjjBjfajriBibclBzj",
      "abhebbpbtlrbBbdbefbbClgbabdbobkgBubcnjibbhcbcvbgbbbedababdcbcbdamgBcjbacabBlbabbpabbdabcbbBn",
      "CdibdabubabcBeBvbbgabbbacacdijGkBubbgdcacBaBkByibbacdljgmtBqbabbibgjgtBcBadabbeajwHdBujacaDw",
      "DemhcachbbbxbebbgdbcjjCshcBpidbdBbakBngbehjagbdBtnacinCuhjDjadabaDkBhojgibBloabfkBcdBfzahaca",
      "CxgbbbBlvajjgfbbbBkebbabahjgBrejJmscdjobBjibdwDiapBxnBJmDyEgbelHnDXkDunBPfrfzFXqfWkKDdBdmcdj",
      "COsVwhBebjeDcbjgBdhakBvhokjbgbufsQqCfHqDmfycyBsCwfCdlmCmdoejKXxBpBfDtEkMWrdbgbbbLepaBdccaodi",
      "PfDKuEcfmdihjcacaFVkJsdQtgwpqDrElCiJlkBmcChfcwbhBdeCivCndaEstmtmDijyFfDgbCsbbcacbcdblbabgbCm",
      "bdchbgbBbbdbebadgbNbcLfcVpCddByhbnbgBRwBegfKbCjFqBskgcjebMiBdsBrejfaRwBbejIgBdckeaHkBebcbbbg",
      "cejbIqgbdbbbobHociBwCphaejebBEfCpCyCiHmdbBabbbacabjbdbabagaeabababcbbbacabababababbbacdbgbdb",
      "dbabjbqfcbebqCabKkBreDvmocobobBkkGrCeBcnBreihbofFyBLwdqdmdIjgleapleCdijgBniBdcleboiBnNfincmd",
      "kdCebaepclejhFqbDyBNpCLFbBgGMncIObcLBkpXxDQwUvCFyHHyfMOn"]),
   (["graphemeextend", "grext"],
     String.join ["BDoEhKpgKdBsbabbbbbaCukBwuqaDxgcfcbbdBjaBeBaDnkCgijaydbibcbeBrcChiBqxbBfCdabaeheadgkbBdaCgab",
      "acdiajakbBaacbCfaebebccdaBebdalbCfaeebbeaubwfbaCgabbbdiahckbBeaChabamajaBoadaCdabcfcbdhblbBd",
      "aCgacbbadcbdhblbBcbCfbbacdiajakbBdaCuaeaccbaiaDdacgmhDuacilgCvbBbababaCdnbebbfkbBjjaDydbfbbc",
      "bzbecqdnacbgapaBBbcBKkdBccBdbBebCmbbgiackjaBtcbaEnbBiaEocebjagcIlbcaCgabgbabachgjcaBwBtcludB",
      "wjecBmimbBgdcfCeabbdabeCehcbFwcbmbgeagadbHqClUeaHnBgEOccFlaDsBfVifEbbBSQedbjBgbDcbKmadaeazbf",
      "aFvbBarnaBmhzkbaBscBwacdcbcaBkaCpfcbcbmaiaBvaBzabccbfbbaBqbiaJeacaeaBDZsaBCjpqpOcbXhaIsaFteC",
      "MgcbbfdBoceaGjbWbdCneMfbCzfCskBxdEtaCcoBpacbkcBxdcbhaCjcBkebhCkambCaibaidcaDrccdgacaGbadhvbC",
      "fbbabamajaogdeCpacfbacabcecbaobDhhccbaxaDdacfbacabbbbJbacdgbbbBbbDhhcabbEcabachDxabacdbeJzib",
      "bJlakdeaFodcbeaBgjBofcdiajfccBumbbHqabcbaHtgbfbaDevcgbbbbEsfdabbbgbaCubdabaNjblbCaefcxaHXtag",
      "oQYyldcDSaeChgBOiaCldDdalbBDAxbGYzBtcwUwedfihcgBedFscCYdCceBxiaoaweboCAigbqcgbbbeDwaGegOlaCj",
      "dTodJubJjacahbfaSggEfgBTCAfDrEyJf"]),
   (["graphemelink", "grlink"],
     String.join ["DNpaExaExaExaExaExaExaExaEfbqaEuaEhaExaHtaGybCPlbBeaGbaZdaItaDxbCsbGQtaBUKkaBlaFvaFmaEeaLxaJ",
      "maBJSraCHiaBpaoaCfaErbFjaEmaGyaDuaJkaExaJsaExaEoaEmaKjaJzbGfaDfasaDdaQfaKabDdaQjb"]),
   (["hexdigit", "hex"],
     "BwjhfBafDSLljhfBaf"),
   (["hyphen"],
     "BtaExaBVwaGZzaDBdbFIbaBClaCZUlaGnaDja"),
   (["idsbinaryoperator", "idsb"],
     "SEabcjTda"),
   (["idstrinaryoperator", "idst"],
     "SEcb"),
   (["idsunaryoperator", "idsu"],
     "SEob"),
   (["idcontinue", "idc"],
     String.join ["BwjhzeabzBvakabacafwbBebRpeloehabarEmbbcdbagebabtbDebFibecGjbBlcagBoiBsbabbbbbaiBaedBdkfCveD",
      "xbhcjbscaqCgcDwoCbeacacBtsBbekfxbghCwbEycjbsbhcbcvbgbaddcicbcdiaebbeclkabaccbfebcvbgbbbbbbca",
      "beebccdahdbahplcbibcbvbgbbbecjbcbccapdcjjgbcbhcbcvbgbbbecicbcchcebbecjbaqbbfdcbddbbabbdbdcdl",
      "eedcbdcagaojqmbcbwbpcibcbdhbbcbbcdcjqdbhbcbwbjbecibcbdhbfcbdcjbcmmbcbBybcbefdhecjkfbcbrdxbib",
      "acgdaefbabhgjcbnCffobjBnbbabebxbabwcebabgbjcdBgaxbgjlababaejbBjetbrbBjjaCfCvgCzcBlbafacBqbMu",
      "bdcgbabdcBobdcBgbdcgbabdcobCebdcCoccjiopqDhcfdXvcqbzfCwdkhvjvltmmbcbbmDfdaebcjBhcbkgDkhBqfCr",
      "kBeblelkBncelBrezgkBlBbeCkbBcckgjnainbBecluCydjrimElmCdijdBwckfBqccqcbBmfUncfcBlcfchbabababB",
      "ecCabgbadcbgddcfemfcbgpbBxbtaBcanaqmBzmeadlraeacjbacfgabababpcdfeearBoDZbIugimBlbafacCdhapxj",
      "gbgbgbgbgbgbgbgbBfTxczobeceeDhcgbDqfBqbDprBfBwpTsJTnCmBGUeCpBtcKidBbuBvejbEkBlicDycDduCceatB",
      "zmCrkjgxdabBwcBjmBcdCmokgBebCcjncjgwdCuyccpcekfcfcfjgbgbBqbngEsbbcjgQNrmweBwMNcObcEbBmgmeflb",
      "mbebabbbbbEdBhNysClcCbBolepqpdbycBgebFetjhzeabzkDldfcfcfccBjlbzbsbbbocnBiEsCrCaFgaFaBcdBwpaB",
      "fBfnBdfBqfBdcBjehbeBqGbcjgBjeBjeBniBzmkbobgbbbkbobgbbdBzmLyjvkhyfbBpbiCrfcabBrbbdacwkwjBeCns",
      "bbkvkzgzBmCdgbCmdbbfhbcbBccceaBgBcdBcBjhbBdzCbkvksnrEgCuCdBynBynBnijgBldebwJqBpbbdbqfByBikai",
      "BgBfvBquBbwjCsBfpjChhanyhjgCabjediBjcajCqedbmbaBjrbBkgdCkgbabdbobjhCgfjgdbhcbcvbgbbbebjcbccc",
      "agafgcgdeljbacabBlbjbacabdbhnbBdCwfjedBeCrbaijGkCbcixfBiCmdaljBmCehjgtBcBacoejggHdCgDxCvvhca",
      "chbbbBdbbcimjCshcBtchbbBbCkiaiCvdasCuDzhDkBgpjgibBsbipjyBdcvbnCvgbbbBrdabbbiijgfbbbBkbbbfhjg",
      "BrejJmwjqbBodenkDhaDbBJlDyEgrHnDXkDspBPfqvkFXqfWkKDdCfCOsVwhBebjgDabjgBdcelCcjdmjjufsQqBsdjH",
      "qClBgycyBsCweCehqCmbbblgjKXxBpBfDtEkMWrdbgbbbLepaBdccaodiPfDKuEcfmdihjdbGErjTyBtcwUwedfihcgB",
      "edFscRbDgbCsbbcacbcdblbabgbCmbdchbgbBbbdbebadgbNbcybybBebybBebybBebybBebybhcBxTsCceBxiaoaweb",
      "oBQmBegfIfgbqcgbbbefCjBhaEiBsdncjeaMjBerCfScBpIgBqHpBebvibIqgbdbbbobHolgBpCxejBTudbBabbbacab",
      "jbdbabagaeabababcbbbacabababababbbacdbgbdbdbabjbqfcbebqFAajBNqCLFbBgGMncIObcLBkpXxDQwUvCFyHH",
      "yfMOnBOGXyJf"]),
   (["idstart", "ids"],
     String.join ["CnzgzBvakaeafwbBebRpeloehabaEzebbcdbagabcbabtbDebFiiGjbBlcagBoCtBaedBtBqBjbbDubapbhbkccaqabB",
      "dBdDklayBgjbeafveajadaxyhkfxbgqBpCgCbdasahjppehcbcvbgbadddaqanbbcobkaifebcvbgbbbbbbBfdbatcqi",
      "bcbvbgbbbedasapbxalhcbcvbgbbbedaBebbcparabfdcbddbbabbdbdcdlwaCahbcbwbpdaBacbbcbBeaehbcbwbjbe",
      "daBecbbpbribcbBocaqafcicyffrdxbibacgCgBvbbmgCgbbabebxbabjbbjacebavdBgaClhbBjBbeElBquaqfeddad",
      "bhcemmarBlbafacBqbMubdcgbabdcBobdcBgbdcgbabdcobCebdcCoBlpqDhcfdXvcqbzfCwdkhrnsorombcpBzBjaea",
      "CpDkhBobafCrkBeBxBdcelBrezCcwjCaDeaDpBurhCcBdnbkBrBaBjBpckBjckfBqccBpdbfbbdafHjCmKrcfcBlcfch",
      "babababBecCabgbadcbgddcfemfcbgEmanaqmDxaeacjbacfgabababpcdfeearBoDZbIugddbmBlbafacCdhaqwjgbg",
      "bgbgbgbgbgbgVecziheceeDheebDlbdfBqbDprBfBwpTsJTnCmBGUeCpBtcKidpkbuBuqBecDbBnicDycDduqbcbdbwB",
      "dBzoBxCkfdabblBbkwzBchBuBcaqebjkebBoxcbhuwdadBxbadbcecabaycckhcmfcfcfjgbgbBqbngEkBdQNrmweBwM",
      "NcObcEbBmgmefabjbmbebabbbbbEdBhNysClcCbBolEmebFeBkzgzlDkdfcfcfccBjlbzbsbbbocnBiEsCrCaKhBcdBw",
      "BvBfnBdfBlkBdcBjehbeBqGbsBjeBjeBniBzmkbobgbbbkbobgbbdBzmLyjvkhyfbBpbiCrfcabBrbbdacwkwjBeCnsb",
      "bkvkzgzBmCdgbCmapdbcbBcBqBcdBcBjhbBbBbCbkvksnrEgCuCdBynBynBjBmBbjwJqBpgbqfCeBckaivBqrBuuBbwm",
      "CaCfbcanBsBgyBaBjBdacaiBidamBvodvabaBjrbytbClgbabdbobjhBuBmhcbcvbgbbbedasameBejbacabBlbazaba",
      "BsCasducBeBvubbaHcBuBpdBkBvuaChBqnaCtBaBlgHdBrEmClBfhcachbbbxpabaDqhcBmqabaBcakBnhavalBttasC",
      "uHrBgBfibBkraBxBdEigbbbBlvazfbbbBfoaxBrKaspabmbBhEuaDbBJlDyEgrHnDXkDspBPfrfzFXqfWkKDdBdCPuVw",
      "hBerDarBdsBvqdBfufsQqBsIdClBgycyBsCwfaComCmbbaoejKXxBpBfDtEkMWrdbgbbbLepaBdccaodiPfDKuEcfmdi",
      "hjIWkDgbCsbbcacbcdblbabgbCmbdchbgbBbbdbebadgbNbcybybBebybBebybBebybBebybhCSyBegfKbCjFqBskgqa",
      "MjBdsBrSqBbIuBdcaHzBebcbbbgcejbIqgbdbbbobHoChCphaBUidbBabbbacabjbdbabagaeabababcbbbacabababa",
      "babbbacdbgbdbdbabjbqfcbebqGOaCLFbBgGMncIObcLBkpXxDQwUvCFyHHyfMOn"]),
   (["ideographic", "ideo"],
     "SEwbziocBLdJTnCmBFBjBHSiObcEbBSIkanejKXxBpBfDtEkNLlPfBDEiCLFbBgGMncIObcLBkpXxDQwUvCFyHHyfMOn"),
   (["joincontrol", "joinc"],
     "MDob"),
   (["logicalorderexception", "loe"],
     "FKieEteEDsccaCCXmbcabb"),
   (["lowercase", "lower"],
     String.join ["DtzBvakaeaBkxbhbabababababababababababababababababababababababababababbbabababababababbbabab",
      "ababababababababababababababababababababacababccabacadbeacadccacababacabbbacadabacbccgacacab",
      "abababababababbbababababababababbcabadababababababababababababababababababababababababababab",
      "ababgcacbbaeababababCqcBihbBeeDsaBrabadacdsaBbBibbdcbabababababababababababebacacbBzBvbababa",
      "babababababababababababababajababababababababababababababababababababababababababacababababa",
      "babbbabababababababababababababababababababababababababababababababababababababababababababa",
      "babababaBwBoEHbBqbdBDgfDFuibaEnHjCnababababababababababababababababababababababababababababa",
      "babababababababababababababababababababababababababababababababababababababababababababababi",
      "babababababababababababababababababababababababababababababababababababababababababababababa",
      "bababiifkhihifkhihinchihihiebbgadcbbidcbihkcbbEranaqmEfadbdaBbaeaeacbideaBhpeaBGlzCTqBvbadbb",
      "ababaeabbbhdabababababababababababababababababababababababababababababababababababababababab",
      "abababababababababbhabaeamBlbafaBTWdababababababababababababababababababababababatababababab",
      "ababababababababcFdababababababcbabababababababababababababababababababababababababababababa",
      "bjbabacababababaeabacabcbabababababababababafafabababababababaeabacabababababababavdbabcBFpB",
      "qbngDbBEAigmeBOzzBVhBnFgBjFzkbobgbbRjaccbBpbiBXlByEvvEGoBfBGJwBfChyBMJezBagbrBazBadbabgbkBaz",
      "BazBazBazBazBazBazBazBaBbBcybfBaybfBaybfBaybfBaybfbaCSyjbtgfKbCjDHsBh"]),
   (["math"],
     String.join ["BraqcBfaBdabaBtaeaBlaBfaBCaccaBabccUhcJWnaBbcladanaodveleCnmeadbeesaeacjbacfgadbcbbcbfdnbaCq",
      "xbfbbebeBfbagboKhidubDmaBeBabayalgRdbmjefebcbdeoabacflhfbCfabaBddjcMyClJwTrBwucfDASqaBFrfbaG",
      "gaqcBdabaBdabaFbagdFEfbCVGaaBXvDgbCsbbcacbcdblbabgbCmbdchbgbBbbdbebadgbNbcLfcBxIIqdbBabbbaca",
      "bjbdbabagaeabababcbbbacabababababbbacdbgbdbdbabjbqfcbebqCabDTei"]),
   (["noncharactercodepoint", "nchar"],
     "DSDcBfUgbDSYobDSYobDSYobDSYobDSYobDSYobDSYobDSYobDSYobDSYobDSYobDSYobDSYobDSYobDSYobDSYob"),
   (["otheralphabetic", "oalpha"],
     String.join ["BHjmWenbabbbbbaCukBwmbgqaDxgedcbeaBjaBepDykDxbdibcbdEcaCildggtCcbcobbfckbBdcCggcbcbkakbBdcCg",
      "eebcbeaBebdalcCghbcbbvbwcecCggcbcbjbkbBeaChedcbckaBoeCfgbcbciblbBdcCggbcbciblbpamdCggbcbckak",
      "bBdcCxfbabhsbCjacgsaDvacfbbqaGhsjkbBjEglbacdxdecbccgddnlbakdCLobBebBebBebCosHgbBiaEoleiIoeCf",
      "jctCwblcBxeBwoCicBeicbCfkBysPwBhGAtBfBTQahBibNqaiaxeDkbBypbaCfaBmeBclBtdBwlBlaCpnmaibBtcByab",
      "ccbfaBsefaJdhBDZvaDEdeCMgcbbfdBEidCnaMjbCzcJzcCbnBtblcBtijaCjcBklsbCfcBwmobDoicagacaGbjxdCgg",
      "cbcbkakbDgibacabdbbDzmbcEcrJdgcgBdbDeobaEckDznJxmJnfbbcbdabaFmgcfeaBcjBqebdskBunHshHrhbgDfvb",
      "nEsfdabbbcbadaCoebbbdNkdjbbaBwgdcYYnqFJcabCchdDpbBDAyaNKjgbqcgbbbeDwaCKhacahbfaWva"]),
   (["otherdefaultignorablecodepoint", "odi"],
     "BGpaFIlbCKhbDHnaGLiaDACpaDbiBWMIhabBdDsExJgFIl"),
   (["othergraphemeextend", "ogrext"],
     String.join ["DRyayaNuayaDyayaIyabaebbbjbDzayaEpapaDMraBeaBNkafabafbDxaCtbBOiaGCvbBTWtaEeaBGNlbGWmaEmaKeao",
      "ajaDsajacabcfaIqamaJhaKcaYjamaCHfaBEOkbBKXnbgfBTLAzDr"]),
   (["otheridcontinue", "oidc"],
     "HbaBBraGAjiCLcaCIzbGKraDAEja"),
   (["otheridstart", "oids"],
     "JHlbDGjavaFVwb"),
   (["otherlowercase", "olower"],
     "GoapaThihbBeeDsaCaaFCzaEPzCknaBiBkBAnanaqmIdpBGqzCWobBUGkbIcaEyddbBHidjaBIWsaccbBpbiDDZhCj"),
   (["othermath", "omath"],
     String.join ["DqaBHxccaBabcbKQyaBbclaBgdybobCnmeadbeesaeacjbadegadbcbbcbfddfeCxecdbbbbbabecbebercbbabgbagb",
      "LedGmbbayaraRdbmifefbcbdeoabacfybCfabaBddjbNebBfjPnvCldBgbDCLfabaeaIdabaDCOvDgbCsbbcacbcdblb",
      "abgbCmbdchbgbBbbdbebadgbNbcybybBebybBebybBebybBebybhcBxIIqdbBabbbacabjbdbabagaeabababcbbbaca",
      "bababababbbacdbgbdbdbabjbqfcbebq"]),
   (["otheruppercase", "oupper"],
     "MQqpBGgzGSIyzgzgz"),
   (["patternsyntax", "patsyn"],
     "BhokgBadbaBadBigbabbbabbeaeadaxaBfaLUexiocsbjLtBBrGeYfBeBRnTsExOvceypaCZQzbKbb"),
   (["patternwhitespace", "patws"],
     "jesaDwaLYmbyb"),
   (["prependedconcatenationmark", "pcm"],
     "CHcfIhaBxaOubDcaDVXyapa"),
   (["quotationmark", "qmark"],
     "BiaeaFbapaLWuhzbFIdaRpdncDABpdHhaeaDmb"),
   (["radical"],
     "RPwzbDkmIf"),
   (["regionalindicator", "ri"],
     "HGOkz"),
   (["sentenceterminal", "sterm"],
     String.join ["BhamaqaCAbaFrcGyaBrcJmaCjabadbLhbCPwbBEkaebBDtaHqbGbbBtafaMcbNqdGgbkbcbBdcHfbCnbBJwaxbjcEUxc",
      "LuanawbQnaBSHwaKkbItadaOsbDibDraFwbFrcFobJpaBFCwacbChadbGnamaqaCnaEDwbBXdeBsdHhbEndExcEzbgaq",
      "bDkbbbEeaLmbEnbOjbfoEbbJpcTxabaJrbDjbQebBAqbCwbBCMbbFdaCnblaVhbLkaBDOgaLIma"]),
   (["softdotted", "sd"],
     String.join ["EbbHoaKvaBeaCaauaMiaDuabaJMnaBzanadaFcaGbaQfaIgbEGgaGELhbBybBybBybBybBybBybBybBybBybBybBybBy",
      "bDFyaLtbBaa"]),
   (["terminalpunctuation", "term"],
     String.join ["BhakabalbdaBFyaiaTtaCfaCuaoabcGyaBrkbaJbbCcfbhBfaKbbBWubGqaefLzbBEjhBDtaEucCtbGbcdaBndcbMcbN",
      "qdGgbkbbcBdcHfeCkbBJwaxbjcEUxcLuanaeakabbdbQmbBSHvbKjcIteOsbDibDraFvcFrcExaqbJpaBFCwacbCfcbd",
      "GnakabalbdaCnacaBPqaBwaBSoaHraLybFwfCqfDldBKqeBsdHhgEidExcEzbgaqbDkeEeaLmbEncmbNuddoEbbJpcTx",
      "abaJrbDjbebPycBtaYvbCwbBYxeBAMzbFdaCnckaVhbLjbBDOgaLIld"]),
   (["unifiedideograph", "uideo"],
     "TSaJTnCmBFBjBICsbbabbkababbccDVEcCLFbBgGMncIObcLBkpXxGRqHHyfMOn"),
   (["uppercase", "upper"],
     String.join ["CnzDxwbgBhabababababababababababababababababababababababababababacabababababababacababababab",
      "ababababababababababababababababababbbabadbbabbbccdbbbcdbbbbababbbacabbbcbabbdahacacacababab",
      "ababababacababababababababacacabcbababababababababababababababababababababababababababababah",
      "bbbcabdbabababaLdabadaiagabcbabbbqbiBjaccdabababababababababababafacabbcByBwabababababababab",
      "ababababababababajabababababababababababababababababababababababababababbbabababababacababab",
      "ababababababababababababababababababababababababababababababababababababababababababababacBl",
      "EHdBlbafaBBuDhDGlagBqccMiabababababababababababababababababababababababababababababababababa",
      "bababababababababababababababababababababababababababababababababababababababababajababababa",
      "babababababababababababababababababababababababababababababababababababababababababababajhif",
      "khihiflabababaihCudmdmdmeldKcaeadccccadegabababdcdkbfaBaptaBFmzCSuBvBwabccabababdbacaicbabab",
      "abababababababababababababababababababababababababababababababababababababababababababababab",
      "aiabaeaBTYjababababababababababababababababababababababatabababababababababababababaFfababab",
      "abababadababababababababababababababababababababababababababababababakababbbabababaeabacabad",
      "ababababababababababebebabababababababdbabbbabababababababayaBHAhzBUzBnFgBjGakbobgbbCQcByGbv",
      "EGoBfBGJwBfCmyBMJfzBazBazBaabbcacbcdbhBazBabbdchbgBbbbdbebadgBbzBazBazBazBazBazBeyBhyBhyBhyB",
      "hyBhaGNlBhDBizgzgz"]),
   (["variationselector", "vs"],
     "JCtcbaDJCapBWNKyJf"),
   (["whitespace", "wspace", "space"],
     "jesaDwaBaaIHjaDPnkBdbfaBvaFXwa"),
   (["xidcontinue", "xidc"],
     String.join ["BwjhzeabzBvakabacafwbBebRpeloehabarEmbbdcbagebabtbDebFibecGjbBlcagBoiBsbabbbbbaiBaedBdkfCveD",
      "xbhcjbscaqCgcDwoCbeacacBtsBbekfxbghCwbEycjbsbhcbcvbgbaddcicbcdiaebbeclkabaccbfebcvbgbbbbbbca",
      "beebccdahdbahplcbibcbvbgbbbecjbcbccapdcjjgbcbhcbcvbgbbbecicbcchcebbecjbaqbbfdcbddbbabbdbdcdl",
      "eedcbdcagaojqmbcbwbpcibcbdhbbcbbcdcjqdbhbcbwbjbecibcbdhbfcbdcjbcmmbcbBybcbefdhecjkfbcbrdxbib",
      "acgdaefbabhgjcbnCffobjBnbbabebxbabwcebabgbjcdBgaxbgjlababaejbBjetbrbBjjaCfCvgCzcBlbafacBqbMu",
      "bdcgbabdcBobdcBgbdcgbabdcobCebdcCoccjiopqDhcfdXvcqbzfCwdkhvjvltmmbcbbmDfdaebcjBhcbkgDkhBqfCr",
      "kBeblelkBncelBrezgkBlBbeCkbBcckgjnainbBecluCydjrimElmCdijdBwckfBqccqcbBmfUncfcBlcfchbabababB",
      "ecCabgbadcbgddcfemfcbgpbBxbtaBcanaqmBzmeadlraeacjbacfgabababpcdfeearBoDZbIugimBlbafacCdhapxj",
      "gbgbgbgbgbgbgbgbBfTxczobeceeDhcbccbDqfBqbDprBfBwpTsJTnCmBGUeCpBtcKidBbuBvejbEkBlicDycDduCcea",
      "tBzmCrkjgxdabBwcBjmBcdCmokgBebCcjncjgwdCuyccpcekfcfcfjgbgbBqbngEsbbcjgQNrmweBwMNcObcEbBmgmef",
      "lbmbebabbbbbEdBhFigIjsClcCbBojgpqpdbycBhabadababababEvtjhzeabzkDldfcfcfccBjlbzbsbbbocnBiEsCr",
      "CaFgaFaBcdBwpaBfBfnBdfBqfBdcBjehbeBqGbcjgBjeBjeBniBzmkbobgbbbkbobgbbdBzmLyjvkhyfbBpbiCrfcabB",
      "rbbdacwkwjBeCnsbbkvkzgzBmCdgbCmdbbfhbcbBccceaBgBcdBcBjhbBdzCbkvksnrEgCuCdBynBynBnijgBldebwJq",
      "BpbbdbqfByBikaiBgBfvBquBbwjCsBfpjChhanyhjgCabjediBjcajCqedbmbaBjrbBkgdCkgbabdbobjhCgfjgdbhcb",
      "cvbgbbbebjcbcccagafgcgdeljbacabBlbjbacabdbhnbBdCwfjedBeCrbaijGkCbcixfBiCmdaljBmCehjgtBcBacoe",
      "jggHdCgDxCvvhcachbbbBdbbcimjCshcBtchbbBbCkiaiCvdasCuDzhDkBgpjgibBsbipjyBdcvbnCvgbbbBrdabbbii",
      "jgfbbbBkbbbfhjgBrejJmwjqbBodenkDhaDbBJlDyEgrHnDXkDspBPfqvkFXqfWkKDdCfCOsVwhBebjgDabjgBdcelCc",
      "jdmjjufsQqBsdjHqClBgycyBsCweCehqCmbbblgjKXxBpBfDtEkMWrdbgbbbLepaBdccaodiPfDKuEcfmdihjdbGErjT",
      "yBtcwUwedfihcgBedFscRbDgbCsbbcacbcdblbabgbCmbdchbgbBbbdbebadgbNbcybybBebybBebybBebybBebybhcB",
      "xTsCceBxiaoaweboBQmBegfIfgbqcgbbbefCjBhaEiBsdncjeaMjBerCfScBpIgBqHpBebvibIqgbdbbbobHolgBpCxe",
      "jBTudbBabbbacabjbdbabagaeabababcbbbacabababababbbacdbgbdbdbabjbqfcbebqFAajBNqCLFbBgGMncIObcL",
      "BkpXxDQwUvCFyHHyfMOnBOGXyJf"]),
   (["xidstart", "xids"],
     String.join ["CnzgzBvakaeafwbBebRpeloehabaEzebbdcbagabcbabtbDebFiiGjbBlcagBoCtBaedBtBqBjbbDubapbhbkccaqabB",
      "dBdDklayBgjbeafveajadaxyhkfxbgqBpCgCbdasahjppehcbcvbgbadddaqanbbcobkaifebcvbgbbbbbbBfdbatcqi",
      "bcbvbgbbbedasapbxalhcbcvbgbbbedaBebbcparabfdcbddbbabbdbdcdlwaCahbcbwbpdaBacbbcbBeaehbcbwbjbe",
      "daBecbbpbribcbBocaqafcicyffrdxbibacgCgBvbangCgbbabebxbabjbakacebavdBgaClhbBjBbeElBquaqfeddad",
      "bhcemmarBlbafacBqbMubdcgbabdcBobdcBgbdcgbabdcobCebdcCoBlpqDhcfdXvcqbzfCwdkhrnsorombcpBzBjaea",
      "CpDkhBobafCrkBeBxBdcelBrezCcwjCaDeaDpBurhCcBdnbkBrBaBjBpckBjckfBqccBpdbfbbdafHjCmKrcfcBlcfch",
      "babababBecCabgbadcbgddcfemfcbgEmanaqmDxaeacjbacfgabababpcdfeearBoDZbIugddbmBlbafacCdhaqwjgbg",
      "bgbgbgbgbgbgVecziheceeDhgcbDlbdfBqbDprBfBwpTsJTnCmBGUeCpBtcKidpkbuBuqBecDbBnicDycDduqbcbdbwB",
      "dBzoBxCkfdabblBbkwzBchBuBcaqebjkebBoxcbhuwdadBxbadbcecabaycckhcmfcfcfjgbgbBqbngEkBdQNrmweBwM",
      "NcObcEbBmgmefabjbmbebabbbbbEdBhFigIjsClcCbBojEpabadababababEvBkzgzlCdcBedfcfcfccBjlbzbsbbboc",
      "nBiEsCrCaKhBcdBwBvBfnBdfBlkBdcBjehbeBqGbsBjeBjeBniBzmkbobgbbbkbobgbbdBzmLyjvkhyfbBpbiCrfcabB",
      "rbbdacwkwjBeCnsbbkvkzgzBmCdgbCmapdbcbBcBqBcdBcBjhbBbBbCbkvksnrEgCuCdBynBynBjBmBbjwJqBpgbqfCe",
      "BckaivBqrBuuBbwmCaCfbcanBsBgyBaBjBdacaiBidamBvodvabaBjrbytbClgbabdbobjhBuBmhcbcvbgbbbedasame",
      "BejbacabBlbazabaBsCasducBeBvubbaHcBuBpdBkBvuaChBqnaCtBaBlgHdBrEmClBfhcachbbbxpabaDqhcBmqabaB",
      "cakBnhavalBttasCuHrBgBfibBkraBxBdEigbbbBlvazfbbbBfoaxBrKaspabmbBhEuaDbBJlDyEgrHnDXkDspBPfrfz",
      "FXqfWkKDdBdCPuVwhBerDarBdsBvqdBfufsQqBsIdClBgycyBsCwfaComCmbbaoejKXxBpBfDtEkMWrdbgbbbLepaBdc",
      "caodiPfDKuEcfmdihjIWkDgbCsbbcacbcdblbabgbCmbdchbgbBbbdbebadgbNbcybybBebybBebybBebybBebybhCSy",
      "BegfKbCjFqBskgqaMjBdsBrSqBbIuBdcaHzBebcbbbgcejbIqgbdbbbobHoChCphaBUidbBabbbacabjbdbabagaeaba",
      "babcbbbacabababababbbacdbgbdbdbabjbqfcbebqGOaCLFbBgGMncIObcLBkpXxDQwUvCFyHHyfMOn"])]

/-- The entry of a name in a table of code points. -/
def findCodes? (name : String) (table : List (List String × String)) : Option String :=
  (table.find? fun entry => entry.1.contains name).map Prod.snd

/-- The code points with the property `Alphabetic`. -/
def alphabetic : CodeRanges :=
  .ofText ((findCodes? "alphabetic" binaryProperties).getD "")

/-- Whether a character is alphabetic. -/
def isAlphabetic (c : Char) : Bool :=
  alphabetic.contains c.toNat

/-- Whether a character is a digit or another number. -/
def isNumeric (c : Char) : Bool :=
  match GeneralCategory.ofCode c.toNat with
  | .nd | .nl | .no => true
  | _ => false

end RecordRules
