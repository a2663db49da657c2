/-! # Scripts

For each script of the Unicode standard: its names, in lower case and without separators,
and its code points, written as `CodeRanges.ofText` reads them.  `scriptExtensions` lists
the scripts whose characters are used differently from where they belong. -/

namespace RecordRules

/-- The property `Script`. -/
def scripts : List (List String × String) :=
  [(["adlam", "adlm"],
     "HDEuCxejeb"),
   (["ahom"],
     "EBRcBacoew"),
   (["anatolianhieroglyphs", "hluw"],
     "ESSeWk"),
   (["arabic", "arab"],
     String.join ["CHcebfbnbcbBfbjlzbEdbBhDcBvJgBhfCwbBcDNTwSzcFnBgpEiebFeFVnBeCpfiiBhfDGLsdbBabbbacabjbdbabaga",
      "eabababcbbbacabababababbbacdbgbdbdbabjbqfcbebqCab"]),
   (["armenian", "armn"],
     "BZdBlcBxccDOZje"),
   (["avestan", "avst"],
     "DXCyCbdg"),
   (["balinese", "bali"],
     "KFwCybBx"),
   (["bamum", "bamu"],
     "CLCqDjCVCqVw"),
   (["bassavah", "bass"],
     "FHKiBdcf"),
   (["batak", "batk"],
     "KNgBzid"),
   (["bengali", "beng"],
     "DPodbhcbcvbgbaddcicbcdiaebbecy"),
   (["beriaerfe", "berf"],
     "FIVwycy"),
   (["bhaiksuki", "bhks"],
     "EDOiibBsbnkBc"),
   (["bopomofo", "bopo"],
     "BCsbRLxBqEiBf"),
   (["brahmi", "brah"],
     "DZAeCzeBjja"),
   (["braille", "brai"],
     "PDwJv"),
   (["buginese", "bugi"],
     "JWaBbcb"),
   (["buhid", "buhd"],
     "IUyt"),
   (["canadianaboriginal", "cans"],
     "HOyYpVoCrDTPqp"),
   (["carian", "cari"],
     "DTYmBw"),
   (["caucasianalbanian", "aghb"],
     "DUXsBzla"),
   (["chakma", "cakm"],
     "DZKaCabr"),
   (["cham"],
     "CMJwCcjncjcd"),
   (["cherokee", "cher"],
     "HLgDhcfCFJeDb"),
   (["chorasmian", "chrs"],
     "DYXcBb"),
   (["common", "zyyy"],
     String.join ["aCmBafBaBubobexaBfaRhBmfectEmajagabaYnagaoadaBgaGaaTwaEzbBVtaPpdLeaCGlcCtbHvbbaBVhanahdbfbcc",
      "aBDtlcDibkdkborBhCkBlbccfbBabqBpceZpwkvBJrJwYdcFhTsDpPmubabyphedDnbdaDmbFrpBgBljaBwClBfDcBva",
      "DkGlJToClBHSiBhDycGjjJkaGeaPfaobBEZqbIajwBibsbdFrabBfBafBakkaBtbCmgbgkeJyceBsdiDcmBzBsIuBaCS",
      "HwdFVgJsdQtgwpqDrElCiJlkBmcCjdqibhBdeCiIftmtmDijyFfDgbCsbbcacbcdblbabgbCmbdchbgbBbbdbebadgbN",
      "bcLfcBxHThCpCyCiBBeBreDvmocobobBkkGrCezbbnBreihbofFyBLwdqdmdIjgleapleCdijgBniBdcleboiBnNfinc",
      "mdkdCebaepclejhFqbDyBSUXaaBeDr"]),
   (["coptic", "copt", "qaac"],
     "BMgnPJkElfg"),
   (["cuneiform", "xsux"],
     "EFBsBJlDyEgbelHn"),
   (["cypriot", "cprt"],
     "DVZkfcabBrbbdaca"),
   (["cyprominoan", "cpmn"],
     "EKYyDu"),
   (["cyrillic", "cyrl"],
     "BNkFccGmIVokGeaCyaGFnBfBTOaDrBHEcbDHPgCjBha"),
   (["deseret", "dsrt"],
     "DUMaDb"),
   (["devanagari", "deva"],
     "DKqDceoczCIJgBfBREmj"),
   (["divesakuru", "diak"],
     "ECKugcachbbbBdbbcljj"),
   (["dogra", "dogr"],
     "ECAyCh"),
   (["duployan", "dupl"],
     "GMDsEcfmdihjcd"),
   (["egyptianhieroglyphs", "egyp"],
     "ELDgBQrkFXq"),
   (["elbasan", "elba"],
     "DUVwBn"),
   (["elymaic", "elym"],
     "DYYyw"),
   (["ethiopic", "ethi"],
     "GVgCubdcgbabdcBobdcBgbdcgbabdcobCebdcCocBfdzJVawjgbgbgbgbgbgbgbgBVKcfcfcfjgbgEPYfgbdbbbo"),
   (["garay", "gara"],
     "DXZcBldBcib"),
   (["georgian", "geor"],
     "GHsBlbafacBqbdEJwBqccGEaBlbafa"),
   (["glagolitic", "glag"],
     "QRgDrGIZggbqcgbbbe"),
   (["gothic", "goth"],
     "DUEaBa"),
   (["grantha", "gran"],
     "EADsdbhcbcvbgbbbecicbcccagafgcgde"),
   (["greek", "grek"],
     String.join ["BHwdbccdbaeababcbabtbCkopJNqeByeeeDgaMivcfcBlcfchbabababBecCabobncfbsccbiLjaCAJeaBGNiDaraDAX",
      "rCr"]),
   (["gujarati", "gujr"],
     "DZlcbibcbvbgbbbecjbcbccapdclhg"),
   (["gunjalagondi", "gong"],
     "EEBwfbbbBkbbbfhj"),
   (["gurmukhi", "guru"],
     "DUncbfebcvbgbbbbbbcabeebccdahdbahq"),
   (["gurungkhema", "gukh"],
     "FDRsCf"),
   (["han", "hani"],
     "RPwzbDkmIfBvabaziodBLcJTnCmBFBjBHSiObcEbBSIibmgCCOfCLFbBgGMncIObcLBkpXxDQwUvCFyHHyfMOn"),
   (["hangul", "hang"],
     "GLkJvLLebJxDpEjBeCnBeBTAnBcYtQNrmweBwPAiBedfcfcfcc"),
   (["hanifirohingya", "rohg"],
     "DXWqBnij"),
   (["hanunoo", "hano"],
     "ITsu"),
   (["hatran", "hatr"],
     "DWIasbbfe"),
   (["hebrew", "hebr"],
     "CCvCciBaefDOVwzbebabbbbbj"),
   (["hiragana", "hira"],
     "SHdDhgcFPEvLasaBdcYMva"),
   (["imperialaramaic", "armi"],
     "DWBwvbi"),
   (["inherited", "zinh", "qaai"],
     String.join ["BDoEhKrbRkkBaaBCidGOxBtclSqcbmbgeagadbHqClUebHmBgFTxdEdbCZUjpqnBLnaIsaGFaaCTCuBtcwUycrhcgBed",
      "BTLHiJf"]),
   (["inscriptionalpahlavi", "phli"],
     "DXGqsfh"),
   (["inscriptionalparthian", "prti"],
     "DXFkvch"),
   (["javanese", "java"],
     "CMEyCzcjeb"),
   (["kaithi", "kthi"],
     "DZFcCoka"),
   (["kannada", "knda"],
     "ETcmbcbwbjbecibcbdhbfcbdcjbc"),
   (["katakana", "kana"],
     "SKvDlccJgpIaBubDjCZHejbBsCOUcdbgbbbaLbcByaod"),
   (["kawi"],
     "EERwqbBodBc"),
   (["kayahli", "kali"],
     "CMAaBtba"),
   (["kharoshthi", "khar"],
     "DWTcdbbfhbcbBcccejhi"),
   (["khitansmallscript", "kits"],
     "FJIiaKGxSbBpa"),
   (["khmer", "khmr"],
     "IXkDpcjgjSsBf"),
   (["khojki", "khoj"],
     "DZTwrbBu"),
   (["khudawadi", "sind"],
     "EAAqCgfj"),
   (["kiratrai", "krai"],
     "FIIiCf"),
   (["lao", "laoo"],
     "FMvbbabebxbabwcebabgbjcd"),
   (["latin", "latn"],
     String.join ["CnzgzBvapafwbBebRgBneJXbBlgBwfdfmbCrCnJvOfanaqmFlbgaBbarBoECtBfBULmDxdDduoBFkBqbibdBEDqgBOkz",
      "gzDCffbBpbiDDNpBegf"]),
   (["lepcha", "lepc"],
     "KPsCddodc"),
   (["limbu", "limb"],
     "JMeBebleleadl"),
   (["lineara", "lina"],
     "DVFsLyjvkh"),
   (["linearb", "linb"],
     "DSYqlbzbsbbbocnBiEs"),
   (["lisu"],
     "CKKuBvBUMaa"),
   (["lycian", "lyci"],
     "DTXgBc"),
   (["lydian", "lydi"],
     "DWKmzfa"),
   (["mahajani", "mahj"],
     "DZNcBm"),
   (["makasar", "maka"],
     "EEQqy"),
   (["malayalam", "mlym"],
     "EYambcbBybcbfepcz"),
   (["mandaic", "mand"],
     "DDgBbca"),
   (["manichaean", "mani"],
     "DXAmBmel"),
   (["marchen", "marc"],
     "EDSqBfcvbn"),
   (["masaramgondi", "gonm"],
     "EDYegbbbBrdabbbiij"),
   (["medefaidrin", "medf"],
     "FISeDm"),
   (["meeteimayek", "mtei"],
     "CMSmwHtBtcj"),
   (["mendekikakui", "mend"],
     "HCUyHocp"),
   (["meroiticcursive", "merc"],
     "DWPkxetcBt"),
   (["meroitichieroglyphs", "mero"],
     "DWOeBf"),
   (["miao", "plrd"],
     "FIZoCweCehq"),
   (["modi"],
     "EBHgCqlj"),
   (["mongolian", "mong"],
     "JCibcabtgDkhBqDSCbm"),
   (["mro", "mroo"],
     "FHEuBebjeb"),
   (["multani", "mult"],
     "DZYugbabdbobk"),
   (["myanmar", "mymr"],
     "GBoGdCGAyBeDtBfBPAmt"),
   (["nabataean", "nbat"],
     "DWEiBeii"),
   (["nagmundari", "nagm"],
     "HBPoBp"),
   (["nandinagari", "nand"],
     "ECQyhcBtck"),
   (["newtailue", "talu"],
     "JRcBrezgkdb"),
   (["newa"],
     "EANoDnbe"),
   (["nko", "nkoo"],
     "CYiCgcc"),
   (["nushu", "nshu"],
     "FJIfaYVmPf"),
   (["nyiakengpuachuehmong", "hmnp"],
     "HAEaBsdncjeb"),
   (["ogham", "ogam"],
     "INoBc"),
   (["olchiki", "olck"],
     "KSuBv"),
   (["olonal", "onao"],
     "HBZkBqea"),
   (["oldhungarian", "hung"],
     "DXRsBynByhf"),
   (["olditalic", "ital"],
     "DUCeBjjc"),
   (["oldnortharabian", "narb"],
     "DWYaBf"),
   (["oldpermic", "perm"],
     "DUFgBq"),
   (["oldpersian", "xpeo"],
     "DUIiBjen"),
   (["oldsogdian", "sogo"],
     "DYQiBn"),
   (["oldsoutharabian", "sarb"],
     "DWWuBf"),
   (["oldturkic", "orkh"],
     "DXMuCu"),
   (["olduyghur", "ougr"],
     "DYUqz"),
   (["oriya", "orya"],
     "EEjcbhcbcvbgbbbecicbcchcebbecr"),
   (["osage", "osge"],
     "DUSuBjeBj"),
   (["osmanya", "osma"],
     "DUQyBdcj"),
   (["pahawhhmong", "hmng"],
     "FHMeCrkjbgbufs"),
   (["palmyrene", "palm"],
     "DWDcBf"),
   (["paucinhau", "pauc"],
     "EDCaCe"),
   (["phagspa", "phag"],
     "CLSqCd"),
   (["phoenician", "phnx"],
     "DWJgBbda"),
   (["psalterpahlavi", "phlp"],
     "DXHwrhdmg"),
   (["rejang", "rjng"],
     "CMBwBjla"),
   (["runic", "runr"],
     "IOuCwdk"),
   (["samaritan", "samr"],
     "DAuBtco"),
   (["saurashtra", "saur"],
     "CLVcCril"),
   (["sharada", "shrd"],
     "DZOyDrDPoh"),
   (["shavian", "shaw"],
     "DUPcBv"),
   (["siddham", "sidd"],
     "EBCiCbcBl"),
   (["sidetic", "sidt"],
     "DWLsz"),
   (["signwriting", "sgnw"],
     "GWTkZbpebo"),
   (["sinhala", "sinh"],
     "FCzcbrdxbibacgdaefbabhgjccDULgt"),
   (["sogdian", "sogd"],
     "DYSeBp"),
   (["sorasompeng", "sora"],
     "DZIeyhj"),
   (["soyombo", "soyo"],
     "ECXsDe"),
   (["sundanese", "sund"],
     "KKuClJwh"),
   (["sunuwar", "sunu"],
     "EDLwBhoj"),
   (["sylotinagri", "sylo"],
     "CLQeBs"),
   (["syriac", "syrc"],
     "CQynbChccKmk"),
   (["tagalog", "tglg"],
     "ISmvja"),
   (["tagbanwa", "tagb"],
     "IWembcbb"),
   (["taile", "tale"],
     "JPgBdce"),
   (["taitham", "lana"],
     "JXgCkbBcckgjgn"),
   (["taiviet", "tavt"],
     "CMOuCoye"),
   (["taiyo", "tayo"],
     "HCIqBebvib"),
   (["takri", "takr"],
     "EBMeCfgj"),
   (["tamil", "taml"],
     "EJibbfdcbddbbabbdbdcdleedcbdcagaouEALhBxna"),
   (["tangsa", "tnsa"],
     "FHGqDabj"),
   (["tangut", "tang"],
     "FJIeaBfKFvTsBeDtEk"),
   (["telugu", "telu"],
     "EOembcbwbpcibcbdhbbcbbcdcjhi"),
   (["thaana", "thaa"],
     "CVwBx"),
   (["thai"],
     "FHxCffBb"),
   (["tibetan", "tibt"],
     "FRsCtbBjeBmbBjbobgeb"),
   (["tifinagh", "tfng"],
     "RCyCdhboa"),
   (["tirhuta", "tirh"],
     "EASmCtij"),
   (["todhri", "todr"],
     "DVDgBz"),
   (["tolongsiki", "tols"],
     "EEEyBrej"),
   (["toto"],
     "HATkBe"),
   (["tulutigalari", "tutg"],
     "EAIqjbacabBlbjbacabdbjbbib"),
   (["ugaritic", "ugar"],
     "DUHcBdba"),
   (["vai", "vaii"],
     "CKMqLn"),
   (["vithkuqi", "vith"],
     "DVAekbobgbbbkbobgbb"),
   (["wancho", "wcho"],
     "HAVgCffa"),
   (["warangciti", "wara"],
     "ECHcDema"),
   (["yezidi", "yezi"],
     "DYLkBpbccb"),
   (["yi", "yiii"],
     "CIPkBSudCc"),
   (["zanabazarsquare", "zanb"],
     "ECUqCt")]

/-- The property `Script_Extensions`, for scripts where it differs from `Script`. -/
def scriptExtensions : List (List String × String) :=
  [(["adlam", "adlm"],
     "CIhaBgaJWoaFHhaGLRiCxejeb"),
   (["arabic", "arab"],
     String.join ["CHcebIgbBhDcBvJgBhfCwbBcIVnaFHhaCZRaYpBgpEiebFeBMhBbEIeBeCpfiiBhfDGLsdbBabbbacabjbdbabagaeab",
      "ababcbbbacabababababbbacdbgbdbdbabjbqfcbebqCab"]),
   (["armenian", "armn"],
     "BDwaVgBlcBxccDOZje"),
   (["avestan", "avst"],
     "HbaRFsbDFQcCbdg"),
   (["bengali", "beng"],
     "BAyaCMubrbBadbhcbcvbgbaddcicbcdiaebbecyHDhabacbbaiaiacaeaccCBAfa"),
   (["bopomofo", "bopo"],
     "BBjabcnaqbRBxcejbmkdcagaHnajBqEiBfCZLtbKwe"),
   (["buginese", "bugi"],
     "JWaBbcbCCKta"),
   (["buhid", "buhd"],
     "IUnbjt"),
   (["carian", "cari"],
     "HbaLZmacaFGdaDCLqBw"),
   (["caucasianalbanian", "aghb"],
     "BDsaBsaBsaDTQnBzla"),
   (["chakma", "cakm"],
     "DTmjCKejDTFqCabr"),
   (["cherokee", "cher"],
     "BDocbagbwblbGFuDhcfCFJeDb"),
   (["common", "zyyy"],
     String.join ["aCmBafBaBublbbbexaBfaRhcbjbadabibabffectEwagabaYnaIhaTwaCAuaPpdGDblcBgbBebjbbbgbkdkborBhCkBl",
      "bccfbBabqBpceZpwkvBJrJwYdcFhTswbxcjbdbabzQcadananavaUjxBfaBxomdGfjfDrBfaJToClBHSqzDycBLoaobB",
      "FHsjwuclbsbdFrabBfBafBafExgbgkePmmBzBsCYNbJsdQtgwpqDrElCiJlkBmcCjdqibhBdeCiIftmtmDiBbgFfDgbC",
      "sbbcacbcdblbabgbCmbdchbgbBbbdbebadgbNbcLfcBxHThCpCyCiBBeBreDvmocobobBkkGrCezbbnBreixfFyBLwdq",
      "dmdIjgleapleCdijgBniBdcleboiBnNfincmdkdCebaepclejhFqbDyBSUXaaBeDr"]),
   (["coptic", "copt", "qaac"],
     "HbaWmadbbaEebEenPJkElfgKtaDCPcBb"),
   (["cypriot", "cprt"],
     "DTImceBsdiCOmfcabBrbbdaca"),
   (["cyprominoan", "cpmn"],
     "DTImbRQkDu"),
   (["cyrillic", "cyrl"],
     "BAyaCpcbababacafaJeLrIVokGeaCyaExaGApBfCpaBTLkDrBHEcbDHPgCjBha"),
   (["devanagari", "deva"],
     "BAyaCJrDecBqHIeBmbbBNaaBZFrjGkBfBREmj"),
   (["dogra", "dogr"],
     "DOmlCIDcjBQIoCh"),
   (["duployan", "dupl"],
     "HbaWtbbaybQIhaFUQlEcfmdihjch"),
   (["elbasan", "elba"],
     "HbaWraDTScBn"),
   (["ethiopic", "ethi"],
     "BEcaFRdCubdcgbabdcBobdcBgbdcgbabdcobCebdcCocBfdzJVawjgbgbgbgbgbgbgbgBVKcfcfcfjgbgEPYfgbdbbbo"),
   (["garay", "gara"],
     "CHoaoadaDVQuBldBcib"),
   (["georgian", "geor"],
     "HbaBVlaEFeBlbafacBvEJwBqccBJmaEUnBlbafaJza"),
   (["glagolitic", "glag"],
     "HbaWpabaOsacaJxaEIraFViaEKrDrSpaBTNfaEOTkgbqcgbbbe"),
   (["gothic", "goth"],
     "HbaWqbcaBoaDSYoBa"),
   (["grantha", "gran"],
     "DNtbrbYqnGKaabbBecdbBNaaDNRjdbhcbcvbgbbbebjcbcccagafgcgdeERrbba"),
   (["greek", "grek"],
     String.join ["HbaWmbcababakaBuacaBqhcdbaeababcbabtbCkopJNqeByeeeDgcMgvcfcBlcfchbabababBecCabobncfbsccbiDqa",
      "HsaCAJeaBGNiDaraDAXrCr"]),
   (["gujarati", "gujr"],
     "DNtbrbKxcbibcbvbgbbbecjbcbccapdclhgCHNsj"),
   (["gunjalagondi", "gong"],
     "HbaDHkbEANifbbbBkbbbfhj"),
   (["gurmukhi", "guru"],
     "DNtbrbFzcbfebcvbgbbbbbbcabeebccdahdbahqCHSzj"),
   (["gurungkhema", "gukh"],
     "DOnaFADeCf"),
   (["han", "hani"],
     String.join ["HbaRIuzbDkmIfBapbcbmbmbmcagiHfaFspBgBljaBwBnCeBwplBzaDkykeDsBebJTnCmBFBjCQyhBFBcObcEbBHrbKwe",
      "BQPobmgBLQvrLRybFEsCLFbBgGMncIObcLBkpXxDQwUvCFyHHyfMOn"]),
   (["hangul", "hang"],
     "GLkJvLJlcejbmocgaHnaCbDpEjBeCnBeBTAnBcYtQNrmweBwOMzbKweCgBedfcfcfcc"),
   (["hanifirohingya", "rohg"],
     "CHoaoadaBgaFraDVHjBnij"),
   (["hanunoo", "hano"],
     "ITsw"),
   (["hebrew", "hebr"],
     "BDvbYyCciBaefDOVwzbebabbbbbj"),
   (["hiragana", "hira"],
     "SErcejbmqfbaebdDhchDmbCZTgbKwekaBtbCOUrLasaBdcYMva"),
   (["inherited", "zinh", "qaai"],
     "BEdacabodgcacpbbbrbebdCGmbGOxBtclBByCbbabeUebHmBfDFSqpqnBLnaCZQoBtcwUycrhcgBedBTLHiJf"),
   (["javanese", "java"],
     "CMEyCzbkeb"),
   (["kaithi", "kthi"],
     "DOojNXxaBUFejBNMsCoka"),
   (["kannada", "knda"],
     "DNtbrbBEombcbwbjbecibcbdhbfcbdcjbcGAeabbgaxabaCASxf"),
   (["katakana", "kana"],
     "BDtaBdaQZtcejbmqfbaebDnddDrJgpIaBubDjCYWbbKwCkCOUadbgbbbaLbcByaod"),
   (["kayahli", "kali"],
     "CMAaBv"),
   (["khojki", "khoj"],
     "EDijCHOijBOBmrbBu"),
   (["khudawadi", "sind"],
     "DOmbCIDmjBOIgCgfj"),
   (["latin", "latn"],
     String.join ["CnzgzBvamacafwbBebRgdakabcbajabageBbobbbapchbbbBmafaemKrbBVebCXkaEOiBlgBwfdfmbCrCfahJvLraCna",
      "naqmDfaCfbgaBbarBoECtBfPraBTUmhBaDxdDduoLqaTtBqbibdBEDqgBOkzgzDCffbBpbiDDNpBegf"]),
   (["limbu", "limb"],
     "DOnaFXqBebleleadl"),
   (["lineara", "lina"],
     "DTItBsBVgLyjvkh"),
   (["linearb", "linb"],
     "DSYqlbzbsbbbocnBiEsfceBsdi"),
   (["lisu"],
     "BAyaqaRDkbBSFsBvBUMaa"),
   (["lycian", "lyci"],
     "MGoaDHQrBc"),
   (["lydian", "lydi"],
     "HbaRFtaDEXqzfa"),
   (["mahajani", "mahj"],
     "HbaDHklCIDcjBNUsBm"),
   (["malayalam", "mlym"],
     "DNtbrbBJmmbcbBybcbfepczFVeaxaCASzc"),
   (["mandaic", "mand"],
     "CJoaTrBbca"),
   (["manichaean", "mani"],
     "CJoaDUQxBmel"),
   (["masaramgondi", "gonm"],
     "DOmbEAJqgbbbBrdabbbiij"),
   (["meroitichieroglyphs", "mero"],
     "MGraDKHmBf"),
   (["modi"],
     "CLSajBPOwCqlj"),
   (["mongolian", "mong"],
     "JCizgDkhBqCWaaFZtbfdDJFwm"),
   (["multani", "mult"],
     "DYkjDWAagbabdbobk"),
   (["myanmar", "mymr"],
     "GBoGdCFUcaGvBeDtBfBPAmt"),
   (["nandinagari", "nand"],
     "DNtasbBImjGBhaiahaCASrfBQYshcBtck"),
   (["newa"],
     "DNtbHKcabbjagababaDPOsDnbe"),
   (["nko", "nkoo"],
     "CHoaoadaQaCgccDOWsb"),
   (["olonal", "onao"],
     "DOmbGYKwBqea"),
   (["oldhungarian", "hung"],
     "MGoacaFGdapaDGEgBynByhf"),
   (["oldpermic", "perm"],
     "HbaWmafckaOdaDSMuBq"),
   (["oldturkic", "orkh"],
     "MGoaFGfaDFZzCu"),
   (["olduyghur", "ougr"],
     "CJoaDUSvaBSfz"),
   (["oriya", "orya"],
     "DNtbrbPvcbhcbcvbgbbbecicbcchcebbecrGPeaxa"),
   (["osage", "osge"],
     "BDpacagaCyaDTLvBjeBj"),
   (["phagspa", "phag"],
     "JCkbbaDCjaFZuaBTNxCd"),
   (["psalterpahlavi", "phlp"],
     "CJoaDUYhrhdmg"),
   (["runic", "runr"],
     "IOuDk"),
   (["samaritan", "samr"],
     "DAuBtcoOJqa"),
   (["sharada", "shrd"],
     "DNtaHKfabacbcajacaCATefcaBNWpDrDPoh"),
   (["shavian", "shaw"],
     "HbaDUIaBv"),
   (["sinhala", "sinh"],
     "DOmbBOlcbrdxbibacgdaefbabhgjccFRpaDOTqt"),
   (["sogdian", "sogd"],
     "CJoaDWIpBp"),
   (["sunuwar", "sunu"],
     "BDobbajacaBcadaECGkBhoj"),
   (["sylotinagri", "sylo"],
     "DOmbEyjCHWiBs"),
   (["syriac", "syrc"],
     "BDrbcbbaychbbbBCcaobcaBgakkBaaFnnbChccKmkIEfaba"),
   (["tagalog", "tglg"],
     "ISmvjavb"),
   (["tagbanwa", "tagb"],
     "IUnbBpmbcbb"),
   (["taile", "tale"],
     "BDobfbdaEZzjDKwBdce"),
   (["takri", "takr"],
     "DOmbCIDmjBPTuCfgj"),
   (["tamil", "taml"],
     "DNtbrbUubbfdcbddbbabbdbdcdleedcbdcagaouGKdaCBBkaBOEfabaCdbETfBxna"),
   (["tangut", "tang"],
     "SEapTbaEQKmaBfKFvTsBeDtEk"),
   (["telugu", "telu"],
     "DNtbrbZqmbcbwbpcibcbdhbbcbbcdcjhiGEvbbabaxa"),
   (["thaana", "thaa"],
     "CHoaobcaCmjKsBxDPGqaka"),
   (["thai"],
     "BAyaBaaBraBtaEClCffBb"),
   (["tibetan", "tibt"],
     "FRsCtbBjeBmbBjbobgebMEvd"),
   (["tifinagh", "tfng"],
     "BDqababdzaPYaCdhboa"),
   (["tirhuta", "tirh"],
     "DNtbrbHJjamapaCASzjBPAcCtij"),
   (["todhri", "todr"],
     "BDpacacajabaCwaDTWbBz"),
   (["toto"],
     "BAyaGZSlBe"),
   (["tulutigalari", "tutg"],
     "EXajGBqabaCASxfHfaBOJejbacabBlbjbacabdbjbbib"),
   (["yezidi", "yezi"],
     "CHoaoadaCmjDWAgBpbccb"),
   (["yi", "yiii"],
     "SErbfjchIpaBQBcBSudCcBIIce")]

end RecordRules
