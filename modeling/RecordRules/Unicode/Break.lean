/-! # Text boundaries

For each value of the three boundary properties of the Unicode standard: its names, in
lower case and without separators, and its code points, written as `CodeRanges.ofText`
reads them. -/

namespace RecordRules

/-- The property `Grapheme_Cluster_Break`. -/
def graphemeBreaks : List (List String × String) :=
  [(["cn", "control"],
     "ajbbbrDrBgnaCBmaGUraDAqacbygBxpDGHjaJglTUapBZQudHWxhBTKZlBfDsExJgFIl"),
   (["cr"],
     "na"),
   (["ex", "extend"],
     String.join ["BDoEhKpgKdBsbabbbbbaCukBwuqaDxgcfcbbdBjaBeBaDnkCgijaydbibcbeBrcCihBqxbBfCdabaeheadgkbBdaCgab",
      "acdiajakbBaacbCfaebebccdaBebdalbCfaeebbeaubwfbaCgabbbdiahckbBeaChabamajaBoadaCdabcfcbdhblbBd",
      "aCgacacadafbhblbBcbCfbbacdiajakbBdaCuaeaccbaiaDdacgmhDuacilgCvbBbababaCdnbebbfkbBjjaDydbfbbc",
      "bzbecqdnacbgapaBBbcBKkcBdbBebBebCmbbgiackjaBtcbaEnbBiaEocebjagcIlbcaCgabgbabachgjcaBwBeBxdBw",
      "gbafaBoimbBgdcbbcCeabbdabcCghcbFwcbmbgeagadbHqClUeaHnBgEOccFlaDsBfVifEbbBSQedbjBgbDcbKmadaea",
      "zbfaFvbBarnaBmhzkBucBwacdcbBnaCpfcbcbmaiaBvaBzabccbfbbaBqbiaJeacaeaBDZsaBCjpqpOcbXhaIsaFteCM",
      "gcbbfdBoceaGjbWbdOxbDccCskBxdEtaCcoBpacbkcBxdcbhaCjcBkebhCkambCaikdcaDrccabbgacaGbadhvbCfbba",
      "bawaogdeHnhccbaxaDdacfbacabbbbJbacdgbbbBbbDhhcabbEcabacfbaDxccdbeJzibbJlakbbaeaFodcbeaBgjBof",
      "cdiajfccBumbbPqgbfbaDevcgbbbbEsfdabbbgbaCubdabaNjblbCaefabaHYragoURqeChgBOiaCldDdaBDBkbGYzBt",
      "cwUwabceeihcgBedFscCYdCceBxiaoaweboCAigbqcgbbbeDwaGegOlaCjdTodBMegEfgEBgeBSXYuDrEyJf"]),
   (["l"],
     "GLkDrCFOqBc"),
   (["lf"],
     "ka"),
   (["lv"],
     String.join ["CNDoaBbaBbaBbaBbaBbaBbaBbaBbaBbaBbaBbaBbaBbaBbaBbaBbaBbaBbaBbaBbaBbaBbaBbaBbaBbaBbaBbaBbaBba",
      "BbaBbaBbaBbaBbaBbaBbaBbaBbaBbaBbaBbaBbaBbaBbaBbaBbaBbaBbaBbaBbaBbaBbaBbaBbaBbaBbaBbaBbaBbaBb",
      "aBbaBbaBbaBbaBbaBbaBbaBbaBbaBbaBbaBbaBbaBbaBbaBbaBbaBbaBbaBbaBbaBbaBbaBbaBbaBbaBbaBbaBbaBbaB",
      "baBbaBbaBbaBbaBbaBbaBbaBbaBbaBbaBbaBbaBbaBbaBbaBbaBbaBbaBbaBbaBbaBbaBbaBbaBbaBbaBbaBbaBbaBba",
      "BbaBbaBbaBbaBbaBbaBbaBbaBbaBbaBbaBbaBbaBbaBbaBbaBbaBbaBbaBbaBbaBbaBbaBbaBbaBbaBbaBbaBbaBbaBb",
      "aBbaBbaBbaBbaBbaBbaBbaBbaBbaBbaBbaBbaBbaBbaBbaBbaBbaBbaBbaBbaBbaBbaBbaBbaBbaBbaBbaBbaBbaBbaB",
      "baBbaBbaBbaBbaBbaBbaBbaBbaBbaBbaBbaBbaBbaBbaBbaBbaBbaBbaBbaBbaBbaBbaBbaBbaBbaBbaBbaBbaBbaBba",
      "BbaBbaBbaBbaBbaBbaBbaBbaBbaBbaBbaBbaBbaBbaBbaBbaBbaBbaBbaBbaBbaBbaBbaBbaBbaBbaBbaBbaBbaBbaBb",
      "aBbaBbaBbaBbaBbaBbaBbaBbaBbaBbaBbaBbaBbaBbaBbaBbaBbaBbaBbaBbaBbaBbaBbaBbaBbaBbaBbaBbaBbaBbaB",
      "baBbaBbaBbaBbaBbaBbaBbaBbaBbaBbaBbaBbaBbaBbaBbaBbaBbaBbaBbaBbaBbaBbaBbaBbaBbaBbaBbaBbaBbaBba",
      "BbaBbaBbaBbaBbaBbaBbaBbaBbaBbaBbaBbaBbaBbaBbaBbaBbaBbaBbaBbaBbaBbaBbaBbaBbaBbaBbaBbaBbaBbaBb",
      "aBbaBbaBbaBbaBbaBbaBbaBbaBbaBbaBbaBbaBbaBbaBbaBbaBbaBbaBbaBbaBbaBbaBbaBbaBbaBbaBbaBbaBbaBbaB",
      "baBbaBbaBbaBbaBbaBbaBbaBbaBbaBbaBbaBbaBbaBbaBbaBbaBbaBbaBbaBbaBbaBbaBbaBbaBbaBbaBbaBbaBbaBba",
      "Bba"]),
   (["lvt"],
     String.join ["CNDpBabBabBabBabBabBabBabBabBabBabBabBabBabBabBabBabBabBabBabBabBabBabBabBabBabBabBabBabBabB",
      "abBabBabBabBabBabBabBabBabBabBabBabBabBabBabBabBabBabBabBabBabBabBabBabBabBabBabBabBabBabBab",
      "BabBabBabBabBabBabBabBabBabBabBabBabBabBabBabBabBabBabBabBabBabBabBabBabBabBabBabBabBabBabBa",
      "bBabBabBabBabBabBabBabBabBabBabBabBabBabBabBabBabBabBabBabBabBabBabBabBabBabBabBabBabBabBabB",
      "abBabBabBabBabBabBabBabBabBabBabBabBabBabBabBabBabBabBabBabBabBabBabBabBabBabBabBabBabBabBab",
      "BabBabBabBabBabBabBabBabBabBabBabBabBabBabBabBabBabBabBabBabBabBabBabBabBabBabBabBabBabBabBa",
      "bBabBabBabBabBabBabBabBabBabBabBabBabBabBabBabBabBabBabBabBabBabBabBabBabBabBabBabBabBabBabB",
      "abBabBabBabBabBabBabBabBabBabBabBabBabBabBabBabBabBabBabBabBabBabBabBabBabBabBabBabBabBabBab",
      "BabBabBabBabBabBabBabBabBabBabBabBabBabBabBabBabBabBabBabBabBabBabBabBabBabBabBabBabBabBabBa",
      "bBabBabBabBabBabBabBabBabBabBabBabBabBabBabBabBabBabBabBabBabBabBabBabBabBabBabBabBabBabBabB",
      "abBabBabBabBabBabBabBabBabBabBabBabBabBabBabBabBabBabBabBabBabBabBabBabBabBabBabBabBabBabBab",
      "BabBabBabBabBabBabBabBabBabBabBabBabBabBabBabBabBabBabBabBabBabBabBabBabBabBabBabBabBabBabBa",
      "bBabBabBabBabBabBabBabBabBabBabBabBabBabBabBabBabBabBabBabBabBabBabBabBabBabBabBabBabBabBabB",
      "abBa"]),
   (["pp", "prepend"],
     "CHcfIhaBxaOubDcaBRnaDUGkapaJkbCVrabaJoaCvfBAyaRba"),
   (["ri", "regionalindicator"],
     "HGOkz"),
   (["sm", "spacingmark"],
     String.join ["DKtaCdaccidbbBybChbgbcbCcaCgcCoaCgciabbCbbCiagbcbEkabbdcbcCacCjdCjbCgabbbbcbbbBnaobChbfcbcCb",
      "bCybggtbClaExaFibClaGvajbzbBsaCMqaBeaEzahhbbNidccebbfIqbCgabavfFpaCcabebbCjaBeaebcaCiaccbadb",
      "BwhibGpavaCAShbcaDkbBypFmbBvaBwbebccEgbcbyaGbacbfaJdbbbbbbaBLXjabaExaBtcebElaybChaBwcjbnaDpc",
      "dbbaGocBfbChabdcbccubIbcibdaEdbgabbbacaJebgdcaEjcibbaEfabbgaEhaKbcjaJoebbeacabaFmcideaDgaBdb",
      "CkaPraoaEcahacaIfeebbaNmbmaBwbibbaBEIhCcEabBKXoaga"]),
   (["t"],
     "GRwDjCWXnBw"),
   (["v"],
     "GPcCtCWZww"),
   (["zwj"],
     "MDpa")]

/-- The property `Word_Break`. -/
def wordBreaks : List (List String × String) :=
  [(["cr"],
     "na"),
   (["dq", "doublequote"],
     "Bia"),
   (["ex", "extendnumlet"],
     "DraMBfapbtaDGAobycJfa"),
   (["extend"],
     String.join ["BDoEhKpgKdBsbabbbbbaCukBwuqaDxgcfcbbdBjaBeBaDnkCgijaydbibcbeBrcCihBqxbBgCccbrbgkbBdcCeabgcbc",
      "cjakbBaaccCeabeebccdaBebdalcCeabhbcbcubwfbcCeabgcbcchckbBeaChedcbdjaBoeCdabgbcbdhblbBdcCeabg",
      "bcbdhblbpamdCdbbgbcbdjakbBdcCsaefbabhsbCjacgmhDuacilgCvbBbababaebBxtbbfkbBjjaDwtxdecbccgddnl",
      "bakdBBbcBKkdBccBdbBebCmBfjaBtcbaEnbBiaEolelIleCfjbBccaBwBeBxeBvqBmimcBemCenBwtFwcbueagaccHqC",
      "lUeaHnBgEOccFlaDsBfVifEbbBSQedbjBgbDcbKmadaeaxeeaDfbByrBarnaBmhzmBsdBvnBkaCpnmaibBtcByabccbf",
      "bbaBpefbJchbbBDZsaBCjpqpOcbXhaIsaFteCMgcbbfdBoceaGjbWbdOxbDccCskBxdEscCboBpacbkdBtkhaCjcBknq",
      "bBsamcBwnidbbDolgacaGblvdCdbbgcbccjakbcgdeHkrxaDdtJbgciBbbDeqEcmDxoJwoJlfbbcdbabbFlgcgdaBcjB",
      "ogbdiajkBupPphbhDevbnEsfdabbbgbaCoebbbeNjdjbbaBwgdeHYragoURqeChgBOiabCchdDdalbBDAxbGYzBtcwUw",
      "edfihcgBedFscCYdCceBxiaoaweboCAigbqcgbbbeDwaGegOlaCjdTodBMegEfgEBgeBSXYuDrEyJf"]),
   (["fo", "format"],
     "GraCAkfwaHkaBxaOubDcaFTjaDAtbBaeBxebjDGHjaJpcGIzapaNKkpBZQudHWxhBTKZma"),
   (["hl", "hebrewletter"],
     "CFgBaedDOVyabjbmbebabbbbbj"),
   (["ka", "katakana"],
     "SGneDxbdDmbdJgpIaBubDjCZHeCdCOUcdbgbbbaLbcByaod"),
   (["le", "aletter"],
     String.join ["CnzgzBvakaeafwbBebSlgBhEiebbcdbagabcbabtbDebFiiGjbBlcdbabBobaEaaBsBqBjbbDubapbhbkccaqabBdBdD",
      "klayBgjbeafveajadaxyhkfxbfrBpCgCbdasahjppehcbcvbgbadddaqanbbcobkaifebcvbgbbbbbbBfdbatcqibcbv",
      "bgbbbedasapbxalhcbcvbgbbbedaBebbcparabfdcbddbbabbdbdcdlwaCahbcbwbpdaBaccacbBeaehbcbwbjbedaBf",
      "bbbpbribcbBocaqafcicyffrdxbibacgMbaClhbBjBbeKpBlbafacBqbMubdcgbabdcBobdcBgbdcgbabdcobCebdcCo",
      "BlpqDhcfdXvcqbzfCwdkhrnsorombcGtDkhecBhbafCrkBeIrwJeBurhCcBdnbkBrBaBjBpckBjcihBqccBpdbfbbdaf",
      "HjCmKrcfcBlcfchbabababBecCabgbadcbgddcfemfcbgEmanaqmDxaeacjbadegabababdbjddfeearBoBFhlbBmCRu",
      "IugddbmBlbafacCdhaqwjgbgbgbgbgbgbgbgDcaSbaCbbHsBqbDprBfBPToBSuCpBtcKidpkbuBuqBecDbyHmfbbabey",
      "pbcbdbwBdBzoBxCkfdabblBbkwzBchBuBcaBwBoxcbhFskhcmfcfcfjgbgbCfgEkBdQNrmweBwNGugmeCeDtBhNysClc",
      "CbBolEmebFeBkzgzCrBedfcfcfccBjlbzbsbbbocnBiEsCrCaKhBcdBwBvBfnBdfBlkBdcBjehbeBqGbsBjeBjeBniBz",
      "mkbobgbbbkbobgbbCpLyjvkhyfbBpbiCrfcabBrbbdacwkwjBeCnsbbkvkzCsCdgbCmapdbcbBcBqBcdBcBjhbBbBbCb",
      "kvksnrEgCuCdBynBynBjNkBpgbDaBckaivBqrBuuBbwmCaCfbcanBsBgyBaBjBdacaiBidamBvodvabaBjrbytbClgba",
      "bdbobjhBuBmhcbcvbgbbbedasameGcCasducBeBvubbaHcBuBpdBkBvuaChBqnaMpBrEmClBfhcachbbbxpabaDqhcBm",
      "qabaBcakBnhavalBttasCuKdibBkraBxBdEigbbbBlvazfbbbBfoaMpspabmbBhEuaDbBJlDyEgrHnDXkDspBPfrfFYv",
      "WkMUbVwhBerDarBdsBvqdBfufsBAmClEyCwfaComCmbbaBCVkEcfmdihjIWkDgbCsbbcacbcdblbabgbCmbdchbgbBbb",
      "dbebadgbNbcybybBebybBebybBebybBebybhCSyBegfKbCjFqBskgqaMjBdsBrSqBbBDcgbdbbbobHoChCphaBUidbBa",
      "bbbacabjbdbabagaeabababcbbbacabababababbbacdbgbdbdbabjbqfcbebqYezgzilcj"]),
   (["lf"],
     "ka"),
   (["mb", "midnumlet"],
     "BuaMCfbkaDGDpaGyaga"),
   (["ml", "midletter"],
     "CgaEuaBBraSdaFsaJXyaDGBbaCnaHoa"),
   (["mn", "midnum"],
     "BsaoaBGcaUcaFabDqaPfaJFfaDFZvadaChadaHbaoa"),
   (["nl", "newline"],
     "lbEqaLZmb"),
   (["nu", "numeric"],
     String.join ["BwjCIojbaFcjHqjPwjEojEojEojEojEojEojEojEojEojDsjEojCsjKsjCsjCTqjBmjLojEyjGkjgjHajDijFejgjCAE",
      "ojBAcjBmjHqjwjDijPqjBFMcjCCkjDFyjBFgjEyjCijFojKsjNejEojOkjDyjDyjQgjDyjBDejJmjCsjQgjBCKsjDijF",
      "ejBPBwBxDNcjQgjTijBQsjHBaj"]),
   (["ri", "regionalindicator"],
     "HGOkz"),
   (["sq", "singlequote"],
     "Bna"),
   (["zwj"],
     "MDpa")]

/-- The property `Sentence_Break`. -/
def sentenceBreaks : List (List String × String) :=
  [(["at", "aterm"],
     "BuaMCraDGDpaHfa"),
   (["cl", "close"],
     String.join ["BiaecBxabaBdabaBtapaFMsdCUnbDPjhzbkbCcbobYjdBdbBPgfhnDbbBfjPnvCldBgbBNmnobcjyashQljchbcCZRqb",
      "IhbBcpcbqfGnbBxabaBdababbbbDPOsc"]),
   (["cr"],
     "na"),
   (["ex", "extend"],
     String.join ["BDoEhKpgKdBsbabbbbbaCukBwuqaDxgcfcbbdBjaBeBaDnkCgijaydbibcbeBrcCihBqxbBgCccbrbgkbBdcCeabgcbc",
      "cjakbBaaccCeabeebccdaBebdalcCeabhbcbcubwfbcCeabgcbcchckbBeaChedcbdjaBoeCdabgbcbdhblbBdcCeabg",
      "bcbdhblbpamdCdbbgbcbdjakbBdcCsaefbabhsbCjacgmhDuacilgCvbBbababaebBxtbbfkbBjjaDwtxdecbccgddnl",
      "bakdBBbcBKkdBccBdbBebCmBfjaBtcbaEnbBiaEolelIleCfjbBccaBwBeBxeBvqBmimcBemCenBwtFwcbueagaccHqC",
      "lUebHmBgEOccFlaDsBfVifEbbBSQedbjBgbDcbKmadaeaxeeaDfbByrBarnaBmhzmBsdBvnBkaCpnmaibBtcByabccbf",
      "bbaBpefbJchbbBDZsaBCjpqpOcbXhaIsaFteCMgcbbfdBoceaGjbWbdOxbDccCskBxdEscCboBpacbkdBtkhaCjcBknq",
      "bBsamcBwnidbbDolgacaGblvdCdbbgcbccjakbcgdeHkrxaDdtJbgciBbbDeqEcmDxoJwoJlfbbcdbabbFlgcgdaBcjB",
      "ogbdiajkBupPphbhDevbnEsfdabbbgbaCoebbbeNjdjbbaBwgdeHYragoURqeChgBOiabCchdDdalbBDAxbGYzBtcwUw",
      "edfihcgBedFscCYdCceBxiaoaweboCAigbqcgbbbeDwaGegOlaCjdTodBMegEfgBTCAfDrEyJf"]),
   (["fo", "format"],
     "GraCAkfwaHkaBxaOubDcaFTjaDAqacbBaeBxebjDGHjaJpcGIzapaNKkpBZQudHWxhBTKZma"),
   (["le", "oletter"],
     String.join ["RbaedIaaBkgglBaabaFdaSqaEoBaeeBsBqBjbbDubapbhbkccaqabBdBdDklayBgjbeafveajadaxyhkfxbfrBpCgCbd",
      "asahjppehcbcvbgbadddaqanbbcobkaifebcvbgbbbbbbBfdbatcqibcbvbgbbbedasapbxalhcbcvbgbbbedaBebbcp",
      "arabfdcbddbbabbdbdcdlwaCahbcbwbpdaBaccacbBeaehbcbwbjbedaBfbbbpbribcbBocaqafcicyffrdxbibacgCg",
      "BvbbmgCgbbabebxbabjbbjacebavdBgaClhbBjBbeElBquaqfeddadbhcemmaCnBqcMtbdcgbabdcBobdcBgbdcgbabd",
      "cobCebdcCoBlpEjXvcqbzfCwdkhrnsorombcpBzBjaeaCpDkhecBhbafCrkBeBxBdcelBrezCcwjCaDeaDpBurhCcBdn",
      "bkBrBaBjBpckBjsBqccBpdbfbbdaBPqdCtccdEKtCdhaqwjgbgbgbgbgbgbgbgDcaSbcziheceeDhgcbDlbdfBqbDprB",
      "fBwpTsJTnCmBGUeCpBtcKidpkbCoaqaBgDbBniEaagaDzadgbcbdbwBdBzoBxCkfdabblBbkwzBchBuBcaqebjkebBox",
      "cbhuwdadBxbadbcecabaycckhcmfcfcfjgbgFpBiBdQNrmweBwMNcObcEbCpabjbmbebabbbbbEdBhNysClcCbBolEme",
      "bFeEbCdcBedfcfcfccBjlbzbsbbbocnBiEsCrCaKhBcdBwBvBfnBdfBlkBdcBjehbeEsCzDuBniBzGaLyjvkhzbEvfca",
      "bBrbbdacwkwjBeCnsbbkvkzCsCdgbCmapdbcbBcBqBcdBcBjhbBbBbCbkvksnrEgCuHbBjNkBpgbDaBckaivBqrBuuBb",
      "wmCaCfbcanBsBgyBaBjBdacaiBidamBvodvabaBjrbytbClgbabdbobjhBuBmhcbcvbgbbbedasameGcCasducBeBvub",
      "baHcBuBpdBkBvuaChBqnaCtBaBlgHdBrIdhcachbbbxpabaDqhcBmqabaBcakBnhavalBttasCuKdibBkraBxBdEigbb",
      "bBlvazfbbbBfoaMpspabmbBhEuaDbBJlDyEgrHnDXkDspBPfrfFYvWkMUbVwhBerDarBdsBvqdBfufsBHwCwfaComCmb",
      "baBcJBziBVpBqiNFrdbgbbbLepaBdccaodiPfDKuEcfmdihjNBcaThBskgqaMjBdsBrSqBbBDcgbdbbbobHoFeaBUidb",
      "BabbbacabjbdbabagaeabababcbbbacabababababbbacdbgbdbdbabjbqfcbebqGOaCLFbBgGDtgIncINpoLBkEPjUv",
      "CFyHHyfGFf"]),
   (["lf"],
     "ka"),
   (["lo", "lower"],
     String.join ["DtzBvakaeaBkxbhbabababababababababababababababababababababababababababbbabababababababbbabab",
      "ababababababababababababababababababababacababccabacadbeacadccacababacabbbacadabacbccgacacab",
      "abababababababbbababababababababbcabadababababababababababababababababababababababababababab",
      "ababgcacbbaeababababCqbBjhbBeeFkabadacdsaBbBibbdcbabababababababababababebacacbBzBvbabababab",
      "ababababababababababababajababababababababababababababababababababababababababacabababababab",
      "bbababababababababababababababababababababababababababababababababababababababababababababab",
      "ababaBwBoEItaBDjfDFuiEpHjCnababababababababababababababababababababababababababababababababa",
      "babababababababababababababababababababababababababababababababababababababababababibabababa",
      "bababababababababababababababababababababababababababababababababababababababababababababiif",
      "khihifkhihinchihihiebbgadcbbidcbihkcbbEranaqmEfadbdaBbaeaeacbideaBhpeaBGlzCTqBvbadbbababaeab",
      "bbhdabababababababababababababababababababababababababababababababababababababababababababab",
      "abababababbhabaeamBlbafaBTWdababababababababababababababababababababababatababababababababab",
      "ababababcFdababababababcbababababababababababababababababababababababababababababababjbabaca",
      "babababaeabacabcbabababababababababafafabababababababaeabagababababaycbabcBFpBqbngDbBEAigmeB",
      "OzzBVhBnFgBjFzkbobgbbRjaccbBpbiBXlByEMfBfBGJwBfBMMkzBagbrBazBadbabgbkBazBazBazBazBazBazBazBa",
      "zBaBbBcybfBaybfBaybfBaybfBaybfbaCSyjbtgfKbCjDHsBh"]),
   (["nu", "numeric"],
     String.join ["BwjCIojbbFbjHqjPwjEojEojEojEojEojEojEojEojEojDsjEojCsjKsjCsjCTqjBmjLojEyjGkjgjHajDijFejgjCAE",
      "ojBAcjBmjHqjwjDijPqjBFMcjCCkjDFyjBFgjEyjCijFojKsjNejEojOkjDyjDyjQgjDyjBDejJmjCsjQgjBCKsjDijF",
      "ejBPBwBxDNcjQgjTijBQsjHBaj"]),
   (["sc", "scontinue"],
     "BsbmaBYoaGsbSwaGBxafaDBebGAuaDAAwbbaBdbBdbdacakaGmbmaCva"),
   (["se", "sep"],
     "FdaLZmb"),
   (["sp"],
     "jabbtaExaIHjaDPnkBkaBvaFXwa"),
   (["st", "sterm"],
     String.join ["BhaBdaCAbaFrcGyaBrcJmaCjabadbLhbCPwbBEkaebBDtaHqbHwafaMcbNqdGsbcbBdbHgbCnbBKubjcFGuanawbQnaB",
      "SHwaKkbItadaOsbDibDraFwbFrcFobJpaBFFmbGnaBdaCnaEDwbBXdeBsdHhbEndExcEzbgaqbDkbbbEeaQbbOjbfoEb",
      "bJpcTxabaJrbDjbQebBAqbCwbBCMbbFdaCnblaBGtaBDOgaLIma"]),
   (["up", "upper"],
     String.join ["CnzDxwbgBhabababababababababababababababababababababababababababacabababababababacababababab",
      "ababababababababababababababababababbbabadbbabbbccdbbbcdbbbbababbbacabbbcbabbdahbbbbbbababab",
      "ababababacababababababababacbbabcbababababababababababababababababababababababababababababah",
      "bbbcabdbabababaLdabadaiagabcbabbbqbiBjaccdabababababababababababafacabbcByBwabababababababab",
      "ababababababababajabababababababababababababababababababababababababababbbabababababacababab",
      "ababababababababababababababababababababababababababababababababababababababababababababacBl",
      "EHdBlbafaBBuDhDUwabababababababababababababababababababababababababababababababababababababa",
      "bababababababababababababababababababababababababababababababababababababajababababababababa",
      "babababababababababababababababababababababababababababababababababababababababajhifkhihifla",
      "bababaihyhihihieleldmeleKbaeadccccadegabababdcdkbfaBaptaBFmzCSuBvBwabccabababdbacaicbabababa",
      "bababababababababababababababababababababababababababababababababababababababababababababaia",
      "baeaBTYjababababababababababababababababababababababatabababababababababababababaFfababababa",
      "babadababababababababababababababababababababababababababababababakababbbabababaeabacabadaba",
      "bababababababababebebabababababababdbagafabaBcaBHAhzBUzBnFgBjGakbobgbbCQcByENlBfBGJwBfBMMqzB",
      "azBazBaabbcacbcdbhBazBabbdchbgBbbbdbebadgBbzBazBazBazBazBazBeyBhyBhyBhyBhyBhaGNlBhDBizgzgz"])]

end RecordRules
