import RecordRules.Unicode.Ranges

/-! # Characters in domain names

What the Unicode standard on domain names says of each code point: it stays, it is left out, it
is replaced by other code points, or it is refused.

* `DomainMapping.of`   what becomes of a code point -/

namespace RecordRules

/-- What becomes of a code point in a domain name. -/
inductive DomainMapping where
  | valid
  | ignored
  | mapped (codes : List Nat)
  | disallowed
  deriving DecidableEq, Repr

namespace DomainMapping

/-- The code points that stay. -/
def validCodes : CodeRanges := .ofText <|
  String.join ["aCmBaBkBhgbabbbabbebdadaxahBgbababababababababababababababababababababababababadabbbababadab",
  "ababacababababababababababababababababababababababacabababacabacadbeacadccacababacabbbacadab",
  "accbgkabababababababbbababababababababbeadababababababababababababababababababababababababab",
  "ababababgcacbbaeababababDsjBegbfDmcadibBfbabababadcsaBbBiiababababababababababababadacabacbB",
  "zBvbababababababababababababababababibababababababababababababababababababababababababababac",
  "ababababababbbababababababababababababababababababababababababababababababababababababababab",
  "ababababababababaBpBtbcccbCciBaefrvbDjeDvbBvcCgcDwoCgcBwcobBbcabkfBfhCwbEmiBjbhcbcvbgbaddcic",
  "bcdiaidcyccbfebcvbgbacacbcabeebccdakajqkcbibcbvbgbbbecjbcbccapdclhgbcbhcbcvbgbbbecicbcchchec",
  "rkbbfdcbddbbabbdbdcdleedcbdcagaoufmbcbwbpcibcbdhbbcbbcdcjhvbcbwbjbecibcbdhbfcbdcjbcmmbcbBybc",
  "bfepczbcbrdxbibacgdaefbabhgjccmBxbgeBcBlbbabebxbablbjcebabgbjebBglbCbbdbdbdbdbdblbcebbafgbqb",
  "dbdbdbdbdblbcbobmBlGdBwBrbDtcIxbdcgbabdcBobdcBgbdcgbabdcobCebdcCocBfdzgDhkYpbBbdDkhvjxjtmmbc",
  "bbmBzcBncjgjgkfjgDkhBqfCrkBebleleadBpcelBrezgkdCjcCmbBcckgjgncBtcluCybGjiChdodBykaCbhiBqfBrd",
  "alasaBcmbBhBlClbabababababababababababababababababababababababababababababababababababababab",
  "ababababababababababababababababababababababababababababababababababababecbbabababababababab",
  "ababababababababababababababababababababababababababababababababababababababababiifkhihifkhi",
  "hiababababababaBzbeapajcdbicbdoavbcabebldaiccacdbabhdmbgCnhbyoBgtadalacbfbdabababaealagdffBw",
  "cbebbeFzcacJncJuwkGeBYmbDydDwbFucFhBwBvbadbbababaeabbbffabababababababababababababababababab",
  "abababababababababababababababababababababababababababababababhbabdbafBsbafacCdiaoxjgbgbgbgb",
  "gbgbgbgbEvBizbdbDeKkabBybadebDhcbcbbDqgBqDsboCrkpCuhBvaOuBQQedCcjNjvabababababababababababab",
  "ababababababababababsbabababababababababababababacDliBhbababababababcbababababababababababab",
  "ababababababababababababababababababababhbabacababababdbabbbabcbabababababababababafafababab",
  "ababababaeabacabababababababaBabcBydjgCdiCrilgEllBddCzbkeBgbCcjncjcDyyBbkfcfcfjgbgbBreibbDgB",
  "tcjgQNrmweBwMXmbbabbkababbccJkaFrBgNzrCmbCchBtcBgpvbBsaPglbzbsbbbocnBiEsfceBsdDjbmdaBvBtFaBc",
  "dBwpBbeBjjBdfBqfBdbBkenDeEncjBuBjeBniBzlaBnkbobgbbdBzmLyjvkhyaExfcabBrbbdacwbCtiiBwsbbfBgdBa",
  "fBaBmCdetcBxbbfhbcbBcccejhihClBgBmeljCbdBccBafzhdmgDcCuEpByhBtijgpzBcibIaBebBpbccbqfiiBhBtiB",
  "pwzBmBbuwjCzeBjjCjbenyhjgCabriBmjDrbtlrbBuCkgbabdbobkgCgfjgdbhcbcvbgbbbebjcbcccagafgcgdeljba",
  "cabBlbjbacabdbjbbibBdDnbeBeCtijGkCbcBlBiCqljgmtCfgjgtBcBacoewHdChFcBymhcachbbbBdbbcljjCshcBt",
  "ckBbCtiDenCuhjDihDkBhojgibBsbnkBcdBfcvbnCvgbbbBrdabbbiijgfbbbBkbbbfhjgBrejJmyhqbBodBcDhapBxn",
  "BJmDyEgbelHnDXkDunBPfqvkFXqfWkKDdCfCOsVwhBebjeDcbjgBdcfkCrkjbgbufsQqCfIwCgBgyBsCweCehqCmelgj",
  "KXxBpBfDtEkMWrdbgbbbLepaBdccaodiPfDKuEcfmdihjcdFVkIfBkcdQtgwpqpBtcwjElCiJlkBmcCahniClgBpvCrE",
  "stmtmDijyBSpZbpeboBQmBegfIfgbqcgbbbeDwaEiBsdncjebMiBerCffaRwBpIgBqeaHkBebvibIqgbdbbbobHocpCx",
  "BpejebBEfCpCyCiQsbKkBreDvmocobobBkveBfaBgzdBibBcCezDsfFyBLwdqdmdIjgleapleCdijgBniBdcleboiBnN",
  "fincmdkdCebaepclejhFqbDnkaBNpCLFbBgGMncIObcLBkpXxGRqHHyfMOn"]

/-- The code points that are left out. -/
def ignoredCodes : CodeRanges := .ofText <|
  "GraZxaFIlbCKhbDheDApaDgeffGKyaCZMppJfaGeaCTOxdHWxhBTLJhJf"

/-- Runs of code points that are replaced, as numbers: the distance of a run's first code point
    from that of the run before, twice the length less one (one more if the run takes every other
    code point), and the code points that replace the first one, after their number less one. -/
def replacementsText : String :=
  String.join ["CnByaDtDraaBgiabBgBDwcaaDtfabBgBDsdcaBycabBgBDpbaaBKudabBgBFbbaaBxbaaEhcacBxMFsCabacBxMFsByb",
  "acBzMFsCacBsaIqymaJoBoBvaJxBwabEbBDvcabEbEcbabEbEcbdaLxffaMcgabEeHbbabEeHbbhaMkiabBAyEgbBtaM",
  "tBuaaJvbfaOogaaElcaaWxbdaOxeaaWybaaPcccaXacaaPgdaaSjbaaXdbaaXfbaaPmcaaXkbaaXncaaXtbaaXsbaaPt",
  "eaaXzbaaYccaaYfbfaQbgaaYqbaaQicaaYtdaaQncaaYybaaQqccaZacdaQueaaZibaaQzeaaRdiabDwOsbabDwOsbab",
  "DwOsbabEeEcbabEeEcbabEeEcbabEgEcbabEgEcbabEgEcbpaRurraSltabDwEsbabDwEsbabDwEsbaaThcaaPpbaaRf",
  "bBnaTlBoaaPycraVbyaaQVdbaaWacaaPubaaQVedaaWgcaaOubaaYzbaaZcbjaWlEcaaEabaaXqbaaEcbaaEkbaaYjba",
  "aYlbaaYrbaaEpbaaErBgabBgBDubabBgBDvbabBgBDybabBgBFcbabBgBDrbabBgBDzdaaXnbaaEebaaElbaaEqbaaZl",
  "DocaBDodaaBEhbabBDwBDpbaaBKrBrdaBHxeaaBAvcaaBIdeabBgBKreaaChbaaBMxfabBgBDpbacBgBDwBDpbaaBKeb",
  "aaHbbeaBKfeaaBLkccaBLldBgaBKjsqaBLbBsaaBLvbaaBKkbaaBKqbaaBLdbaaBLlbaaBLjbaaBLebaaBKycxaBLxya",
  "aBKsbaaBKzbaaBLbcaaBKqbaaBKncaaBNccaaBLbbaaBNfdeaBIhdBeaBQmqCkaBPgDcBhaBRdBqCbaBStCcaaBVjbna",
  "BUwpDraBVlDtCwaCAzDiabCBdCCgJeabCIpCLobabCJwCLobabCOtCLobabCJyCLoBCiabDLlDMybabDLmDMybabDLnD",
  "MybabDLsDMybabDLxDMybabDLyDMybabDMhDMybabDMlDMyEvabDQvDRwbabDQwDRwcabDRjDRwDgabDWkDWudabDWqD",
  "WuBjabDViDWubabDVjDWubabDVoDWudabDWdDWuJuabEFpEGqbabEFqEGqBByabFKvFJuEyabFPtFOsBpabFOlFNtbab",
  "FOlFObBvaaFSdCdabFUgFYtkabFUqFYtfabFUvFYtfabFVaFYtfabFVfFYtnabFUeFYrkabFWbFWccabFWbFWebabFYo",
  "FWqbacFYoFWbFWqbabFYpFWqbacFYpFWbFWqiabFWbFWqsabFXiFYtkabFXsFYtfabFXxFYtfabFYcFYtfabFYhFYtna",
  "bFXgFYrIxCwaRBcBnaaRCpgaaRCvBvaaGKaBDkkaHOiDGaaaBPibaaBPkbaaBPubcaBPxcaaBPybaaBQgbaaBRfbaaCK",
  "ZjbaaKVahDgaGJoBteaGLhEhaaDtbaaIwbdaDudaaDxbaaSjboaDzjaaEhbaaVbbaaEibaaEkbcaEmcaaEpbaaDtbcaW",
  "ucaaKZqbaaDubcaDwcaaXdbcaXfcaaDzcaaEdbaaEfbaaMtbaaEhbaaWybcaLAkcaaEibcaEmcaaLArbaaXzbaaEobaa",
  "LAzbeaBKkdcaBLecaaEbbaaEkbcaEnccaBKkcaaBKzbcaBLepaaBPtBjaaWwbaaDvbaaWzbaaJgbaaXgbaaDybaaXjba",
  "aXlbaaXpbeaXsdaaLEhbaaZtbaaXxbaaLErbaaZvbaaYbbaaYabgaYceaaYibcaYscaaQlbcaYzcaaLAqbcaZbcaaEsb",
  "eaZgdaaBKqCnFtaLJlFyabDtBBabaaLNddaaIpcDraLPpEaoaLTgqkaLTwqoaLUmqoaLVcqkaLVsrhaLWjpoaLWyjaaB",
  "KecaaBKfcaaBKgcaaBKhcaaBLkcaaBLlcaaBLmdabLTgBKrbabLThBKrbabLTiBKrbabLTjBKrbabLTkBKrbabLTlBKr",
  "babLTmBKrbabLTnBKrbabLTgBKrbabLThBKrbabLTiBKrbabLTjBKrbabLTkBKrbabLTlBKrbabLTmBKrbabLTnBKrba",
  "bLUmBKrbabLUnBKrbabLUoBKrbabLUpBKrbabLUqBKrbabLUrBKrbabLUsBKrbabLUtBKrbabLUmBKrbabLUnBKrbabL",
  "UoBKrbabLUpBKrbabLUqBKrbabLUrBKrbabLUsBKrbabLUtBKrbabLWyBKrbabLWzBKrbabLXaBKrbabLXbBKrbabLXc",
  "BKrbabLXdBKrbabLXeBKrbabLXfBKrbabLWyBKrbabLWzBKrbabLXaBKrbabLXbBKrbabLXcBKrbabLXdBKrbabLXeBK",
  "rbabLXfBKrdabLXoBKrbabBKjBKrbabBKeBKrdabMAgBKrbcaMAacaaLXobaaBKebabBKjBKrbabBgBEhbaaBKrbabBg",
  "BEhbabBgBGcbacBgBDwBGcbabLXsBKrbabBKpBKrbabBKgBKrdabMAwBKrbaaLXqbaaBKfbaaLXsbaaBKgbabBKpBKrb",
  "acBgBEhBDobacBgBEhBDpbacBgBEhBGceaaBJcfcaMBgcaaLXubaaBKhcacBgBEiBDobacBgBEiBDpbacBgBEiBGceaa",
  "BKifcaMBwcaaLXybaaBLlbaaMCbbacBgBDwBDobacBgBDwBDpbaaDsdabLYaBKrbabBLhBKrbabBLmBKrdabMCsBKrba",
  "aLXwbaaBLkbaaLYabaaBLmbabBLhBKrbabBgBDpbabBgBEicaaBgbaaBgbaaBgbaaBgbaaBgbaaBgbaaBgbaaBgbaaBg",
  "baaBgbaaBghaaMDsgabBgBFnyaaBgeabMFaMFabacMFaMFaMFacabMFdMFdbacMFdMFdMFdfabBhBhcabBgBDtjabClC",
  "lbabClBhbabBhCloadMFaMFaMFaMFaiaaBgraaBwbaaEbdkaCagaaBrbaaMXmbaaCjbcaBocaaEgbsaBwkaaBrbaaMXm",
  "baaCjbcaBodaaDtbaaDxbaaEhbaaEqbaaXdbaaEabgaEdeaaEibcaElnabEkElDkacDtBvDvbacDtBvElbaaDvbabGuD",
  "vcacDvBvEhbacDvBvEnbaaXfcabGuDybcaDzcaaEabaaEabaaEabaaLjbaaEbbaaEbbaaEebdaEedabEgEhdeaEidaaE",
  "kbaaEkdabElEfbacEmDxEebabEmEfcaaEscaaBLhcaaEscaaEdbaaIvbcaDudaaDxbcaDxcaaMPybaaEfbaaEhbgaCFg",
  "eaaEbcacDyDtEqbaaBKybaaBKlbaaBKlbaaBKybaaMXlfaaDwbcaDwccaEbiacBxMFsCdbacBxMFsCfbadBxMFsBxBwb",
  "acBxMFsBzbacByMFsBzbacBxMFsCbbacByMFsCbbacBzMFsCbbacCaMFsCbbacBxMFsCcbacCbMFsCcbacBxMFsCebac",
  "BzMFsCebacCbMFsCebacCdMFsCebabBxMFsbaaEbbabEbEbbacEbEbEbbabEbEobaaEobabEoEbbacEoEbEbbadEoEbE",
  "bEbbabEbEqbaaEqbabEqEbbacEqEbEbbaaEebcaDvcaaEfbaaEbbabEbEbbacEbEbEbbabEbEobaaEobabEoEbbacEoE",
  "bEbbadEoEbEbEbbabEbEqbaaEqbabEqEbbacEqEbEbbaaEebcaDvcaaEfeaaMSagacBwMFsBzGhabMYlMYlbacMYlMYl",
  "MYlcabMYoMYobacMYoMYoMYoJpcaSEyLzqaBxjabBxBwbabBxBxbabBxBybabBxBzbabBxCababBxCbbabBxCcbabBxC",
  "dbabBxCebabBxCfbabByBwbacBoBxBpbacBoByBpbacBoBzBpbacBoCaBpbacBoCbBpbacBoCcBpbacBoCdBpbacBoCe",
  "BpbacBoCfBpbadBoBxBwBpbadBoBxBxBpbadBoBxByBpbadBoBxBzBpbadBoBxCaBpbadBoBxCbBpbadBoBxCcBpbadB",
  "oBxCdBpbadBoBxCeBpbadBoBxCfBpbadBoByBwBpvacBoDtBpbacBoDuBpbacBoDvBpbacBoDwBpbacBoDxBpbacBoDy",
  "BpbacBoDzBpbacBoEaBpbacBoEbBpbacBoEcBpbacBoEdBpbacBoEeBpbacBoEfBpbacBoEgBpbacBoEhBpbacBoEiBp",
  "bacBoEjBpbacBoEkBpbacBoElBpbacBoEmBpbacBoEnBpbacBoEoBpbacBoEpBpbacBoEqBpbacBoErBpbacBoEsBpbB",
  "yaDtBaByaDtBaaaBwBYoadMYlMYlMYlMYlEaacCgCgCjbabCjCjbacCjCjCjDyabQGbBFsLgDqaQTcDsaaQUzcaaXvba",
  "aLEjbaaYndfaQVggaaWvbaaYbbaaWubaaWwcaaQVrdaaQVuhaaEcbaaEobcaWdcDvaQWfEddaRAihaaRApEvaaREvLsa",
  "aBOVlDgaaCILrnaaBDOabaaBDPobaaBDQcbaaBDQlbaaBDRlbaaBDTdbaaBDTkbaaBDUebaaBDVebaaBETzbaaBEVlba",
  "aBEVrbaaBEWobaaBEXibaaBEYdbaaBFAebaaBFAzbaaBFBkbaaBFHjbaaBFKzbaaBFMbbaaBFMgbaaBFNkbaaBFNtbaa",
  "BFOubaaBFPhbaaBFQgbaaBFSgbaaBFSybaaBFTzbaaBGXbbaaBGZvbaaBHRnbaaBHSkbaaBHSsbaaBHTdbaaBHTvbaaB",
  "HWtbaaBIPcbaaBIQybaaBIVobaaBIWlbaaBIXebaaBIYabaaBJAcbaaBJAfbaaBJOdbaaBJOnbaaBJOzbaaBJPmbaaBJ",
  "TybaaBJUgbaaBJUlbaaBJYybaaBJZibaaBJZvbaaBKAdbaaBKCmbaaBKDdbaaBKDvbaaBKGxbaaBLDgbaaBLFabaaBLF",
  "vbaaBMIhbaaBMImbaaBMLrbaaBMMhbaaBMMubaaBMNpbaaBMPcbaaBMPhbaaBMZobaaBNAmbaaBNBsbaaBOOubaaBORi",
  "baaBOSfbaaBOUlbaaBOVjbaaBOVsbaaBOVzbaaBOXzbaaBOYebaaBOZkbaaBQOxbaaBRGcbaaBRGobaaBRGtbaaBRGxb",
  "aaBRHfbaaBRHxbaaBRHzbaaBRLcbaaBRTkbaaBRTpbaaBSGqbaaBSHabaaBSIybaaBSJfbaaBSJobaaBSJwbaaBSNjba",
  "aBSNqbaaBSWkbaaBSWrbaaBSYobaaBSZfbaaBTBabaaBTKdbaaBTKkbaaBTLbbaaBTXqbaaBUCmbaaBUCsbaaBUJsbaa",
  "BUNbbaaBUOvbaaBVDjbaaBVImbaaBWEobaaBWFpbaaBWHubaaBWJtbaaBWMjbaaBWMubaaBWNabaaBWOhbaaBWRfbaaB",
  "WRpbaaBXExbaaBXFebaaBXFnbaaBXFwbaaBXGmbaaBXHbbaaBXHfbaaBXKgbaaBXKkbaaBXKqbaaBYWjbaaBYXnbaaBZ",
  "PobaaBZQabaaBZQxbaaCABubaaCAChbaaCAFabaaCAGubaaCBCpbaaCBDebaaCBDtbaaCBFcbaaCBGnbaaCBOebaaCBO",
  "qbaaCBRfbaaCCAtbaaCCBybaaCCJzbaaCCKubaaCCKzbaaCCTlbaaCDAnbaaCDFibaaCDFobaaCDFtbaaCEPrbaaCEQa",
  "baaCEWabaaCFBybaaCFCbbaaCFDwbaaCFHxbaaCFIkbaaCFIobaaCFIvbaaCFMpbaaCFNxbaaCFOdbaaCFOrbaaCFVcb",
  "aaCFXbbaaCFXfbaaCGEgbaaCGEjbaaCGFcbaaCGOubaaCGQqbaaCGQxbaaCGTpbaaCGTzbaaCGUcbaaCGUmbaaCGVqba",
  "aCHKvbaaCIAfbaaCIApbaaCICbbaaCICxbaaCIDfbaaCIDpbaaCIDtbaaCIFhbaaCIFlbaaCIGcbaaCIGhbaaCIGubaa",
  "CIHvbaaCIIkbaaCIIsbaaCIKzbaaCILobaaCILsBraaBgcaaBuCaaaSFicaaBFNtbcaBFNwDuabBgSKnbabBgSKodabS",
  "JwSJyDsabSLnSMiBycaGLkcaaGRybaaGLmbcaGSaceaGLndkaGSegaaGMkbeaGLqdaaGMrbsaGLtkBoaGPdwcaGMecca",
  "GTbcaaGTgbaaGTibaaGTnbaaGTrbaaGTtbaaGMmbaaGTxbaaGTzbcaGMncaaGMqbcaGMscaaGMxbaaGMzbiaGNbfaaGN",
  "ibaaGNmbaaGNwbaaGOdbaaGOibcaGUrceaGOtdcaGQmcaaGQqbcaGQzcaaGRcbaaGRmbaaGRpeaaBDOabaaBDTkbaaBD",
  "OjbaaBGXfbaaBDOkbaaBDPtbaaBDOlbaaBSJybaaBDRlbaaBDOzbaaBDObbaaBHTxbaaBHAmbaaBDVeDtacBoGLkBpba",
  "cBoGLmBpbacBoGLnBpbacBoGLpBpbacBoGLqBpbacBoGLrBpbacBoGLtBpbacBoGLvBpbacBoGLwBpbacBoGLyBpbacB",
  "oGLzBpbacBoGMaBpbacBoGMbBpbacBoGMcBpbacBoCNDoBpbacBoCOWuBpbacBoCPTkBpbacBoCRMqBpbacBoCSJgBpb",
  "acBoCTFwBpbacBoCUZcBpbacBoCWSiBpbacBoCXOyBpbacBoCZIeBpbacBoDAEuBpbacBoDBBkBpbacBoDBYaBpbacBo",
  "DCUqBpbacBoCYCyBpbadBoCXAyCXTkBpbadBoCXAyDDIqBpcacBoBDOaBpbacBoBDTkBpbacBoBDOjBpbacBoBGXfBpb",
  "acBoBDTsBpbacBoBEVtBpbacBoBDOdBpbacBoBEVrBpbacBoBDRpBpbacBoBFNtBpbacBoBNAmBpbacBoBQOxBpbacBo",
  "BOZkBpbacBoBNBsBpbacBoCDFtBpbacBoBGZvBpbacBoBMPhBpbacBoBNLqBpbacBoBNAnBpbacBoBTXuBpbacBoBFVp",
  "BpbacBoBRJdBpbacBoCBGrBpbacBoBTYzBpbacBoBFIiBpbacBoBDWtBpbacBoBFZwBpbacBoBIPyBpbacBoBTApBpba",
  "cBoBDXxBpbacBoCBIdBpbacBoBFOmBpbacBoBTZpBpbacBoBDYnBpbacBoBXFeBpbacBoBXFnBpbaaBGHzbaaBJUibaa",
  "BMLrbaaBUUpjacEiEmDxbabByBxbabByBybabByBzbabByCababByCbbabByCcbabByCdbabByCebabByCfbabBzBwba",
  "bBzBxbabBzBybabBzBzbabBzCababBzCbbaaGLkbcaGLmceaGLpdaaGLtbcaGLvciaGLyfaaCNDobaaCOWubaaCPTkba",
  "aCRMqbaaCSJgbaaCTFwbaaCUZcbaaCWSibaaCXOybaaCZIebaaDAEubaaDBBkbaaDBYabaaDCUqbabCZIuCNMebabCYC",
  "yCXMubaaCXGicaaBDOabaaBDTkbaaBDOjbaaBGXfbaaBDTsbaaBEVtbaaBDOdbaaBEVrbaaBDRpbaaBFNtbaaBNAmbaa",
  "BQOxbaaBOZkbaaBNBsbaaCDFtbaaBGZvbaaBMPhbaaBNLqbaaBNAnbaaBTXubaaBFVpbaaBRJdbaaCBGrbaaBTYzbaaB",
  "FIibaaBUDsbaaBSKdbaaBHWtbaaCCRxbaaBETebaaBFPobaaBPGibaaCFOvbaaBDYnbaaBEXlbaaBORjbaaBDOkbaaBD",
  "PtbaaBDOlbaaBJOobaaBFUpbaaBFNnbaaBIRvbaaBIPybaaBTApbaaBDXxbaaCBIdbaaBFOmbaaBHTkbabBzCcbabBzC",
  "dbabBzCebabBzCfbabCaBwbabCaBxbabCaBybabCaBzbabCaCababCaCbbabCaCcbabCaCdbabCaCebabCaCfbabCbBw",
  "babBxBNAmbabByBNAmbabBzBNAmbabCaBNAmbabCbBNAmbabCcBNAmbabCdBNAmbabCeBNAmbabCfBNAmbacBxBwBNAm",
  "bacBxBxBNAmbacBxByBNAmbabEaDzbacDxEkDzbabDxEobacEeEmDwbaaSKwbaaSKybaaSLabaaSLcbcaSLecaaSLhba",
  "aSLjbaaSLlbaaSLnbaaSLpbaaSLrbaaSLtbaaSLvbaaSLxbaaSLzbaaSMbbaaSMebaaSMgbaaSMibkaSMkgaaSMsbaaS",
  "MvbaaSMybaaSNbbiaSNefaaSNkbaaSNmbkaSNoggaSNveabBDWuBGAmbadSKwSMrSOiSMibadSKwSNrSMvSKvbadSKwS",
  "NzSNaSKwbacSKwSOiSNrbadSKySMlSNzSLkbacSKySNzSMbbacSLaSLdSNzbaeSLcSLtSLjSOiSMjbadSLcSOiSLfSOi",
  "bacSLeSNzSLtbacSLeSOiSNgbacSLfSKySNqbadSLfSNpSMdSMibadSLfSNtSNqSOibacSLgSNtSNzbacSLgSNzSNeba",
  "bSLiSLgbacSLiSMlSOibadSLhSNlSNqSOibadSLiSNrSMaSOibabSLhSNtbaeSLhSNtSLkSNpSNgbafSLhSNtSNhSOiS",
  "MiSNrbaeSLhSNtSNvSMdSMibacSLkSNpSNgbaeSLkSNpSNgSMiSNzbaeSLjSNrSLwSKySNtbadSLjSNtSOiSMnbacSLl",
  "SOiSLtbacSLnSNrSMkbacSLnSOiSNdbadSLpSKySLjSNrbaeSLpSNzSMbSOiSNgbadSLrSNqSNzSLkbacSLvSNzSMbba",
  "cSLvSNzSMibacSMaSOiSLtbabSMhSLrbabSMjSNrbabSMiSNzbabSMkSMobacSMoSMdSMibacSMpSKySMebaeSMrSOiS",
  "LvSNzSMibacSMrSOiSMebadSMqSOiSNsSNrbaeSMuSKwSLtSMiSNrbacSMuSLjSNrbabSMuSLnbabSMtSNrbaeSMvSKv",
  "SNpSMdSMjbadSMvSKxSOiSMibaeSMwSMdSLrSLbSNrbacSMvSNpSNzbaeSMySLjSLzSOiSNrbabSNaSLxbacSNaSMlSM",
  "sbacSMySNrSMebacSNaSNzSLtbacSNaSOiSLsbacSMzSOiSLzbadSNdSKySNzSMibacSNcSNrSMibabSNbSNzbacSNdS",
  "NzSMjbacSNbSOiSNrbacSNbSOiSNzbadSNeSKySLjSNtbacSNeSKySNrbacSNeSMdSMpbacSNeSNrSLjbaeSNeSNzSLr",
  "SNnSNzbadSNfSLjSNtSNzbabSNfSNqbaeSNfSNqSMqSOiSNrbabSNhSLgbadSNhSLgSMiSNzbadSNhSOiSMiSNrbacSN",
  "kSOiSMjbacSNkSOiSNrbacSNmSKwSNzbadSNqSMdSMiSNrbabSNqSNpbacSNrSMuSOibadSNrSOiSMwSNrbabSNsSNgb",
  "aeSNsSNzSMiSLmSNzbacSNvSMdSMibabBwBQRxbabBxBQRxbabByBQRxbabBzBQRxbabCaBQRxbabCbBQRxbabCcBQRx",
  "babCdBQRxbabCeBQRxbabCfBQRxbacBxBwBQRxbacBxBxBQRxbacBxByBQRxbacBxBzBQRxbacBxCaBQRxbacBxCbBQR",
  "xbacBxCcBQRxbacBxCdBQRxbacBxCeBQRxbacBxCfBQRxbacByBwBQRxbacByBxBQRxbacByByBQRxbacByBzBQRxbac",
  "ByCaBQRxbacEaEiDtbabDwDtbabDtEnbacDuDtEkbabEhEobabEiDvbabDwEfbacDwEfBybacDwEfBzbabEbEnbabBJT",
  "zBLDobabBMSbBGAmbabBHTvBORjbabBMQwBPEpbadBNLqBJZzBDYwBTXubabEiDtbabEgDtbabBKuDtbabEfDtbabEdD",
  "tbabEdDubabEfDubabDzDubacDvDtEebadEdDvDtEebabEiDybabEgDybabBKuDybabBKuDzbabEfDzbabEdDzbabEaE",
  "sbacEdEaEsbacEfEaEsbacDzEaEsbacEmEaEsbabBKuEebabEfEebabDwEebabEdEebabDyEfbabEgEfbabBKuEfbabE",
  "fEfbabDvEfbabEdEfbacEfEfBybacDvEfBybabEfBybacEdEfBybacEfEfBzbacDvEfBzbabEfBzbacEdEfBzbacEfMX",
  "pElbadEfMXpElBybabEiDtbacEdEiDtbacEfEiDtbacDzEiDtbacEkDtDwbaeEkDtDwMXpElbafEkDtDwMXpElBybabE",
  "iElbabEgElbabBKuElbabEfElbabEiEobabEgEobabBKuEobabEfEobabEdEobabEfEobabEiEpbabEgEpbabBKuEpba",
  "bEfEpbabEdEpbabEfEpbabEdBLhbabEfBLhcabDuEjbabDvDvbabDvDwbadDvMXpEdDzcabDwDubabDzErbabEaDtbab",
  "EaEibabEbEgbabEdEdbabEdEfbabEdEmbabEeEfbabEeEgbacEeEhDzbabEeEqbabEfDubacEfEbEebacEfEhEebabEi",
  "EacacEiEiEfbabEiEkbabElEkbabElEobabEpDubacEoMXpEfbacDtMXpEfbabBxBMPhbabByBMPhbabBzBMPhbabCaB",
  "MPhbabCbBMPhbabCcBMPhbabCdBMPhbabCeBMPhbabCfBMPhbacBxBwBMPhbacBxBxBMPhbacBxByBMPhbacBxBzBMPh",
  "bacBxCaBMPhbacBxCbBMPhbacBxCcBMPhbacBxCdBMPhbacBxCeBMPhbacBxCfBMPhbacByBwBMPhbacByBxBMPhbacB",
  "yByBMPhbacByBzBMPhbacByCaBMPhbacByCbBMPhbacByCcBMPhbacByCdBMPhbacByCeBMPhbacByCfBMPhbacBzBwB",
  "MPhbacBzBxBMPhbacDzDtEeBRGzBtaCKYzCmBbaCLBlBcaaBQgbaaBQiFdnaCLHrqCjaCLIhCkaaCLKpjdaCLLaeaaLE",
  "fbjaCLLfnaaCLLscaaXpddaCLLxgtaCLMduaaXqbaaXgbaaXlbaaXwbaaXucaaZubaaYxbaaZtbaaCMWxbpaCLNhqaaC",
  "LMabaaYsbaaLFabdaCLOaeaaXobpaCLOfqaaPvvaaElbaaDvbaaDybaaEjbaaCLPudaaLjbaaNbBHjaaCLHvbaaCMVvb",
  "aaXvbaaCMWwkaaZdhGcaHLgBDJsaaCBDgbaaBMZsbaaCCBybaaCBIebaaBPZdbaaBDPybaaBFUbbaaCILobaaCILobaa",
  "BHVlbaaCDFtbaaBGKdbaaBHVcbaaBLCobaaBSVxbaaBWHpbaaBYVvbaaBZKkbaaBZWqbaaCCTjbaaBODubaaBPIhbaaB",
  "QTdbaaBRWwbaaBYCbbaaCDBubaaCGHtbaaBDTabaaBFPtbaaBONsbaaBRFnbaaBYVdbaaCHWwbaaBJIubaaBQJzbaaBY",
  "RlbaaCAAubaaBLKrbaaBXEmbaaBZOhbaaBJXibaaBNBbbaaBPLibaaBROebaaCCVubaaBEDabaaBEYpbaaBFJybaaBME",
  "ebaaBOLvbaaBRFcbaaBTAtbaaBWMjbaaBYTqbaaBYWybaaCBTnbaaCFGsbaaCGWlbaaCHVmbaaBTQybaaBUAhbaaBVOy",
  "baaBXXpbaaCDRobaaCIApbaaCAPabaaBHRbbaaBJZobaaBVCqbaaBWRebaaBRIgbaaBTTibaaCBHybaaCFElbaaBHQub",
  "aaBIZqbaaBOElbaaBPPqbaaBQBnbaaBVKpbaaBVUtbaaCEXvbaaBFJmbaaBWRrbaaBFAabaaBEZkbaaBUGibaaBVQcba",
  "aBXZdbaaCEZlbaaCAVobaaBLKxbaaBODubaaCAQobaaBDQfbaaBIUxbaaBKJybaaBRTnbaaBSMibaaBFMdbaaBTVfbaa",
  "BEFfbaaBKFxbaaBDOnbaaBPFgbaaBMLcbaaBVKcbaaBFStbaaBHMcbaaBTBtbaaBYCnbaaCANibaaBOUsbaaCCKubaaB",
  "PCqbaaBLMsbaaBXOvbaaBLSybaaBSLxbaaBDUsbaaBEVpbaaBEZhbaaBNOzbaaBVHvbaaBXKhbaaCAOwbaaCDFrbaaBF",
  "KvbaaBFXqbaaBHWtbaaBJYqbaaBMObbaaBQKsbaaBTXabaaCERtbaaCGMkbaaCIBnbaaCIDqbaaBFHjbaaBMXybaaBOS",
  "dbaaCCHubaaBJUabaaBKYqbaaBLCybaaBMCobaaBQChbaaBQXlbaaBSDlbaaBUDebaaBVSebaaBWQpbaaCCFmbaaBYIw",
  "baaCCPfbaaCDUgbaaBFChbaaBFHrbaaBGCjbaaBQSmbaaBZUobaaCANibaaBJXhbaaBKIvbaaBLRnbaaBOUgbaaBVBib",
  "aaBRSvbaaBDWubaaBGYjbaaBIUxbaaBJMwbaaBKKibaaBRVebaaBSCfbaaBWIkbaaBWPabaaCDJobaaCFEkbaaCFHoba",
  "aCFPobaaBEDfbaaBUCcbaaCDEqbaaCFCabaaBKRxbaaBDTebaaBEQcbaaBIVebaaBIYhbaaBMMjbaaBODubaaBRCobaa",
  "BSUkbaaBYJkbaaCCSqbaaCIKzbaaBMVobaaCEWsbaaBFGrbaaBNExbaaBNJnbaaBPJtbaaBPXcbaaBRYnbaaBSLlbaaB",
  "TPrbaaBVJkbaaCFSgbaaBEVtbaaBLEsbaaCEZobaaBEJjbaaBJGrbaaBPQgbaaCCFqbaaBKEtbaaBKVsbaaBNKxbaaBR",
  "TnbaaCFAcbaaBFCzbaaBFVrbaaBIZtbaaBMRbbaaBNDebaaBNQmbaaBPGfbaaBRYkbaaBSQsbaaBWHdbaaBZVbbaaBZV",
  "tbaaCDFobaaCFDqbaaBFNrbaaBPYgbaaBFWfbaaBRCqbaaBSEabaaBYTebaaCFBfbaaCHFjbaaCIBvbaaBNFzbaaBPPb",
  "baaBXFcbaaBUNbbaaBUQibaaBVEobaaBRLwbaaBQQrbaaCAUabaaBDVkbaaBXRybaaBFDqbaaBFBrbaaBJVybaaBLLbb",
  "aaBVHebaaBIRdbaaBPIkbaaBMXgbaaCCGhbaaBZQabaaCEXxbaaCAChbaaBJXrbaaBEUabaaBGMidaaBHLycaaBMUuda",
  "aBFAcbaaBRPybaaBSZqbaaBTXsbaaBTZabaaBTZhbaaBUAxbaaCFIcbaaBVGgbaaBWJtcaaBYUccaaCAQidaaCCQabaa",
  "CCXpeaaCFXvbaaCFYibaaCGAabaaCHSubaaCCWkbaaCFBzbaaBEEobaaBEQpbaaBEUnbaaBFJdbaaBFKebaaBFOjbaaB",
  "GKzbaaBGPabaaBGSubaaBHKybaaBHOybaaBIZsbaaBJAcbaaBKOybaaBKXcbaaBKYobaaBLCkbaaBMJnbaaBMPebaaBM",
  "VxbaaBNPdbaaBPLvbaaBPScbaaBQCgbaaBQYwbaaBRGdbaaBRZmbaaBTRdbaaBTXubaaBTYfbaaBTYebaaBTYmbaaBTY",
  "sbaaBTYzbcaBUAvcaaBUHsbaaBUKfbaaBUWmbaaBVSebaaBVSzbaaBVVdbaaBWGwbaaBWMnbaaBXFhbaaBXKrbaaBXKr",
  "baaBYDbbaaBZXobaaCACsbaaCAQrbaaCASvbaaCBIpbaaCBKqbaaCCLabaaCCQabaaCFDrbaaCFOpbaaCFQxbaaBKNtb",
  "aaILGgbaaBXGydaaBDPmbaaBEYnbaaBEVobaaBECubaaBEUfbaaBEWmbaaBFJbbaaBFLabaaBGKzbaaBGIfbaaBGKvba",
  "aBGNqbaaBHLybaaBHPjbaaBHUybaaBHVobaaBIFybaaBINobaaBJXqbaaBJXxbaaBKDlbaaBKGbbaaBKRobaaBKWcbaa",
  "BKTkbaaBKYobaaBKWubaaBLCkbaaBLEybaaBLUibaaBLXsbaaBLZubaaBMJubaaBMUubaaBNBbbaaBNBfbaaBNDmbaaB",
  "OSfbaaBOUsbaaBPJtbaaBPZnbaaBPYxbaaBQCgbaaBQLybaaBQYwbaaBTIdbaaBRGnbaaBRLfbaaBRPybaaBSCnbaaBS",
  "IgbaaBSKhbaaBSSzbaaBSTbbaaBSZqbaaBTAhbaaBTBgbaaBTEobaaBTEebaaBTTkbaaBUMbbaaBUWmbaaBVDrbaaBVM",
  "hbaaBVSebaaBWEwbaaBWMnbaaBXTabaaBXZbbaaBZHxbaaBZZlbaaCACcbaaCACsbaaCAOdbaaCAQibaaCAOpbaaCAQr",
  "baaCAQobaaCAPxbaaCASvbaaCAVybaaCBKqbaaCCGebaaCCSgbaaCDDpbaaCDMcbaaCEZsbaaCFDrbaaCFIcbaaCFNfb",
  "aaCFOpbaaCFPbbaaCFQxbaaCGSwbaaCILobaaIBDybaaIBDsbaaIFNpbaaWOzbaaYHcbaaYIjbaaIRBlbaaIVBcbaaJH",
  "XzbaaCIIdbaaCILaBnabDyDybabDyEbbabDyEebacDyDyEbbacDyDyEebabElEmbabElEmnabCBsCBubabCBsCBdbabC",
  "BsCBjbabCCcCBubabCBsCBlgabCFpCEecabCGoCEhbaaCFybaaCFgbcaCFjceaCFrdaaCGebaaCGgbaaBrbabCGfCErb",
  "abCGfCEsbacCGfCEmCErbacCGfCEmCEsbabCFgCEhbabCFgCEibabCFgCEmbabCFhCEmbabCFiCEmbabCFjCEmbabCFk",
  "CEmbabCFlCEmbabCFmCEmcabCFoCEmbabCFpCEmbabCFqCEmbabCFrCEmbabCFsCEmcabCFuCEmcabCFwCEmbabCFxCE",
  "mcabCFzCEmbabCGaCEmcabCGcCEmbabCGdCEmbabCGeCEmbabCGfCEmbabCGgCEmbabCFlCEjbabCFhCEpbabCFrCEpb",
  "abCGaCEpbabCFgCFsbaaCLlbaaCLlbaaCLvbaaCLvbaaCLvbaaCLvbaaCLybaaCLybaaCLybaaCLybaaCMabaaCMabaa",
  "CMabaaCMabaaCLubaaCLubaaCLubaaCLubaaCLzbaaCLzbaaCLzbaaCLzbaaCLtbaaCLtbaaCLtbaaCLtbaaCNkbaaCN",
  "kbaaCNkbaaCNkbaaCNmbaaCNmbaaCNmbaaCNmbaaCMebaaCMebaaCMebaaCMebaaCMdbaaCMdbaaCMdbaaCMdbaaCMgb",
  "aaCMgbaaCMgbcaCMgcaaCMhbaaCMhbaaCMhbaaCMnbaaCMnbaaCMmbaaCMmbaaCMobaaCMobaaCMibaaCMibaaCMybaa",
  "CMybaaCMrbaaCMrbaaCNpbaaCNpbaaCNpbaaCNpbaaCNvbaaCNvbaaCNvbaaCNvbaaCNzbaaCNzbaaCNzbaaCNzbaaCN",
  "xbaaCNxbaaCNxbaaCNxbaaCOgbcaCOgcaaCOhbaaCOhbaaCOhbaaCOmbcaCOmcaaCOnbaaCOnbaaCOnbaaCOkbaaCOkb",
  "aaCOkbaaCOkbaaCPebcaCPecaaCPfBiaaCNtbaaCNtbaaCNtbaaCNtbaaCOtbaaCOtbaaCOsbaaCOsbaaCOubaaCOuba",
  "bCOtCLobaaCOxbaaCOxbaaCOrbaaCOrbaaCOvbaaCOvbaaCPcbaaCPcbaaCPcbaaCPcbaaCJxbaaCJxbabCIoCIpbabC",
  "IoCIpbabCIoCPhbabCIoCPhbabCIoCJwbabCIoCJwbabCIoCOtbabCIoCOtbabCIoCOsbabCIoCOsbabCIoCOubabCIo",
  "COubabCIoCPcbabCIoCPcbabCIoCPcbabCIoCJxbabCIoCJxbabCIoCJxbaaCOybaaCOybaaCOybaaCOybabCIoCIuba",
  "bCIoCIvbabCIoCJtbabCIoCJxbabCIoCJybabCIqCIubabCIqCIvbabCIqCIwbabCIqCJtbabCIqCJxbabCIqCJybabC",
  "IsCIubabCIsCIvbabCIsCIwbabCIsCJtbabCIsCJxbabCIsCJybabCItCIubabCItCJtbabCItCJxbabCItCJybabCIu",
  "CIvbabCIuCJtbabCIvCIubabCIvCJtbabCIwCIubabCIwCIvbabCIwCJtbabCJbCIubabCJbCIvbabCJbCIwbabCJbCJ",
  "tbabCJdCIvbabCJdCJtbabCJeCIubabCJeCIvbabCJeCIwbabCJeCJtbabCJfCIvbabCJfCJtbabCJgCJtbabCJhCIub",
  "abCJhCJtbabCJiCIubabCJiCJtbabCJpCIubabCJpCIvbabCJpCIwbabCJpCJtbabCJpCJxbabCJpCJybabCJqCIvbab",
  "CJqCJtbabCJqCJxbabCJqCJybabCJrCIpbabCJrCIubabCJrCIvbabCJrCIwbabCJrCJsbabCJrCJtbabCJrCJxbabCJ",
  "rCJybabCJsCIubabCJsCIvbabCJsCIwbabCJsCJtbabCJsCJxbabCJsCJybabCJtCIubabCJtCIvbabCJtCIwbabCJtC",
  "JtbabCJtCJxbabCJtCJybabCJuCIubabCJuCIvbabCJuCIwbabCJuCJtbabCJuCJxbabCJuCJybabCJvCIubabCJvCJt",
  "babCJvCJxbabCJvCJybabCJyCIubabCJyCIvbabCJyCIwbabCJyCJtbabCJyCJxbabCJyCJybabCIyCLkbabCIzCLkba",
  "bCJxCLkbacBgCKaCKfbacBgCKbCKfbacBgCKcCKfbacBgCKdCKfbacBgCKeCKfbacBgCKfCLkbabCIoCIzbabCIoCJab",
  "abCIoCJtbabCIoCJubabCIoCJxbabCIoCJybabCIqCIzbabCIqCJababCIqCJtbabCIqCJubabCIqCJxbabCIqCJybab",
  "CIsCIzbabCIsCJababCIsCJtbabCIsCJubabCIsCJxbabCIsCJybabCItCIzbabCItCJababCItCJtbabCItCJubabCI",
  "tCJxbabCItCJybabCJpCJxbabCJpCJybabCJqCJxbabCJqCJybabCJrCIpbabCJrCJsbabCJrCJtbabCJrCJxbabCJrC",
  "JybabCJsCJtbabCJsCJxbabCJsCJybabCJtCIpbabCJtCJtbabCJuCIzbabCJuCJababCJuCJtbabCJuCJubabCJuCJx",
  "babCJuCJybabCJxCLkbabCJyCIzbabCJyCJababCJyCJtbabCJyCJubabCJyCJxbabCJyCJybabCIoCIubabCIoCIvba",
  "bCIoCIwbabCIoCJtbabCIoCJvbabCIqCIubabCIqCIvbabCIqCIwbabCIqCJtbabCIqCJvbabCIsCIubabCIsCIvbabC",
  "IsCIwbabCIsCJtbabCIsCJvbabCItCJtbabCIuCIvbabCIuCJtbabCIvCIubabCIvCJtbabCIwCIubabCIwCJtbabCJb",
  "CIubabCJbCIvbabCJbCIwbabCJbCJtbabCJdCIvbabCJdCIwbabCJdCJtbabCJeCIubabCJeCIvbabCJeCIwbabCJeCJ",
  "tbabCJfCIvbabCJgCJtbabCJhCIubabCJhCJtbabCJiCIubabCJiCJtbabCJpCIubabCJpCIvbabCJpCIwbabCJpCJtb",
  "abCJqCIvbabCJqCJtbabCJrCIubabCJrCIvbabCJrCIwbabCJrCJsbabCJrCJtbabCJsCIubabCJsCIvbabCJsCIwbab",
  "CJsCJtbabCJsCJvbabCJtCIubabCJtCIvbabCJtCIwbabCJtCJtbabCJuCIubabCJuCIvbabCJuCIwbabCJuCJtbabCJ",
  "uCJvbabCJvCIubabCJvCJtbabCJvCLkbabCJyCIubabCJyCIvbabCJyCIwbabCJyCJtbabCJyCJvbabCIoCJtbabCIoC",
  "JvbabCIqCJtbabCIqCJvbabCIsCJtbabCIsCJvbabCItCJtbabCItCJvbabCJbCJtbabCJbCJvbabCJcCJtbabCJcCJv",
  "babCJrCJsbabCJrCJtbabCJsCJtbabCJuCJtbabCJuCJvbabCJyCJtbabCJyCJvbacCJoCKcCKfbacCJoCKdCKfbacCJ",
  "oCKeCKfbabCJfCJxbabCJfCJybabCJhCJxbabCJhCJybabCJiCJxbabCJiCJybabCJbCJxbabCJbCJybabCJcCJxbabC",
  "JcCJybabCIvCJxbabCIvCJybabCIuCJxbabCIuCJybabCIwCJxbabCIwCJybabCJdCJxbabCJdCJybabCJeCJxbabCJe",
  "CJybabCJcCIubabCJcCIvbabCJcCIwbabCJcCJtbabCJcCIzbabCJbCIzbabCJdCIzbabCJeCIzbabCJfCJxbabCJfCJ",
  "ybabCJhCJxbabCJhCJybabCJiCJxbabCJiCJybabCJbCJxbabCJbCJybabCJcCJxbabCJcCJybabCIvCJxbabCIvCJyb",
  "abCIuCJxbabCIuCJybabCIwCJxbabCIwCJybabCJdCJxbabCJdCJybabCJeCJxbabCJeCJybabCJcCIubabCJcCIvbab",
  "CJcCIwbabCJcCJtbabCJcCIzbabCJbCIzbabCJdCIzbabCJeCIzbabCJcCIubabCJcCIvbabCJcCIwbabCJcCJtbabCJ",
  "bCJvbabCJcCJvbabCJfCJtbabCJbCIubabCJbCIvbabCJbCIwbabCJcCIubabCJcCIvbabCJcCIwbabCJfCJtbabCJgC",
  "JtbabCIpCJzbabCIpCJztacCIsCIuCJtbacCIsCIvCIubacCIsCIvCIubacCIsCIvCJtbacCIsCIwCJtbacCIsCJtCIu",
  "bacCIsCJtCIvbacCIsCJtCIwbacCIuCJtCIvbacCIuCJtCIvbacCIvCJtCJybacCIvCJtCJxbacCJbCIvCIubacCJbCI",
  "uCIvbacCJbCIuCJxbacCJbCJtCIvbacCJbCJtCIvbacCJbCJtCIubacCJbCJtCJtbacCJbCJtCJtbacCJdCIvCIvbacC",
  "JdCIvCIvbacCJdCJtCJtbacCJcCIvCJtbacCJcCIvCJtbacCJcCIuCJybacCJcCJtCIwbacCJcCJtCIwbacCJcCJtCJt",
  "bacCJcCJtCJtbacCJeCIvCJxbacCJeCIwCJtbacCJeCIwCJtbacCJfCJtCIvbacCJfCJtCIvbacCJfCJtCJtbacCJfCJ",
  "tCJybacCJhCIuCJtbacCJhCJtCJtbacCJhCJtCJtbacCJhCJtCJxbacCJiCJtCJtbacCJiCJtCJybacCJiCJtCJxbacC",
  "JpCIwCJtbacCJpCIwCJtbacCJqCJtCIvbacCJqCJtCJtbacCJsCIvCJtbacCJsCIvCJybacCJsCIvCJxbacCJsCIuCIu",
  "bacCJsCIuCIubacCJsCIwCJtbacCJsCIwCJtbacCJsCJtCIvbacCJsCJtCIvbacCJtCIvCIubacCJtCIvCJtbacCJtCI",
  "vCJybacCJtCIuCIvbacCJtCIuCJtbacCJtCIwCIubacCJtCIwCJtdacCJtCIuCIwbacCJvCJtCIubacCJvCJtCJtbacC",
  "JuCIvCJtbacCJuCIvCJxbacCJuCIuCJtbacCJuCIuCJtbacCJuCIuCJxbacCJuCJtCJybacCJuCJtCJxbacCJyCJtCJt",
  "bacCJyCJtCJtbacCIqCIwCJybacCIsCIuCJybacCIsCIuCJxbacCIsCIwCJybacCIsCIwCJxbacCIsCJtCJybacCIsCJ",
  "tCJxbacCIuCJtCJybacCIuCIvCJxbacCIuCJtCJxbacCJbCIwCJxbacCJdCIvCJybacCJcCIvCJybacCJeCIvCJybacC",
  "JsCIuCJybacCJsCJtCJybacCJyCIvCJybacCJyCIuCJybacCJyCJtCJybacCJtCJtCJybacCJqCJtCJybacCJuCIvCJy",
  "bacCJqCJtCIvbacCJsCIvCJtbacCJhCJtCJybacCJrCJtCJybacCJuCIuCIvbacCJtCIwCJybacCJsCIuCJtbacCJrCJ",
  "tCJtbacCJsCIuCJtbacCJuCIuCIvbacCIuCIvCJybacCIvCIuCJybacCJtCIuCJybacCJpCJtCJybacCIqCIvCJybacC",
  "JrCJtCJtbacCJhCIuCJtbacCJdCJtCJtbacCJbCIwCJybacCJuCIuCJyBpacCJdCJsCPebacCJqCJsCPebadCIpCJsCJ",
  "sCJvbadCIpCJrCIqCIzbadCJtCIvCJtCIxbadCJdCJsCJhCJtbadCIzCJbCJwCJsbadCJhCJsCJyCJvbadCJwCJbCJsC",
  "JtbacCJdCJsCJxbarCJdCJsCJxBgCIpCJsCJsCJvBgCJhCJsCJyCJvBgCJwCJbCJsCJtbahCIuCJsBgCIuCJsCIpCJsC",
  "JvbadCIzCOyCIpCJsuaaBsbaaSErccaCgcaaBhbaaClbcaSFmBaaaMDwbaaMDvbaaDrbaaDrbcaBocaaEtbaaEvbcaSF",
  "kccaSFgccaSFaccaSEycgaSFcgaaDnbaaDpbabBgBDtbabBgBDtbabBgBDtbabBgBDtbaaDrbaaDrbaaDrbaaBsbaaSE",
  "rdaaChbaaCgbaaClbaaBhbaaMDwbcaBocaaEtbaaEvbcaSFkcaaBjbaaBmbcaBqcaaBtbaaCibaaCkbaaCjcaaDobcaB",
  "kcaaCmfabBgCJzbabCJoCJzbabBgCKacabBgCKbcabBgCKcbabCJoCKcbabBgCKdbabCJoCKdbabBgCKebabCJoCKeba",
  "bBgCKfbabCJoCKfbabBgCKgbabCJoCKgbcaCIjccaCIkccaCIlccaCImccaCIncaaCIobaaCIobcaCIoccaCIpcaaCIq",
  "baaCIqbcaCIqccaCIrcaaCIsbaaCIsbcaCIscaaCItbaaCItbcaCItcaaCIubaaCIubcaCIucaaCIvbaaCIvbcaCIvca",
  "aCIwbaaCIwbcaCIwccaCIxccaCIyccaCIzccaCJacaaCJbbaaCJbbcaCJbcaaCJcbaaCJcbcaCJccaaCJdbaaCJdbcaC",
  "JdcaaCJebaaCJebcaCJecaaCJfbaaCJfbcaCJfcaaCJgbaaCJgbcaCJgcaaCJhbaaCJhbcaCJhcaaCJibaaCJibaaCJi",
  "baaCJpbaaCJpbaaCJpbcaCJpcaaCJqbaaCJqbcaCJqcaaCJrbaaCJrbcaCJrcaaCJsbaaCJsbcaCJscaaCJtbaaCJtbc",
  "aCJtcaaCJubaaCJubcaCJucaaCJvbaaCJvbcaCJvccaCJwccaCJxcaaCJybaaCJybaaCJybabCJsCIkbabCJsCIkbabC",
  "JsCIlbabCJsCIlbabCJsCInbabCJsCInbabCJsCIpbabCJsCIpfCkaBhBgByaDtBaCsaDnBkcaPSvcaaBubcaSFccaaS",
  "ErbaaSOhbaaSNybaaSKvbaaSKxbaaSKzbaaSLbbaaSLdbaaSNjbaaSNlbaaSNnbaaSMdbaaSOibaaSKwbaaSKybaaSLa",
  "baaSLcbcaSLecaaSLhbaaSLjbaaSLlbaaSLnbaaSLpbaaSLrbaaSLtbaaSLvbaaSLxbaaSLzbaaSMbbaaSMebaaSMgba",
  "aSMibkaSMkgaaSMsbaaSMvbaaSMybaaSNbbiaSNefaaSNkbaaSNmbkaSNogaaSNvbaaSNzbcaSKndcaGLkcaaGRybaaG",
  "LmbcaGSaceaGLndkaGSegaaGMkbeaGLqdaaGMrbsaGLtnkaGPdikaGPjikaGPpieaGPvgcaGgcaaGqbabBgBDsbaaGkb",
  "aaGjbaaMJpcaaOAkbgaMSmeaaOGmbaaOIdBOcDaaDUNoGuCsaDUUiHkuaDVBrmBcaDVCdqmaDVCticaDVDbSzcaBBsca",
  "aIwbaaZpbaaWxcaaZzbaaCMXqbaaBAbbaaBAabcaXacaaLFdbaaXcbaaXibaaBAfbaaXobaaXmbaaXkbaaZrbaaLjbaa",
  "ZsbaaXrbaaYubcaBAgcaaXwbaaGZKmbaaCLLubaaXybaaGZKnbaaZebaaGZKobaaJobcaYgcaaEjbaaYkbaaGZKqbcaY",
  "ncaaYqbaaBAebaaBAcbaaCMXrbaaBAdbaaYybaaQVpcaaZfbcaZxcaaZobeaRgdaaGZKsbaaGZLmBVaDwaDXUeIaBqaD",
  "YAyEHkCkaECIiBGLcCkaFITkDsBwaFIWxBJRqByaDtBasaBwBRqabGUFvGUGjbabGUFwGUGjbacGUFwGUGjGUGsbacGU",
  "FwGUGjGUGtbacGUFwGUGjGUGubacGUFwGUGjGUGvbacGUFwGUGjGUGwDjabGUJpGUGjbabGUJqGUGjbacGUJpGUGjGUG",
  "sbacGUJqGUGjGUGsbacGUJpGUGjGUGtbacGUJqGUGjGUGtWeByaDtBaByaDtBaByaDtBamaDtiBiaEbsByaDtBaByaDt",
  "BadaDtdaaDwdaaDzdcaEcegaEgfoaEligaDtfdaDydkaEbhuaEilByaDtBaByaDtBacaDtdgaDwgoaEcjmaEliByaDtB",
  "acaDtdgaDwfiaEbgaaEhemaEliByaDtBaByaDtBaByaDtBaByaDtBaByaDtBaByaDtBaByaDtBaByaDtBaByaDtBaBya",
  "DtBaByaDtBaByaDtBaByaDtBaaaLtbaaVvdBgaBKjraaBKqbmaBLbhaaMXbbBgaBKjraaBLbbmaBLbhaaMWwbaaBKnba",
  "aBKqbaaBKsbaaBLebaaBKzbaaBKybBgaBKjraaBKqbmaBLbhaaMXbbBgaBKjraaBLbbmaBLbhaaMWwbaaBKnbaaBKqba",
  "aBKsbaaBLebaaBKzbaaBKybBgaBKjraaBKqbmaBLbhaaMXbbBgaBKjraaBLbbmaBLbhaaMWwbaaBKnbaaBKqbaaBKsba",
  "aBLebaaBKzbaaBKybBgaBKjraaBKqbmaBLbhaaMXbbBgaBKjraaBLbbmaBLbhaaMWwbaaBKnbaaBKqbaaBKsbaaBLeba",
  "aBKzbaaBKybBgaBKjraaBKqbmaBLbhaaMXbbBgaBKjraaBLbbmaBLbhaaMWwbaaBKnbaaBKqbaaBKsbaaBLebaaBKzba",
  "aBKybaaBMbbaaBMbdsaBwksaBwksaBwksaBwksaBwDDaqaBPgjeaBPqduaBPulaaBQhbcaBQjcaaCLBtbaaBVtbaaBQs",
  "baaBQubaaBWjbaaBUdbaaBVjbqaBPgjcaBPqccaBPucaaBPxbkaBPzgcaBQgcaaBSzbaaBQsbaaBQrbaaBRbbaaBTzba",
  "aCKZpbaaBUfDGlCoaHDGcBXgcaCIpcaaCIubaaCIxcaaCJwbaaCJabaaCIvbaaCJfbaaCJybgaCJreaaCJbbaaCJhbaa",
  "CJpbaaCJdbaaCJqbaaCIzbaaCJcbcaCIscaaCIwbaaCIybaaCJebaaCJgbaaCJibaaCLibaaCOgbaaCNhbaaCLjcaaCI",
  "qbaaCIucaaCJvdaaCIvcaaCJybgaCJreaaCJbbaaCJhbaaCJpbaaCJdbaaCJqcaaCJcbcaCIscaaCIwcaaCJecaaCJih",
  "aaCIufaaCIvcaaCJycdaCJsdaaCJbbaaCJhcaaCJdbaaCJqcaaCJcdaaCIwcaaCJecaaCJicaaCOgcaaCLjcaaCIqbaa",
  "CIucaaCJvdaaCIvbaaCJfbaaCJybdaCJrdaaCJubaaCJbbaaCJhbaaCJpbaaCJdbaaCJqcaaCJcbcaCIscaaCIwcaaCJ",
  "ebaaCJgbaaCJibaaCLicaaCNhccaCIpcaaCIubaaCIxbcaCJvcaaCJabaaCIvbaaCJfbaaCJyceaCJsdaaCJbbaaCJhb",
  "aaCJpbaaCJdbaaCJqbaaCIzbaaCJcbcaCIscaaCIwbaaCIybaaCJebaaCJgbaaCJigaaCIqbaaCIubaaCIxcaaCJwbaa",
  "CJabaaCIvbaaCJfbaaCJyceaCJsdaaCJbbaaCJhbaaCJpbaaCJdbaaCJqbaaCIzbaaCJcbcaCIscaaCIwbaaCIybaaCJ",
  "ebaaCJgbaaCJiWkabBwBsbabBxBsbabByBsbabBzBsbabCaBsbabCbBsbabCcBsbabCdBsbabCeBsbabCfBsgacBoDtB",
  "pbacBoDuBpbacBoDvBpbacBoDwBpbacBoDxBpbacBoDyBpbacBoDzBpbacBoEaBpbacBoEbBpbacBoEcBpbacBoEdBpb",
  "acBoEeBpbacBoEfBpbacBoEgBpbacBoEhBpbacBoEiBpbacBoEjBpbacBoEkBpbacBoElBpbacBoEmBpbacBoEnBpbac",
  "BoEoBpbacBoEpBpbacBoEqBpbacBoErBpbacBoEsBpbacSFkElSFlbaaDvbaaEkbabDvDwbabEpEscByaDtBaabEaEob",
  "abEfEobabElDwbabElElbacEiEiEobabEpDvBbabEfDvbabEfDwbabEfEkBkabDwEcEiabSJjSHnbabSLnSLnbaaSLpo",
  "aaBLFvbaaBIPjbaaBFTcbaaSMhbaaBDTkbaaBHTibaaCAFrbaaBHTxbaaBDUibaaBMRobaaBQVxbaaBMMjbaaBFEjbaa",
  "BKEubaaBEWzbaaBMNgbaaBFCnbaaBVLibaaBSJfbaaCBGzbaaBHRsbaaBFXhbaaBQBsbaaBLIrbaaBLQbbaaBDOabaaB",
  "DOjbaaCCQsbaaBJOobaaBDPtbaaBFUpbaaBLNbbaaCBOqbaaBLGdbaaBUAjbaaBUJybaaBFVkbaaBPWabaaBNAnbaaBN",
  "AmbaaBSJzbaaBFFubaaBGLybaaCDArfacSFkBNBwSFlbacSFkBDOjSFlbacSFkBDTkSFlbacSFkBIRhSFlbacSFkBQRx",
  "SFlbacSFkBLGdSFlbacSFkBTAdSFlbacSFkBFJxSFlbacSFkBMJvSFliaaBKFfbaaBFUlDQtsaBwDRLwaaBDQjbaaBDQ",
  "ebaaBDQnbaaHMIkbaaBEBobaaBEEobaaBEFbbaaBEHubaaBEMkbaaBENpbaaBEQpbaaBEPrbaaTYcbaaHOGobaaBEUnb",
  "aaBEUubaaBEVkbaaBEWdbaaHNVobaaTZdbaaBEVnbaaBEWzbaaHNXjbaaBEXjbaaBEXwbaaBDVwbaaBEYebaaBEYnbaa",
  "JPDnbaaBFAzbaaBFBnbaaUApbaaBFDrbaaBFEcbaaBFFubaaBFFzbaaUCrbaaBFJbbaaBFJdbaaBFKebaaBFLabcaBFL",
  "lcaaBFMdbaaBFObbaaBFOjbaaBFOsbaaBFPrbaaBFQbbaaBFQdbaaBFQdbaaBFQdbaaHPTkbaaBQPcbaaBFTabaaBFTv",
  "baaHQFjbaaBFUhbaaBFUnbaaBFVibaaBGBebaaBFXgbaaBFXwbaaBFZcbaaBGBibaaBGEobaaBGFobaaBGIdbaaBGItb",
  "aaBGKabaaBGKabaaBGKvbaaBGLnbaaBGLvbaaBGMkbaaBGZmbaaBGPabaaBGZnbaaBGRxbaaBGTgbaaBFBrbaaBHRqba",
  "aBHGobaaBHIabaaBHIzbaaBHDzbaaBHKkbaaBHKjbaaBHPcbaaHTUybaaBHRubaaBHRzbaaBHSobaaBHTibaaBHTqbaa",
  "BHWcbaaHUMibaaHUOwbaaBIBkbaaBIDfbaaBIDrbaaBIAqbaaBIGcbaaUUwbaaUVkbaaBIMibaaBIOkbaaBIOkbaaHVR",
  "cbaaBITnbaaBIUibaaBIUxbaaBIVjbaaHWEabaaBIVvbaaBIWcbaaBKCpbaaBIXebaaVAnbaaBIZobaaBJAcbaaBJDgb",
  "aaBJBhbaaHXFobaaBJIhbaaHXFqbaaBJJybaaBJJvbaaBJKmbcaBJOjcaaVHfbaaBJPlbaaBJRcbaaBJRxbaaBJTpbaa",
  "VJebaaHYPfbaaVKebaaBJWibaaBJWlbaaBJWobaaBJXibaaJVVubaaBJZibaaHZFtbaaHZFtbaaBXGbbaaBKAsbaaBKA",
  "sbaaVNbbaaIFCqbaaIWYsbaaBKDebaaBKDnbaaVOdbaaBKFibaaBKHhbaaBKHrbaaBKIzbaaBKOfbaaVRmbaaVQibaaB",
  "KOybaaIAPobaaBKQxbaaBKVwbaaBKWabaaBKWcbaaBKWabaaBKXubaaBKYobaaBKZybaaBKZkbaaBKZvbaaBLBqbaaBL",
  "CkbaaBLCobaaBLDobaaBLDzbaaBLGnbaaBLJtbaaBLLcbaaBLPwbaaICFcbaaBLPdbaaBLMqbaaBLQubaaBLRvbaaBLV",
  "obaaICNxbaaBLXybaaBLUjbaaBLThbaaWAwbaaBMArbaaBMBmbaaBMCrbaaBMBfbaaWDgbaaBMJnbaaBMKqbaaIECgba",
  "aBMPfbaaBMZwbaaBMTdbaaWJxbaaBMVxbaaWJgbaaWHwbaaBEXebaaBEXhbaaBNAebaaBMWibaaBWSzbaaZSbbaaBNBb",
  "baaBNBfbaaBNBlbaaBNDubaaBNDjbaaIFMxbaaWLtbaaBNJubaaBNFhbaaBNNebaaBNPdbaaIFTlbaaBNPmbaaBNLfba",
  "aBNUqbaaWOzbaaBNWkbaaBOAdbaaBOCwbaaBOKebaaIGPfbaaBOMdbaaWTsbaaBOOvbaaIHJbbaaBOQubaaWVubaaBOR",
  "ybaaBOTrbcaBOUscaaIIBtbaaHWXfbaaIIFybaaBPAkbaaIIXgbaaBPEtbaaBPFhbaaBPBjbaaBPIcbaaBPJqbaaBPLv",
  "baaBPJtbaaBPLhbaaBPLwbaaBPMjbaaIJBabaaBPJgbaaBPSxbaaBPVibaaXEpbaaBPYxbaaBPYtbaaIJRtbaaBPQvba",
  "aBQFebaaIJXebaaIJZabaaBQIobaaBQMzbaaBQLybaaBQLvbaaXIkbaaBQNqbaaBQPpbaaBQPjbaaBQRlbaaHNVxbaaB",
  "QXhbaaILAxbaaBRAqbaaILNnbaaBRGabaaBRGnbaaBRHobaaIMKubaaBRJkbaaBRKfbaaIMWjbaaINEybaaBRTabaaBR",
  "TrbaaXTcbaaBRUrbaaXTobaaXTobaaBSAxbaaBSBsbaaBSCnbaaBSDhbaaBSFybaaXXjbaaBSJkbaaIOTqbaaBSKkbaa",
  "IOXebaaBSMibaaHYQhbaaBSSmbaaIQBhbaaIQCebaaIQHobaaYGabaaYGmbaaBTBgbaaIQOhbaaIQOgbaaIQPtbaaIQQ",
  "tbcaBTCwcaaBTCxbaaBTEobaaYIjbaaBTHbbaaYIwbaaYLybaaIRTlbaaBTOobaaBTQybaaBTTkbaaYOxbaaISNmbaaB",
  "TYsbaaISRybaaISTpbaaBUAxbaaBUElbaaYRvbaaBUHsbaaBUIcbaaBUIhbaaITUibaaIUFvbaaIUFvbaaBUOkbaaYZy",
  "baaIUPvbaaBUWsbaaBUWvbaaZBjbaaIUYabaaBVHabaaZGabaaBVHwbaaBVHrbaaBVIubaaIWBubaaBVMpbaaZJtbaaB",
  "VQlbaaBVSsbaaBVVhbaaZLsbaaIXBsbaaIXCxbaaZNdbaaIXInbaaBWHebaaIXMkbaaBWIfbaaBWMcbaaBWMnbaaIYCg",
  "baaIYFbbaaBWQabaaIYKebaaBWQqbaaIFJbbaaZRxbaaBWTebaaBWWhbaaZTzbaaBWYobaaBIJdbaaIZDvbaaIZEjbaa",
  "IFLbbaaIFLkbaaBXGbbaaBXGebaaCCKcbaaZXrbaaBXLpbaaBXLjbaaBXMbbaaBFIhbaaBXMvbaaBXMxbaaBXNhbaaBX",
  "OwbaaJANcbaaBXOvbaaBXQzbaaBXTrbaaBXWnbaaBXRfbaaBXXdbaaBXYtbaaBYDbbaaBXTbbaaBXXqbaaBXXsbaaBXY",
  "ibaaJAWsbaaJBIpbaaJBCvbaaBAFbbaaBYIzbaaBYJbbaaBYKkbaaJDTibaaBYNkbaaJBZwbaaBAGzbaaBAHdbaaJCEz",
  "baaJCQcbaaBAHnbaaBYWmbaaBYWybaaBYXjbaaBYXlbaaBYZxbaaBYYqbaaBZDubaaBZCcbaaBZHxbaaBZEubaaBZHjb",
  "aaBZIkbaaBALrbaaBZLxbaaBZNdbaaBAMzbaaBZQubaaBZQxbaaJETbbaaBZVjbaaBZVqbaaBAPhbaaBZWsbaaTZfbaa",
  "JFPmbaaJFWobaaBAUobaaBAUxbaaCAMybaaCAPxbaaCAVybaaCBDtbaaJHCqbaaCBHbbaaCBHxbaaCBLjbaaCBOxbaaJ",
  "IBnbaaHOYebaaCBSdbaaCBRobaaCBTobaaHPGobaaCCCibaaCCGebaaJKOwbaaJKPxbaaCCTobaaCCXdbaaCCYjbaaJL",
  "CgbaaCCYtbaaCDJsbcaCDPvcaaCDMibaaCEAzbaaCECbbaaJMXmbaaCEQlbaaBBWnbaaCESdbaaJNMdbaaBBZqbaaCFC",
  "lbaaBJMobaaCFGdbaaJOXpbaaJPFubaaBCEwbaaBCFebaaCFNkbaaJPYwbaaBCHmbaaJQEgbaaCFPbbaaCFPbbaaCFQf",
  "baaJQPibaaCFXibaaBCMlbaaCGAbbaaCGExbaaCGFybaaCGIgbaaBCSkbaaJSRgbaaCGSwbaaCHEmbaaCHLtbaaBDCgb",
  "aaBDDlbaaCHPvbaaJUUobaaBDDwbaaJUWrbaaJVGwbaaJVLxbaaCICxbaaBDHmbaaCIFhbaaCIFmbaaCIFtbaaCIGdba",
  "aCIGkbaaCIHvbaaJWTs"]

/-- A run of replaced code points.  The replacement of a longer run is one code point, which
    moves along with the one that is replaced. -/
structure Replacement where
  first : Nat
  last : Nat
  step : Nat
  codes : List Nat
  deriving Inhabited

/-- The runs that numbers describe; `before` is the first code point of the run before. -/
def replacementsFrom : Nat → Nat → List Nat → List Replacement
  | fuel + 1, before, gap :: size :: more :: rest =>
    let first := before + gap
    let step := size % 2 + 1
    ⟨first, first + size / 2 * step, step, rest.take (more + 1)⟩ ::
      replacementsFrom fuel first (rest.drop (more + 1))
  | _, _, _ => []

/-- The runs of replaced code points, ascending. -/
def replacements : Array Replacement :=
  let numbers := BaseLetters.decode replacementsText
  (replacementsFrom numbers.length 0 numbers).toArray

/-- The last run, of those from `lo` to below `hi`, that begins at or before a code point;
    `best` is one that does. -/
def searchRun (n : Nat) : Nat → Option Replacement → Nat → Nat → Option Replacement
  | 0, best, _, _ => best
  | fuel + 1, best, lo, hi =>
    if hi ≤ lo then best
    else
      let mid := (lo + hi) / 2
      match replacements[mid]? with
      | none => best
      | some run =>
        if run.first ≤ n then searchRun n fuel (some run) (mid + 1) hi
        else searchRun n fuel best lo mid

/-- The code points that replace one. -/
def replacement? (n : Nat) : Option (List Nat) := do
  let run ← searchRun n (replacements.size + 1) none 0 replacements.size
  if n ≤ run.last ∧ (n - run.first) % run.step = 0 then
    match run.codes with
    | [code] => some [code + (n - run.first)]
    | codes => some codes
  else none

/-- What becomes of a code point. -/
def of (n : Nat) : DomainMapping :=
  if validCodes.contains n then valid
  else if ignoredCodes.contains n then ignored
  else match replacement? n with
    | some codes => mapped codes
    | none => disallowed

end DomainMapping
end RecordRules
