/-! # Ages of code points

For each version of the Unicode standard: its names, and the code points it assigned first,
written as `CodeRanges.ofText` reads them.  Versions are in ascending order. -/

namespace RecordRules

/-- The property `Age`. -/
def ages : List (List String × String) :=
  [(["1.1", "v11"],
     String.join ["aTheBdCeDkhBubjwCrBabsbeadafgbabtbBrbgdababababrnlbCnblbBojCacbcbdBbchcbCdBlcgbBmbaBmjbimBaf",
      "exaoadabzfsnncCtcebobBdcjTzcbCacrcedyqcbhcbcvbgbaddcabgcbccjaebbecuhacfebcvbgbbbbbbcabeebccl",
      "dbahomcbgbabcbvbgbbbecjbcbccapafjrcbhcbcvbgbbcdchdbccibebbcekrbbfdcbddbbabbdbdcdhbceedcbdjap",
      "locbhbcbwbjbeegbcbdhbjbejsbbhbcbwbjbeegbcbdhbhabbejsbbhbcbwbpefccbdjaibejFpCfeBcBlbbacbbacag",
      "dbgbcbabacbbmbccebabfcjcbRiBlkBmeaeDlfCpfDdEOkFyfDlgvcfcBlcfchbabababBecCabobncfbsccbibBubwB",
      "jgdBarkBlrBeCeBaBvnDmvJhoabEqFdBkBbkvFivFtkDbqtgDhFpdbdcBbbBibabddabgcgoBedxbnDDhCdhabDfefcD",
      "pgBneDpbpDsBcdBjBcBbdBxpleBubEoeDucBeJWbBEXxYJqJXtIcgmegybebabbbbbEdBhOaqClcCbBolBkdmuejbsbd",
      "ecbabFecabDpcDpdfcfcfccdgbgoc"]),
   (["2.0", "v20"],
     String.join ["CCvqbmuaDMxCtbBghBaefbabudgbaFQnaUhaCATwQNrEIFybDSYobDSYobDSYobDSYobDSYobDSYobDSYobDSYobDSYo",
      "bDSYobDSYobDSYobDSYoHLXh"]),
   (["2.1", "v21"],
     "MJsaDGOta"),
   (["3.0", "v30"],
     String.join ["TidBehcrEneBxakeDjitaEmadabababaBeamaCoamaBqbcdDobGaaHscDubfapaBqebnbBddBaCbBwCFhbbrdxbibacg",
      "daefbabhscOjaBraxchabcbocaBwBhbebbbgddgzQggbCkbabdcgbabdcBmbabdcBebabdcgbabdcgbgbwbBebabdcgb",
      "BmbsgBbBjDgmYfjBcdDcFnDodjwobjgDjiBpCWbayfDrcBybDhbCuaDziKjaErabBdFibRphBhaDibPiJvCCezbDkmIf",
      "BalCicdaNpxWmJTdBFEgBSudrcpblbcbaBGScaBVvc"]),
   (["3.1", "v31"],
     String.join ["BMybDQQcBfBXwBebdmBaGzBlcBlCZDqJlkBmdGxVaDgbCsbbcacbcdblbabdbbbCmbdchbgbBbbdbebadgbMzeLdeBxP",
      "DwCLEsBETdUvBPCQtaBeDr"]),
   (["3.2", "v32"],
     String.join ["UyaLqatmEabBcaFrbCfbcbcbBxpNmbMjaDNhbCHjmbglwjtmmbcbbDIxageeahenaCkbBygDeoGmlJinEuaBeBzKytFv",
      "jDkhwbDmlcjIonDmBbepJwTrBZncDjbibDqaJgpDdoDdoBRDibqamadaBGJaCgBJdadpCbbBsaJbb"]),
   (["4.0", "v40"],
     String.join ["UzascEpbClqDchfcFveTwdjiCmcFtbpaBtcBdcQuaHcaCpabaFgaDgcnaCpaChaEzhHlbEFnasjKcBcdleleadBpceEd",
      "BfBDoEdBCpbIwaZjbLqaKqbEmhobBRanCRnbBxaBrbDadGldDvbBfaJToClCOQvaCvbQxlbzbsbbbocnBiEsfceBsdiW",
      "eBdbaFebBmDbcjBGwfcabBrbbdacaCYUiDiNyaBTKDaJf"]),
   (["4.1", "v41"],
     String.join ["VvkKseGddJmbGoaBicCpasaCgfJhBdUhaDcaStaBvaBMnbLjbbaKgaClaClaBnaBfaBfaBfapaBnaxbBfzCGcBpgzgje",
      "bBgBbcbBGmDjZhbbgBxeBddCbaDcapaYukWaaDxbskfpKkgBGhfJcBubBuBhEcoBskCbjaqwjgbgbgbgbgbgbgbgBhxe",
      "bBJupGsaBPItvCTowIzBrBFEaEbBFqjBFaCwUnBjenCIsdbbfhbcbBaeceiiiCXPvCrBRab"]),
   (["5.0", "v50"],
     String.join ["WgnLncMzaBqfqdGkaTxCgOubbbBHibnbFIjCxeBsWlgBzbBCudDpbCbaXblBBmaKqdBGjgfdMemhdBULjdfbLaCdBKOm",
      "zfaIRgBHuFpDundCOGirBQub"]),
   (["5.1", "v51"],
     String.join ["BHwdcbDjaHbaFkpIseleBgeLqrTdbIoaBjaHyaBdbEeaEeaBabibuhHhagaBdbmfdgSxbDtadcCzafacahcefBaClebD",
      "BeaBBxBqdlCsCddodByMtBbGzdDmfNsaFjaDqaCbdBYaavjddKeaBfdBFfeeBodeKucbcefNqBfydcsBDkaGgtBPPohB",
      "ZoLnuBfcriBbFbecEcEgeEyCqjlBmDflaGeCcjncjcdBFSucBHplCaBtFaBcdBwCKdzfaCXSjaLRqBreDv"]),
   (["5.2", "v52"],
     String.join ["BYqbBCcBtcoHlaCzagaBjbEyaCFpdHldHgeCqeDefTsaYgiVoCrGybBuaCrCkbBcckgjgnVaBiKgaBAucFvcCcaXiaBA",
      "rbBdcejbsbaexDjaBNheKsanbEdgMhaBOclBPLshBXkBvQaDjMajGkBbDwBcdCzbkebEyBbeCoyeIqBtcjQOkweBwNBb",
      "cFGcvbiHebMmBfEyCbdBccBafhEyCuUpBeTtCnLVqBPeCTNdkfBecalabacadadeiahazabbcakdcaEhapBhoiCQLjGD",
      "o"]),
   (["6.0", "v60"],
     String.join ["BYsbJoaCkaSmBbcaIlbtagbBbeTmfQraqataWbdCvbBIobDEnBzidToaZohBcaBFjkBCcatabdBdaebBcaBjabaecjbC",
      "acyaoaobCDkaoaBPocBSEnbLnbbbojDcaBDufcfcfjgbgBEMtpHRiCzeBdBHEeVwBALbbYMgocncoboDcabkbabbbcbc",
      "fhbgbjgibacbbjebbjCxzbbBvivbGsBgpfbCrdtmBkbevqpCkbabGzbddCjsxFrebpbcbabababcbfcdbacdblekBwCr",
      "CgElCUQmIn"]),
   (["6.1", "v61"],
     String.join ["CCtaEmaZrabkCdBaTdaBMrbStafaBvcEBbcmfJwhBrdECqabaBYqbBzafaCebHujBRAeaCNnhBjaJibwaCzbBCowBDZz",
      "bFUuCdgbCRoyhjgCabnCiCuhjBTuCdijBHKoCqlBuqqBVWidbBabbbacabjbdbabagaeabababcbbbacabababababbb",
      "acdbgbdbdbabjbqfcbebqCabYibBLsdHgaqadabababadagbeabbea"]),
   (["6.2", "v62"],
     "MKga"),
   (["6.3", "v63"],
     "CIeaJYvd"),
   (["7.0", "v70"],
     String.join ["BIlaQihDpbEoaZralfCyaEqahaYpaBzaCyaExaIujDKrhVcbPloVxbJdoBBhcBFqgBDtaBQickzcBfcBhdlbhXugBTOv",
      "fJmllccbCraSuBeEvdGuBvebBFIvgBHdbtaMhBbBjaBwBqOzBniBzlaFoLyjvkhJoCkiiRwBfBgBmelFhrhdmgBVjaIa",
      "BmDiamagtlrbBqEkCgfjhcbhcbcvbgbbbecicbccjafgcgdeKhCtijGkCbcrCcCqljWkDemaRgCeDFiBpHulfaBALfBe",
      "bjebDsBdcfkCrkjbgbufsBEMaEcfmdihjchQKyHocpCZwaBgvvbUmljaCsawlBlafdflrgCtabaHaaebClbegBdrbBob",
      "DhCsbnBvCsjqmddFkDgBrleCdijgBniBd"]),
   (["8.0", "v80"],
     String.join ["DHrbBuaUnaNoaKaaCMvacfEVoaHvbDYedBRWviCOuaJgaBifMmbXmdmDbBFFqbEBgsbbfeHgbcpcBtYqBynByhfBVddo",
      "eGegbabdbobkDiaDbaYjtLezdoepERpaIwHnLQqWkCAWlkCHzZbpeboJHdcDabDbeBkhJvaCxeJjbFjaWdiDzeChaCUC",
      "lINp"]),
   (["9.0", "v90"],
     String.join ["DHuhwoBJpaHyaecbgxcFRziOgaCHbdDXcbBTZlaKsaBHQdbBEvBjeBjFAoaRhDlbabaTumCCxibBsbnkBcdBfcvbnBFM",
      "vaBfJBotBDaBGFlgbqcgbbbeDIzCwfjebDDbrFmaBFyaBpaLobBhcVafbhiaclbleoBmm"]),
   (["10.0", "v100"],
     String.join ["DEmkPlbJsfTsaCgbFYwaJudBBhaBFzaCZaaYceBCmaBPXnuBLPicIQqCtiBzcwbeXhgbbbBrdabbbiijBFGpaYHkKyDd",
      "PfYAefBRpbBibTzltaihbbzasmBmfCewDCPdLBk"]),
   (["11.0", "v110"],
     String.join ["CAyaBnaDyaUfcIdaLmaEpaPhaExaENraBOhBqccFRmcwyeoWpeBCiaBPYheCYhaibMmbBKVcbsaBAtBnijRmBniBpOha",
      "EocTgaLeaBAxaIvChXlaBBefbbbBkbbbfhjLyyBEApDmJPieBCJutEwgJLwCpBScaCEzaIldOicBcecddabdyknjhbBk",
      "yDsn"]),
   (["12.0", "v120"],
     String.join ["EStaUgacacabfeahahbcanaFKhaFPuaCbaWtaBTZmfceBJrbBMBgwBRkaXcaBCphcBtckGdbBZmBxnaHQuiWJkfeaBvi",
      "DmbJCwfPRccrdSAqBsdncjebOeCffaCJzaBKnCiBPeaCBgaBkaIvlLdcBvaBxajaBpfdbkfdhccBwDfBcdecfcnf"]),
   (["12.1", "v121"],
     "TIda"),
   (["13.0", "v130"],
     String.join ["DIcjZdaQoaEuaFAjbGJuaBAucBHoeKPijBFDgmCYsdBqbCbaBFvdBGQqaEWxBpbccbJuBbOpaFebZaafbBTmgcachbbb",
      "BdbbcljjCKkaBEJralbKFxSoBqiBLWucDpcCjaBYubBjbQtbDmaDxaebBqbgcBdaGmaodpshgjcngBpFqbCcBljCMSjg",
      "BHTqHHy"]),
   (["14.0", "v140"],
     String.join ["CIfaWwBebbghvaskBHpaBgaExaDWhahajaJfaBAnnEvaBwbYlaBBhaEIoaBvaTfkBRAtcCYibobbabeycBFTdaOrpExa",
      "BubCVgkbobgbbbkbobgbbRjfbBpbiCXxzIwfCyaCGsaFegBHppHWyDuWDxDabjBAEwdbgbbLcdLIbBtcwjElVdbEYvBe",
      "BHxBeBZdgbdbbboFQkcKmaPcaDeaGsbBsdkdicrcghigCNCpbGEvd"]),
   (["15.0", "v150"],
     String.join ["EXnaSgaDTAkcBFzcDIcjBNaqbBodBbHXdajBcBVHkaBiaMRatERhfKbCjBhaBPwBpGUcaFvceeDlaZrcpbBkclcbaobk",
      "bmaobCTHoaBIWsGFf"]),
   (["15.1", "v151"],
     "SEmdTbaKEIqXx"),
   (["16.0", "v160"],
     String.join ["DGpaHCgbBvaKfbCWycFFebBSQvcmcBJOlBzCTwBldBcibLucCdaBSljbacabBlbjbacabdbjbbibBCvtBVwBhojBHgaH",
      "YzFXqKZtCfEOkCfLYjaXWiJsdQtIToBqeaHCcjebRnafaBuahavacajaIrBk"]),
   (["17.0", "v170"],
     String.join ["DGhaBLkaExaFHioclCFlaECqaBVBbbcabaBcaBFThpRdbCcgEIrzCBjciiBhbESahWmBrejBEOsycyLaeJCjhBXpvDtE",
      "kYNvwpqJAlBebvibGAaaGcdNdiOpdByadaCfaeaBcaeaKgaCSXrfIWglBGFaGJh"])]

end RecordRules
