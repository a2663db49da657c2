import RecordRules.Unicode.Ranges

/-! # Canonical composition

Texts that look alike are brought into one form: every character is decomposed, combining marks
are put into their order, and what can be composed is composed again.

* `CanonicalForm.compose`   the composed form of a list of code points -/

namespace RecordRules
namespace CanonicalForm

/-- Runs of code points with a combining class: gap, length less one, class. -/
def classesText : String :=
  String.join ["BDouIwaaIyadImaaIyaaIiaeImabHuadImabHuakImaebadImacIwcaIwcaJgaaIwacImacIwabImbcIwadImaaIwaaI",
  "yabImaaIwaaIzabJaaaIzabJaaaIzamIwKpeIwKfaImadIwaaImacIwaaIoaaImafIwafImabIwaaImabIwaaIoaaIua",
  "aIwaakaalaamaanaaoaapaaqaaraasabtaauaavaawbaxbayaazbaIwaaImbasCuhIwaaBeaaBfaaBgBwaBbaaBcaaBd",
  "aaBeaaBfaaBgaaBhaaBiabIwabImaeIwaaImabIwaaImqaBjDxgIwcdIwaaImaaIwcbIwbaImabIwaaImBjaBkBeaIwa",
  "aImabIwaaImabIwacImaaIwabImaaIwaaImacIwaaImaaIwaaImaaIwaaImaaIwaaImabIwGegIwaaImaaIwjaImydIw",
  "biIwbcIwbeIwBrcImChbIwacImadIwBqeIwaeImanIwbaImabIwaaImabIwaaImacIwacImaaBbaaBcaaBdacIwaaIma",
  "bIwabImaeIwCiahqajdaIwaaImabIwDzahqajBwaIwCjahqajEgahqajEgahqajExajEgahqajhaDgaaDnDxahqajEfb",
  "jqajEuajEfbDzaajndEdEebEoaajndEsCybImBbaImbaImbaIiCdaEzaaFabaFcfdFacaFabbIwaajbbIwCkaImEiahb",
  "bjDeaImBBrcIwBKmbjBeajGbajkaIwHvaIuFnaIoaaIwaaImIlaIwaaImCtajuhIwcaImBweIwafImabIwaaImbbImab",
  "IwabImaeIwaaImarIwaaImcfIwaaImadIwaaJaCuahpajBmaIwaaImagIwCcbjCgahlbjCpahFwcIwbabaeImabIwadI",
  "maaIwbgbeaImgaIwdbIwHqbIwaaImagIwaaImabIwaaJaaaIgaaImaaHuaBkIwaaIyabIuaaImaaIkaaIwaaIzaaImaa",
  "IwaaImBBsbIwabbadIwacbabIweaIwdbbaaIwaaImaaIwabbadImaaIwEOccIwFlajDsBfIwViaIkaaIuaaIyaaIoabI",
  "qEbbiBSQeaIwejIwBgbIwDcbIwKqajBlajFvajBbrIwCfcImBlajDrahmajJfaIwbbIwaaImcbIwfbIwbaIwCaajJmaj",
  "BDZsaBaBDpgIwagImabIwBLlaImIsaImFteIwCMsaImbaIwBoaIwaabaaImeajGjaIwaaImWbdIwCneIwMfbIwCzbImb",
  "cImCsbImacIwaaImaaIwadImBxaIwaaImaaIwaaImHkajBpajoajCfajaahCrcIwBwbjCkahCyajjahEcajaahGwahaa",
  "jDcbhqajygIwdeIwDlcjEjajdahxaIwDvajaahJrajaahEwajEoajaahElajKjajaahJybjeahGaajDfajsajDdajQfa",
  "jJyahbbjDdajQjbjYZcajDSaebChgIwBUnbgBDAyabHWobIiacbdaIsaeIiihImceIwabImBedIwFscIwFFfgIwbqIwc",
  "gIwbbIwbeIwDwaIwGegIwOlaIwCjdIwTobIyaaImaaIwJuaIwaaImJjaIwcaIwhbIwfaIwSggImEffIwaah"]

/-- Runs of code points with a combining class, ascending. -/
def classRunsFrom (next : Nat) : List Nat → List (Nat × Nat × Nat)
  | gap :: size :: cls :: rest =>
    let first := next + gap
    (first, first + size, cls) :: classRunsFrom (first + size + 1) rest
  | _ => []

/-- The runs of code points with a combining class. -/
def classRuns : Array (Nat × Nat × Nat) :=
  (classRunsFrom 0 (BaseLetters.decode classesText)).toArray

/-- Searches the runs from `lo` to below `hi`. -/
def searchClass (n : Nat) : Nat → Nat → Nat → Nat
  | 0, _, _ => 0
  | fuel + 1, lo, hi =>
    if hi ≤ lo then 0
    else
      let mid := (lo + hi) / 2
      match classRuns[mid]? with
      | none => 0
      | some (first, last, cls) =>
        if n < first then searchClass n fuel lo mid
        else if last < n then searchClass n fuel (mid + 1) hi
        else cls

/-- The canonical combining class of a code point; 0 for all that do not combine. -/
def combiningClass (n : Nat) : Nat :=
  searchClass n (classRuns.size + 1) 0 classRuns.size

/-- Decompositions, as numbers: the distance from the code point before, and the parts after
    their number less one. -/
def decompositionsText : String :=
  String.join ["HkbCnBDobbCnBDpbbCnBDqbbCnBDrbbCnBDwbbCnBDycbCpBFbbbCrBDobbCrBDpbbCrBDqbbCrBDwbbCvBDobbCvBDp",
  "bbCvBDqbbCvBDwcbDaBDrbbDbBDobbDbBDpbbDbBDqbbDbBDrbbDbBDwdbDhBDobbDhBDpbbDhBDqbbDhBDwbbDlBDpd",
  "bDtBDobbDtBDpbbDtBDqbbDtBDrbbDtBDwbbDtBDycbDvBFbbbDxBDobbDxBDpbbDxBDqbbDxBDwbbEbBDobbEbBDpbb",
  "EbBDqbbEbBDwcbEgBDrbbEhBDobbEhBDpbbEhBDqbbEhBDrbbEhBDwdbEnBDobbEnBDpbbEnBDqbbEnBDwbbErBDpcbE",
  "rBDwbbCnBDsbbDtBDsbbCnBDubbDtBDubbCnBFcbbDtBFcbbCpBDpbbDvBDpbbCpBDqbbDvBDqbbCpBDvbbDvBDvbbCp",
  "BEabbDvBEabbCqBEabbDwBEadbCrBDsbbDxBDsbbCrBDubbDxBDubbCrBDvbbDxBDvbbCrBFcbbDxBFcbbCrBEabbDxB",
  "EabbCtBDqbbDzBDqbbCtBDubbDzBDubbCtBDvbbDzBDvbbCtBFbbbDzBFbbbCuBDqbbEaBDqdbCvBDrbbEbBDrbbCvBD",
  "sbbEbBDsbbCvBDubbEbBDubbCvBFcbbEbBFcbbCvBDvebCwBDqbbEcBDqbbCxBFbbbEdBFbcbCyBDpbbEeBDpbbCyBFb",
  "bbEeBFbbbCyBEabbEeBEafbDaBDpbbEgBDpbbDaBFbbbEgBFbbbDaBEabbEgBEaebDbBDsbbEhBDsbbDbBDubbEhBDub",
  "bDbBDzbbEhBDzdbDeBDpbbEkBDpbbDeBFbbbEkBFbbbDeBEabbEkBEabbDfBDpbbElBDpbbDfBDqbbElBDqbbDfBFbbb",
  "ElBFbbbDfBEabbElBEabbDgBFbbbEmBFbbbDgBEabbEmBEadbDhBDrbbEnBDrbbDhBDsbbEnBDsbbDhBDubbEnBDubbD",
  "hBDybbEnBDybbDhBDzbbEnBDzbbDhBFcbbEnBFcbbDjBDqbbEpBDqbbDlBDqbbErBDqbbDlBDwbbDmBDpbbEsBDpbbDm",
  "BDvbbEsBDvbbDmBEabbEsBEaBibDbBEpbbEhBEpobDhBEpbbEnBEpBdbCnBEabbDtBEabbCvBEabbEbBEabbDbBEabbE",
  "hBEabbDhBEabbEnBEabbImBDsbbJsBDsbbImBDpbbJsBDpbbImBEabbJsBEabbImBDobbJsBDocbHoBDsbbIuBDsbbVe",
  "BDsbbVfBDsbbHqBDsbbIwBDsdbCtBEabbDzBEabbCxBEabbEdBEabbDbBFcbbEhBFcbbSwBDsbbSxBDsbbQxBEabbZiB",
  "EabbEcBEaebCtBDpbbDzBDpdbDaBDobbEgBDobbHpBDpbbIvBDpbbHqBDpbbIwBDpbbIiBDpbbJoBDpbbCnBEdbbDtBE",
  "dbbCnBEfbbDtBEfbbCrBEdbbDxBEdbbCrBEfbbDxBEfbbCvBEdbbEbBEdbbCvBEfbbEbBEfbbDbBEdbbEhBEdbbDbBEf",
  "bbEhBEfbbDeBEdbbEkBEdbbDeBEfbbEkBEfbbDhBEdbbEnBEdbbDhBEfbbEnBEfbbDfBFabbElBFabbDgBFabbEmBFad",
  "bCuBEabbEaBEahbCnBDvbbDtBDvbbCrBFbbbDxBFbbbIgBDsbbJmBDsbbIfBDsbbJlBDsbbDbBDvbbEhBDvbbVmBDsbb",
  "VnBDsbbDlBDsbbErBDsKjaBDobaBDpcaBEhbbBDwBDpBwaBAvkaChhbGmBDpbbBJdBDpbaHbbbBJhBDpbbBJjBDpbbBJ",
  "lBDpcbBJrBDpcbBJxBDpbbBKbBDpbbBLiBDpBabBJlBDwbbBJxBDwbbBKjBDpbbBKnBDpbbBKpBDpbbBKrBDpbbBLjBD",
  "pBabBKrBDwbbBLdBDwbbBKxBDpbbBLdBDpbbBLhBDpfbBLqBDpbbBLqBDwBsbBOfBDobbBOfBDwcbBOdBDpebBNqBDwf",
  "bBOkBDpbbBOiBDobbBOtBDulbBOiBDuBgbBPoBDuxbBPlBDobbBPlBDwcbBPjBDpebBQsBDwfbBPqBDpbbBPoBDobbBP",
  "zBDuybBRwBEdbbBRxBEdCwbBOgBDubbBPmBDuobBOaBDubbBPgBDubbBOaBDwbbBPgBDwdbBOfBDubbBPlBDudbBVsBD",
  "wbbBVtBDwbbBOgBDwbbBPmBDwbbBOhBDwbbBPnBDwdbBOiBDsbbBPoBDsbbBOiBDwbbBPoBDwbbBOoBDwbbBPuBDwdbB",
  "WiBDwbbBWjBDwbbBPdBDwbbBQjBDwbbBOtBDsbbBPzBDsbbBOtBDwbbBPzBDwbbBOtBDzbbBPzBDzbbBOxBDwbbBQdBD",
  "wdbBPbBDwbbBQhBDwLlbCIpCKhbbCIpCKibbCJwCKibbCIpCKjbbCJyCKiFybCPhCKicbCOnCKirbCPeCKiXabDMeDMy",
  "ibDMmDMydbDMpDMyBkbDLlDMybbDLmDMybbDLnDMybbDLsDMybbDLxDMybbDLyDMybbDMhDMybbDMlDMyEebDShDRybb",
  "DShDSxqbDQvDRwbbDQwDRwcbDRjDRwDgbDWkDWudbDWqDWuBjbDViDWubbDVjDWubbDVoDWudbDWdDWuJabEHbEHqdbE",
  "HbEGsbbEHbEHrqbEFpEGqbbEFqEGqCdbEJyEMpCcbELyELqbbELzELqbbELyEMpEubEQwERmEqbEVnEWjhbEVuEWjbbE",
  "VuEWkcbEVuEVqbbEVyEWjExbFAsFAkbbFAtFAkbbFAsFBjFmbFGjFFucbFGjFFzbbFGmFFubbFGjFGpNtbFUgFYtkbFU",
  "qFYtfbFUvFYtfbFVaFYtfbFVfFYtnbFUeFYrkbFWbFWccbFWbFWebbFYoFWqcbFYpFWqjbFWbFWqsbFXiFYtkbFXsFYt",
  "fbFXxFYtfbFYcFYtfbFYhFYtnbFXgFYrEfbGCzGDiEDcbKGbKHxcbKGdKHxcbKGfKHxcbKGhKHxcbKGjKHxebKGnKHxB",
  "pbKIcKHxcbKIeKHxdbKIgKHxbbKIhKHxcbKIkKHxBAzbCnBEzbbDtBEzbbCoBDvbbDuBDvbbCoBExbbDuBExbbCoBFlb",
  "bDuBFlbbHrBDpbbIxBDpbbCqBDvbbDwBDvbbCqBExbbDwBExbbCqBFlbbDwBFlbbCqBFbbbDwBFbbbCqBFhbbDwBFhbb",
  "KoBDobbKpBDobbKoBDpbbKpBDpbbCrBFhbbDxBFhbbCrBFkbbDxBFkbbVgBDubbVhBDubbCsBDvbbDyBDvbbCtBDsbbD",
  "zBDsbbCuBDvbbEaBDvbbCuBExbbEaBExbbCuBDwbbEaBDwbbCuBFbbbEaBFbbbCuBFibbEaBFibbCvBFkbbEbBFkbbHz",
  "BDpbbJfBDpbbCxBDpbbEdBDpbbCxBExbbEdBExbbCxBFlbbEdBFlbbCyBExbbEeBExbbLLmBDsbbLLnBDsbbCyBFlbbE",
  "eBFlbbCyBFhbbEeBFhbbCzBDpbbEfBDpbbCzBDvbbEfBDvbbCzBExbbEfBExbbDaBDvbbEgBDvbbDaBExbbEgBExbbDa",
  "BFlbbEgBFlbbDaBFhbbEgBFhbbIfBDpbbJlBDpbbIfBDwbbJlBDwbbMuBDobbMvBDobbMuBDpbbMvBDpbbDcBDpbbEiB",
  "DpbbDcBDvbbEiBDvbbDeBDvbbEkBDvbbDeBExbbEkBExbbLMwBDsbbLMxBDsbbDeBFlbbEkBFlbbDfBDvbbElBDvbbDf",
  "BExbbElBExbbNiBDvbbNjBDvbbNoBDvbbNpBDvbbLNeBDvbbLNfBDvbbDgBDvbbEmBDvbbDgBExbbEmBExbbDgBFlbbE",
  "mBFlbbDgBFhbbEmBFhbbDhBEybbEnBEybbDhBFkbbEnBFkbbDhBFhbbEnBFhbbNwBDpbbNxBDpbbNyBDwbbNzBDwbbDi",
  "BDrbbEoBDrbbDiBExbbEoBExbbDjBDobbEpBDobbDjBDpbbEpBDpbbDjBDwbbEpBDwbbDjBDvbbEpBDvbbDjBExbbEpB",
  "ExbbDkBDvbbEqBDvbbDkBDwbbEqBDwbbDlBDvbbErBDvbbDmBDqbbEsBDqbbDmBExbbEsBExbbDmBFlbbEsBFlbbEaBF",
  "lbbEmBDwbbEpBDybbErBDycbOtBDvfbCnBExbbDtBExbbCnBDxbbDtBDxbbHmBDpbbIsBDpbbHmBDobbIsBDobbHmBDx",
  "bbIsBDxbbHmBDrbbIsBDrbbLPoBDqbbLPpBDqbbJyBDpbbJzBDpbbJyBDobbJzBDobbJyBDxbbJzBDxbbJyBDrbbJzBD",
  "rbbLPoBDubbLPpBDubbCrBExbbDxBExbbCrBDxbbDxBDxbbCrBDrbbDxBDrbbHuBDpbbJaBDpbbHuBDobbJaBDobbHuB",
  "DxbbJaBDxbbHuBDrbbJaBDrbbLQmBDqbbLQnBDqbbCvBDxbbEbBDxbbCvBExbbEbBExbbDbBExbbEhBExbbDbBDxbbEh",
  "BDxbbIeBDpbbJkBDpbbIeBDobbJkBDobbIeBDxbbJkBDxbbIeBDrbbJkBDrbbLRgBDqbbLRhBDqbbQaBDpbbQbBDpbbQ",
  "aBDobbQbBDobbQaBDxbbQbBDxbbQaBDrbbQbBDrbbQaBExbbQbBExbbDhBExbbEnBExbbDhBDxbbEnBDxbbQpBDpbbQq",
  "BDpbbQpBDobbQqBDobbQpBDxbbQqBDxbbQpBDrbbQqBDrbbQpBExbbQqBExbbDlBDobbErBDobbDlBExbbErBExbbDlB",
  "DxbbErBDxbbDlBDrbbErBDrhbBKjBEhbbBKjBEibbLTgBDobbLThBDobbLTgBDpbbLThBDpbbLTgBGcbbLThBGcbbBJd",
  "BEhbbBJdBEibbLToBDobbLTpBDobbLToBDpbbLTpBDpbbLToBGcbbLTpBGcbbBKnBEhbbBKnBEibbLTwBDobbLTxBDob",
  "bLTwBDpbbLTxBDpdbBJhBEhbbBJhBEibbLUeBDobbLUfBDobbLUeBDpbbLUfBDpdbBKpBEhbbBKpBEibbLUmBDobbLUn",
  "BDobbLUmBDpbbLUnBDpbbLUmBGcbbLUnBGcbbBJjBEhbbBJjBEibbLUuBDobbLUvBDobbLUuBDpbbLUvBDpbbLUuBGcb",
  "bLUvBGcbbBKrBEhbbBKrBEibbLVcBDobbLVdBDobbLVcBDpbbLVdBDpbbLVcBGcbbLVdBGcbbBJlBEhbbBJlBEibbLVk",
  "BDobbLVlBDobbLVkBDpbbLVlBDpbbLVkBGcbbLVlBGcbbBKxBEhbbBKxBEibbLVsBDobbLVtBDobbLVsBDpbbLVtBDpd",
  "bBJrBEhbbBJrBEibbLWaBDobbLWbBDobbLWaBDpbbLWbBDpdbBLdBEhbbBLdBEibbLWiBDobbLWjBDobbLWiBDpbbLWj",
  "BDpbbLWiBGcbbLWjBGccbBJxBEicbLWrBDocbLWrBDpcbLWrBGcbbBLhBEhbbBLhBEibbLWyBDobbLWzBDobbLWyBDpb",
  "bLWzBDpbbLWyBGcbbLWzBGcbbBKbBEhbbBKbBEibbLXgBDobbLXhBDobbLXgBDpbbLXhBDpbbLXgBGcbbLXhBGcbbBKj",
  "BDobbBKjBDpbbBKnBDobbBKnBDpbbBKpBDobbBKpBDpbbBKrBDobbBKrBDpbbBKxBDobbBKxBDpbbBLdBDobbBLdBDpb",
  "bBLhBDobbBLhBDpdbLTgBGfbbLThBGfbbLTiBGfbbLTjBGfbbLTkBGfbbLTlBGfbbLTmBGfbbLTnBGfbbLToBGfbbLTp",
  "BGfbbLTqBGfbbLTrBGfbbLTsBGfbbLTtBGfbbLTuBGfbbLTvBGfbbLUmBGfbbLUnBGfbbLUoBGfbbLUpBGfbbLUqBGfb",
  "bLUrBGfbbLUsBGfbbLUtBGfbbLUuBGfbbLUvBGfbbLUwBGfbbLUxBGfbbLUyBGfbbLUzBGfbbLVaBGfbbLVbBGfbbLWy",
  "BGfbbLWzBGfbbLXaBGfbbLXbBGfbbLXcBGfbbLXdBGfbbLXeBGfbbLXfBGfbbLXgBGfbbLXhBGfbbLXiBGfbbLXjBGfb",
  "bLXkBGfbbLXlBGfbbLXmBGfbbLXnBGfbbBKjBDubbBKjBDsbbLXoBGfbbBKjBGfbbBKeBGfcbBKjBGcbbMAgBGfbbBJd",
  "BDubbBJdBDsbbBJdBDobbBJdBDpbbBJdBGfcaBKrdbGmBGcbbLXsBGfbbBKpBGfbbBKgBGfcbBKpBGcbbMAwBGfbbBJh",
  "BDobbBJhBDpbbBJjBDobbBJjBDpbbBJjBGfbbMApBDobbMApBDpbbMApBGcbbBKrBDubbBKrBDsbbBLiBDobcBKrBDwB",
  "DpdbBKrBGcbbBLiBGcbbBJlBDubbBJlBDsbbBJlBDobbBJlBDpcbMDaBDobbMDaBDpbbMDaBGcbbBLdBDubbBLdBDsbb",
  "BLjBDobcBLdBDwBDpbbBKzBEhbbBKzBEibbBLdBGcbbBLjBGcbbBJxBDubbBJxBDsbbBJxBDobbBJxBDpbbBJtBEibbG",
  "mBDobbGmBDpbaDsdbLYaBGfbbBLhBGfbbBLmBGfcbBLhBGcbbMCsBGfbbBJrBDobbBJrBDpbbBKbBDobbBKbBDpbbBKb",
  "BGfbaGydaMDebaMDfLhaBKbeaCxbbCnBDyEhbMSmBFsbbMSoBFstbMSqBFsBfbMUyBFsbbMVcBFsbbMVaBFsCbbMWxBF",
  "sfbMXcBFsdbMXfBFsybMYdBFscbMYfBFsBbbMZcBFsdbMZjBFsdbMZlBFscbMZoBFsxbCjBFscbNAnBFslbMZtBFsbbC",
  "iBFsbbCkBFsbbNAqBFsbbNArBFsdbNBeBFsbbNBfBFsdbNBiBFsbbNBjBFshbNBmBFsbbNBnBFsdbNBuBFsbbNBvBFsd",
  "bNByBFsbbNBzBFsBjbNDaBFsbbNDgBFsbbNDhBFsbbNDjBFsBxbNBoBFsbbNBpBFsbbNCjBFsbbNCkBFshbNDqBFsbbN",
  "DrBFsbbNDsBFsbbNDtBFsCiaSEybaSEzCXubQGbBFsCBobSHnSKncbSHpSKncbSHrSKncbSHtSKncbSHvSKncbSHxSKn",
  "cbSHzSKncbSIbSKncbSIdSKncbSIfSKncbSIhSKncbSIjSKndbSImSKncbSIoSKncbSIqSKnhbSIxSKnbbSIxSKocbSJ",
  "aSKnbbSJaSKocbSJdSKnbbSJdSKocbSJgSKnbbSJgSKocbSJjSKnbbSJjSKoxbSHiSKnkbSKrSKnobSLfSKncbSLhSKn",
  "cbSLjSKncbSLlSKncbSLnSKncbSLpSKncbSLrSKncbSLtSKncbSLvSKncbSLxSKncbSLzSKncbSMbSKndbSMeSKncbSM",
  "gSKncbSMiSKnhbSMpSKnbbSMpSKocbSMsSKnbbSMsSKocbSMvSKnbbSMvSKocbSMySKnbbSMySKocbSNbSKnbbSNbSKo",
  "xbSLaSKndbSNvSKnbbSNwSKnbbSNxSKnbbSNySKnebSOjSKnCXTiaCBDgbaBMZsbaCCBybaCBIebaBPZdbaBDPybaBFU",
  "bbaCILobaCILobaBHVlbaCDFtbaBGKdbaBHVcbaBLCobaBSVxbaBWHpbaBYVvbaBZKkbaBZWqbaCCTjbaBODubaBPIhb",
  "aBQTdbaBRWwbaBYCbbaCDBubaCGHtbaBDTabaBFPtbaBONsbaBRFnbaBYVdbaCHWwbaBJIubaBQJzbaBYRlbaCAAubaB",
  "LKrbaBXEmbaBZOhbaBJXibaBNBbbaBPLibaBROebaCCVubaBEDabaBEYpbaBFJybaBMEebaBOLvbaBRFcbaBTAtbaBWM",
  "jbaBYTqbaBYWybaCBTnbaCFGsbaCGWlbaCHVmbaBTQybaBUAhbaBVOybaBXXpbaCDRobaCIApbaCAPabaBHRbbaBJZob",
  "aBVCqbaBWRebaBRIgbaBTTibaCBHybaCFElbaBHQubaBIZqbaBOElbaBPPqbaBQBnbaBVKpbaBVUtbaCEXvbaBFJmbaB",
  "WRrbaBFAabaBEZkbaBUGibaBVQcbaBXZdbaCEZlbaCAVobaBLKxbaBODubaCAQobaBDQfbaBIUxbaBKJybaBRTnbaBSM",
  "ibaBFMdbaBTVfbaBEFfbaBKFxbaBDOnbaBPFgbaBMLcbaBVKcbaBFStbaBHMcbaBTBtbaBYCnbaCANibaBOUsbaCCKub",
  "aBPCqbaBLMsbaBXOvbaBLSybaBSLxbaBDUsbaBEVpbaBEZhbaBNOzbaBVHvbaBXKhbaCAOwbaCDFrbaBFKvbaBFXqbaB",
  "HWtbaBJYqbaBMObbaBQKsbaBTXabaCERtbaCGMkbaCIBnbaCIDqbaBFHjbaBMXybaBOSdbaCCHubaBJUabaBKYqbaBLC",
  "ybaBMCobaBQChbaBQXlbaBSDlbaBUDebaBVSebaBWQpbaCCFmbaBYIwbaCCPfbaCDUgbaBFChbaBFHrbaBGCjbaBQSmb",
  "aBZUobaCANibaBJXhbaBKIvbaBLRnbaBOUgbaBVBibaBRSvbaBDWubaBGYjbaBIUxbaBJMwbaBKKibaBRVebaBSCfbaB",
  "WIkbaBWPabaCDJobaCFEkbaCFHobaCFPobaBEDfbaBUCcbaCDEqbaCFCabaBKRxbaBDTebaBEQcbaBIVebaBIYhbaBMM",
  "jbaBODubaBRCobaBSUkbaBYJkbaCCSqbaCIKzbaBMVobaCEWsbaBFGrbaBNExbaBNJnbaBPJtbaBPXcbaBRYnbaBSLlb",
  "aBTPrbaBVJkbaCFSgbaBEVtbaBLEsbaCEZobaBEJjbaBJGrbaBPQgbaCCFqbaBKEtbaBKVsbaBNKxbaBRTnbaCFAcbaB",
  "FCzbaBFVrbaBIZtbaBMRbbaBNDebaBNQmbaBPGfbaBRYkbaBSQsbaBWHdbaBZVbbaBZVtbaCDFobaCFDqbaBFNrbaBPY",
  "gbaBFWfbaBRCqbaBSEabaBYTebaCFBfbaCHFjbaCIBvbaBNFzbaBPPbbaBXFcbaBUNbbaBUQibaBVEobaBRLwbaBQQrb",
  "aCAUabaBDVkbaBXRybaBFDqbaBFBrbaBJVybaBLLbbaBVHebaBIRdbaBPIkbaBMXgbaCCGhbaBZQabaCEXxbaCAChbaB",
  "JXrbaBEUabaBGMidaBHLycaBMUudaBFAcbaBRPybaBSZqbaBTXsbaBTZabaBTZhbaBUAxbaCFIcbaBVGgbaBWJtcaBYU",
  "ccaCAQidaCCQabaCCXpeaCFXvbaCFYibaCGAabaCHSubaCCWkbaCFBzbaBEEobaBEQpbaBEUnbaBFJdbaBFKebaBFOjb",
  "aBGKzbaBGPabaBGSubaBHKybaBHOybaBIZsbaBJAcbaBKOybaBKXcbaBKYobaBLCkbaBMJnbaBMPebaBMVxbaBNPdbaB",
  "PLvbaBPScbaBQCgbaBQYwbaBRGdbaBRZmbaBTRdbaBTXubaBTYfbaBTYebaBTYmbaBTYsbaBTYzbaBUAvbaBUAwbaBUH",
  "sbaBUKfbaBUWmbaBVSebaBVSzbaBVVdbaBWGwbaBWMnbaBXFhbaBXKrbaBXKrbaBYDbbaBZXobaCACsbaCAQrbaCASvb",
  "aCBIpbaCBKqbaCCLabaCCQabaCFDrbaCFOpbaCFQxbaBKNtbaILGgbaBXGydaBDPmbaBEYnbaBEVobaBECubaBEUfbaB",
  "EWmbaBFJbbaBFLabaBGKzbaBGIfbaBGKvbaBGNqbaBHLybaBHPjbaBHUybaBHVobaBIFybaBINobaBJXqbaBJXxbaBKD",
  "lbaBKGbbaBKRobaBKWcbaBKTkbaBKYobaBKWubaBLCkbaBLEybaBLUibaBLXsbaBLZubaBMJubaBMUubaBNBbbaBNBfb",
  "aBNDmbaBOSfbaBOUsbaBPJtbaBPZnbaBPYxbaBQCgbaBQLybaBQYwbaBTIdbaBRGnbaBRLfbaBRPybaBSCnbaBSIgbaB",
  "SKhbaBSSzbaBSTbbaBSZqbaBTAhbaBTBgbaBTEobaBTEebaBTTkbaBUMbbaBUWmbaBVDrbaBVMhbaBVSebaBWEwbaBWM",
  "nbaBXTabaBXZbbaBZHxbaBZZlbaCACcbaCACsbaCAOdbaCAQibaCAOpbaCAQrbaCAQobaCAPxbaCASvbaCAVybaCBKqb",
  "aCCGebaCCSgbaCDDpbaCDMcbaCEZsbaCFDrbaCFIcbaCFNfbaCFOpbaCFPbbaCFQxbaCGSwbaCILobaIBDybaIBDsbaI",
  "FNpbaWOzbaYHcbaYIjbaIRBlbaIVBcbaJHXzbaCIIdbaCILaCqbCFpCEecbCGoCEhlbCGfCErbbCGfCEsbcCGfCEmCEr",
  "bcCGfCEmCEsbbCFgCEhbbCFgCEibbCFgCEmbbCFhCEmbbCFiCEmbbCFjCEmbbCFkCEmbbCFlCEmbbCFmCEmcbCFoCEmb",
  "bCFpCEmbbCFqCEmbbCFrCEmbbCFsCEmcbCFuCEmcbCFwCEmbbCFxCEmcbCFzCEmbbCGaCEmcbCGcCEmbbCGdCEmbbCGe",
  "CEmbbCGfCEmbbCGgCEmbbCFlCEjbbCFhCEpbbCFrCEpbbCGaCEpDZfbDVDyBDvBbbDVEgBDvEBmbDZGbDZHicbDZGdDZ",
  "HipbDZGnDZHiFbbDZLxDZLnbbDZLyDZLnUubEAGlEAGcbbEAGlEAHbCdbEAIsEALlcbEAIuEAKxjbEAJbEALedbEAJgE",
  "ALlCabEALeEALecbEALeEAKubbEALeEALlJjbEAUrEAUsbbEAUrEAUicbEAUrEAUvJsbEBEmEBEdbbEBEnEBEdBIjbEC",
  "MvECMqBBGbbFDSwFDSwbbFDSwFDThbbFDSwFDSxbbFDThFDSxbbFDSwFDSybbFDSzFDSxbbFDTaFDSxbbFDSzFDSyEQq",
  "bFIJvFIJvbbFIJrFIJvbbFIJxFIJvBLWebGUFvGUGjbbGUFwGUGjbcGUFwGUGjGUGsbcGUFwGUGjGUGtbcGUFwGUGjGU",
  "GubcGUFwGUGjGUGvbcGUFwGUGjGUGwDjbGUJpGUGjbbGUJqGUGjbcGUJpGUGjGUGsbcGUJqGUGjGUGsbcGUJpGUGjGUG",
  "tbcGUJqGUGjGUGtEHLgaBDQjbaBDQebaBDQnbaHMIkbaBEBobaBEEobaBEFbbaBEHubaBEMkbaBENpbaBEQpbaBEPrba",
  "TYcbaHOGobaBEUnbaBEUubaBEVkbaBEWdbaHNVobaTZdbaBEVnbaBEWzbaHNXjbaBEXjbaBEXwbaBDVwbaBEYebaBEYn",
  "baJPDnbaBFAzbaBFBnbaUApbaBFDrbaBFEcbaBFFubaBFFzbaUCrbaBFJbbaBFJdbaBFKebaBFLabaBFLlbaBFLmbaBF",
  "MdbaBFObbaBFOjbaBFOsbaBFPrbaBFQbbaBFQdbaBFQdbaBFQdbaHPTkbaBQPcbaBFTabaBFTvbaHQFjbaBFUhbaBFUn",
  "baBFVibaBGBebaBFXgbaBFXwbaBFZcbaBGBibaBGEobaBGFobaBGIdbaBGItbaBGKabaBGKabaBGKvbaBGLnbaBGLvba",
  "BGMkbaBGZmbaBGPabaBGZnbaBGRxbaBGTgbaBFBrbaBHRqbaBHGobaBHIabaBHIzbaBHDzbaBHKkbaBHKjbaBHPcbaHT",
  "UybaBHRubaBHRzbaBHSobaBHTibaBHTqbaBHWcbaHUMibaHUOwbaBIBkbaBIDfbaBIDrbaBIAqbaBIGcbaUUwbaUVkba",
  "BIMibaBIOkbaBIOkbaHVRcbaBITnbaBIUibaBIUxbaBIVjbaHWEabaBIVvbaBIWcbaBKCpbaBIXebaVAnbaBIZobaBJA",
  "cbaBJDgbaBJBhbaHXFobaBJIhbaHXFqbaBJJybaBJJvbaBJKmbaBJOjbaBJOkbaVHfbaBJPlbaBJRcbaBJRxbaBJTpba",
  "VJebaHYPfbaVKebaBJWibaBJWlbaBJWobaBJXibaJVVubaBJZibaHZFtbaHZFtbaBXGbbaBKAsbaBKAsbaVNbbaIFCqb",
  "aIWYsbaBKDebaBKDnbaVOdbaBKFibaBKHhbaBKHrbaBKIzbaBKOfbaVRmbaVQibaBKOybaIAPobaBKQxbaBKVwbaBKWa",
  "baBKWcbaBKWabaBKXubaBKYobaBKZybaBKZkbaBKZvbaBLBqbaBLCkbaBLCobaBLDobaBLDzbaBLGnbaBLJtbaBLLcba",
  "BLPwbaICFcbaBLPdbaBLMqbaBLQubaBLRvbaBLVobaICNxbaBLXybaBLUjbaBLThbaWAwbaBMArbaBMBmbaBMCrbaBMB",
  "fbaWDgbaBMJnbaBMKqbaIECgbaBMPfbaBMZwbaBMTdbaWJxbaBMVxbaWJgbaWHwbaBEXebaBEXhbaBNAebaBMWibaBWS",
  "zbaZSbbaBNBbbaBNBfbaBNBlbaBNDubaBNDjbaIFMxbaWLtbaBNJubaBNFhbaBNNebaBNPdbaIFTlbaBNPmbaBNLfbaB",
  "NUqbaWOzbaBNWkbaBOAdbaBOCwbaBOKebaIGPfbaBOMdbaWTsbaBOOvbaIHJbbaBOQubaWVubaBORybaBOTrbaBOUsba",
  "BOUtbaIIBtbaHWXfbaIIFybaBPAkbaIIXgbaBPEtbaBPFhbaBPBjbaBPIcbaBPJqbaBPLvbaBPJtbaBPLhbaBPLwbaBP",
  "MjbaIJBabaBPJgbaBPSxbaBPVibaXEpbaBPYxbaBPYtbaIJRtbaBPQvbaBQFebaIJXebaIJZabaBQIobaBQMzbaBQLyb",
  "aBQLvbaXIkbaBQNqbaBQPpbaBQPjbaBQRlbaHNVxbaBQXhbaILAxbaBRAqbaILNnbaBRGabaBRGnbaBRHobaIMKubaBR",
  "JkbaBRKfbaIMWjbaINEybaBRTabaBRTrbaXTcbaBRUrbaXTobaXTobaBSAxbaBSBsbaBSCnbaBSDhbaBSFybaXXjbaBS",
  "JkbaIOTqbaBSKkbaIOXebaBSMibaHYQhbaBSSmbaIQBhbaIQCebaIQHobaYGabaYGmbaBTBgbaIQOhbaIQOgbaIQPtba",
  "IQQtbaBTCwbaBTCxbaBTCxbaBTEobaYIjbaBTHbbaYIwbaYLybaIRTlbaBTOobaBTQybaBTTkbaYOxbaISNmbaBTYsba",
  "ISRybaISTpbaBUAxbaBUElbaYRvbaBUHsbaBUIcbaBUIhbaITUibaIUFvbaIUFvbaBUOkbaYZybaIUPvbaBUWsbaBUWv",
  "baZBjbaIUYabaBVHabaZGabaBVHwbaBVHrbaBVIubaIWBubaBVMpbaZJtbaBVQlbaBVSsbaBVVhbaZLsbaIXBsbaIXCx",
  "baZNdbaIXInbaBWHebaIXMkbaBWIfbaBWMcbaBWMnbaIYCgbaIYFbbaBWQabaIYKebaBWQqbaIFJbbaZRxbaBWTebaBW",
  "WhbaZTzbaBWYobaBIJdbaIZDvbaIZEjbaIFLbbaIFLkbaBXGbbaBXGebaCCKcbaZXrbaBXLpbaBXLjbaBXMbbaBFIhba",
  "BXMvbaBXMxbaBXNhbaBXOwbaJANcbaBXOvbaBXQzbaBXTrbaBXWnbaBXRfbaBXXdbaBXYtbaBYDbbaBXTbbaBXXqbaBX",
  "XsbaBXYibaJAWsbaJBIpbaJBCvbaBAFbbaBYIzbaBYJbbaBYKkbaJDTibaBYNkbaJBZwbaBAGzbaBAHdbaJCEzbaJCQc",
  "baBAHnbaBYWmbaBYWybaBYXjbaBYXlbaBYZxbaBYYqbaBZDubaBZCcbaBZHxbaBZEubaBZHjbaBZIkbaBALrbaBZLxba",
  "BZNdbaBAMzbaBZQubaBZQxbaJETbbaBZVjbaBZVqbaBAPhbaBZWsbaTZfbaJFPmbaJFWobaBAUobaBAUxbaCAMybaCAP",
  "xbaCAVybaCBDtbaJHCqbaCBHbbaCBHxbaCBLjbaCBOxbaJIBnbaHOYebaCBSdbaCBRobaCBTobaHPGobaCCCibaCCGeb",
  "aJKOwbaJKPxbaCCTobaCCXdbaCCYjbaJLCgbaCCYtbaCDJsbaCDPvbaCDPwbaCDMibaCEAzbaCECbbaJMXmbaCEQlbaB",
  "BWnbaCESdbaJNMdbaBBZqbaCFClbaBJMobaCFGdbaJOXpbaJPFubaBCEwbaBCFebaCFNkbaJPYwbaBCHmbaJQEgbaCFP",
  "bbaCFPbbaCFQfbaJQPibaCFXibaBCMlbaCGAbbaCGExbaCGFybaCGIgbaBCSkbaJSRgbaCGSwbaCHEmbaCHLtbaBDCgb",
  "aBDDlbaCHPvbaJUUobaBDDwbaJUWrbaJVGwbaJVLxbaCICxbaBDHmbaCIFhbaCIFmbaCIFtbaCIGdbaCIGkbaCIHvbaJ",
  "WTs"]

/-- Code points that are decomposed but never composed. -/
def excluded : CodeRanges := .ofText <|
  String.join ["BGabbbBvajaiaCFghEubbaDfacaBiccaJtbBMjajaeaeaeamajabbbaiarajaeaeaeamaFYtababababababaCjacaka",
  "bahahahahacbjababacbLgadbTpbCXtaDABrKjcabacjbabacbdCpcEbCpabakmbebabbbbbiDDBrgDifEHLfUv"]

/-- The decompositions that numbers describe. -/
def decompositionsFrom : Nat → Nat → List Nat → List (Nat × List Nat)
  | fuel + 1, before, gap :: more :: rest =>
    let code := before + gap
    (code, rest.take (more + 1)) :: decompositionsFrom fuel code (rest.drop (more + 1))
  | _, _, _ => []

/-- The decompositions, ascending by code point. -/
def decompositions : Array (Nat × List Nat) :=
  let numbers := BaseLetters.decode decompositionsText
  (decompositionsFrom numbers.length 0 numbers).toArray

/-- Searches the decompositions from `lo` to below `hi`. -/
def searchParts (n : Nat) : Nat → Nat → Nat → Option (List Nat)
  | 0, _, _ => none
  | fuel + 1, lo, hi =>
    if hi ≤ lo then none
    else
      let mid := (lo + hi) / 2
      match decompositions[mid]? with
      | none => none
      | some (code, parts) =>
        if n < code then searchParts n fuel lo mid
        else if code < n then searchParts n fuel (mid + 1) hi
        else some parts

/-- The parts of a code point that is decomposed. -/
def parts? (n : Nat) : Option (List Nat) :=
  searchParts n (decompositions.size + 1) 0 decompositions.size

/-! Korean syllables are composed by arithmetic: of a leading consonant, a vowel and perhaps a
trailing consonant. -/

/-- The parts of a Korean syllable. -/
def syllableParts? (n : Nat) : Option (List Nat) :=
  if 0xAC00 ≤ n ∧ n ≤ 0xD7A3 then
    let i := n - 0xAC00
    let pair := [0x1100 + i / 588, 0x1161 + i % 588 / 28]
    some (if i % 28 = 0 then pair else pair ++ [0x11A7 + i % 28])
  else none

/-- The Korean syllable of two parts. -/
def syllable? (a b : Nat) : Option Nat :=
  if 0x1100 ≤ a ∧ a ≤ 0x1112 ∧ 0x1161 ≤ b ∧ b ≤ 0x1175 then
    some (0xAC00 + (a - 0x1100) * 588 + (b - 0x1161) * 28)
  else if 0xAC00 ≤ a ∧ a ≤ 0xD7A3 ∧ (a - 0xAC00) % 28 = 0 ∧ 0x11A8 ≤ b ∧ b ≤ 0x11C2 then
    some (a + (b - 0x11A7))
  else none

/-- The full decomposition of a code point; parts nest three deep at most. -/
def decomposeCode : Nat → Nat → List Nat
  | 0, n => [n]
  | depth + 1, n =>
    match syllableParts? n with
    | some parts => parts
    | none =>
      match parts? n with
      | some parts => parts.flatMap (decomposeCode depth)
      | none => [n]

/-- Puts runs of combining marks into the order of their classes; marks of one class keep their
    order. -/
def orderMarks (codes : List Nat) : List Nat :=
  let flush (marks : List (Nat × Nat)) : List Nat :=
    (marks.reverse.mergeSort fun a b => a.1 ≤ b.1).map Prod.snd
  let (done, marks) := codes.foldl (fun (done, marks) n =>
    let cls := combiningClass n
    if cls = 0 then (n :: ((flush marks).reverse ++ done), [])
    else (done, (cls, n) :: marks)) (([] : List Nat), ([] : List (Nat × Nat)))
  done.reverse ++ flush marks

/-- The pairs that are composed, with what they are composed to. -/
def compositions : List ((Nat × Nat) × Nat) :=
  decompositions.toList.filterMap fun (code, parts) =>
    match parts with
    | [a, b] => if excluded.contains code then none else some ((a, b), code)
    | _ => none

/-- The code point that two are composed to. -/
def pair? (a b : Nat) : Option Nat :=
  match syllable? a b with
  | some n => some n
  | none => (compositions.find? fun entry => entry.1.1 == a && entry.1.2 == b).map Prod.snd

/-- Composes marks with the last starter before them.  `starter` is that starter, `between` are
    the marks behind it that stay, last first, and `last` is the class of the last of them. -/
def composeFrom (starter : Nat) (between : List Nat) (last : Nat) : List Nat → List Nat
  | [] => starter :: between.reverse
  | n :: rest =>
    let cls := combiningClass n
    let blocked := !between.isEmpty && cls ≤ last
    match if blocked then none else pair? starter n with
    | some composed => composeFrom composed between last rest
    | none =>
      if cls = 0 then starter :: between.reverse ++ composeFrom n [] 0 rest
      else composeFrom starter (n :: between) cls rest

/-- The composed form of code points. -/
def compose (codes : List Nat) : List Nat :=
  let ordered := orderMarks (codes.flatMap (decomposeCode 4))
  let leading := ordered.takeWhile fun n => combiningClass n ≠ 0
  match ordered.drop leading.length with
  | [] => leading
  | n :: rest => leading ++ composeFrom n [] 0 rest

end CanonicalForm
end RecordRules
