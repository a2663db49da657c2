import RecordRules.Unicode.Ranges

/-! # Writing direction and joining

The class that the bidirectional algorithm gives to a code point, and the code points whose
shapes join with their neighbours. -/

namespace RecordRules

/-- A class of the bidirectional algorithm, by its short name in the standard. -/
inductive BidiClass where
  | l
  | r
  | al
  | en
  | es
  | et
  | an
  | cs
  | nsm
  | bn
  | b
  | s
  | ws
  | on
  | lre
  | lro
  | rle
  | rlo
  | pdf
  | lri
  | rli
  | fsi
  | pdi
  deriving DecidableEq, Repr, Inhabited

namespace BidiClass

/-- The classes in the order of the table. -/
def all : Array BidiClass :=
  #[.l, .r, .al, .en, .es, .et, .an, .cs, .nsm, .bn, .b, .s,
    .ws, .on, .lre, .lro, .rle, .rlo, .pdf, .lri, .rli, .fsi, .pdi]

/-- Runs of code points, as length less one and class. -/
def runsText : String :=
  String.join ["ijalakalamaknjckalambncfenaeahaebhjdahfnzafnzadnfjakzjahandfdnaabnajbnbfbdanaacnadaaenwaanBe",
  "aanRgabngannbanneainaaqnEhidabnhaaneabnaaanEfaanFjagiJvaanbabnafabBsiabaiabbiabbiabaiCdbfgbn",
  "acbfacahacbnkiBvcuijgafbgccaiDwcgiaganfibcbiandibcjdwcaiBdcBaiDmckiocBqbiibbdncbaixbdiabiiab",
  "ciabeiBqbcidbBvcbgeciiBpcxiagBfiCcaaiaaaidahidaaicagijabiBcaaiCfaaidadihaaitabinabfgaafbaaib",
  "abiCeaaidabidabibacicaaiBdabicaaikabiCeaaidaeiaabidaaitabimaafhafiaaaiCfaaibaaiaadihaaigabik",
  "abiBdaaiCiaailaaiBkafnafaneaaicaaiCcaaiaacieaciaadigabikabitagnbaaiCfaaioabitabiBbabiCeabida",
  "dihaaitabiBcaaiCtaaigaciaaaiDlaaibagidaafgahiDtaaibaiikagiCuabiBaaaiaaaiaaaidnByaniaaeiaabie",
  "akiaaBjiiaaiDxadiaafiaabibabiyabidacipadimaaibabifaaioaaiBBaaciBvajnDxaanYoaamzabnEmaciBcabi",
  "BdabiBdabiClabiaagihaaibakigaafaaairajnfaknciajaiEmabiBhaaiEnacidabiiaaifacidaancabnFvaBhnwa",
  "bibaaiCfaaiaagiaaaiaaaibahifajibaaiBvaBtibalitadiBvaaiaaeiaaaieaaiBnaiilabiBfadibabiaaciCdaa",
  "iaabicaaiaaciCfahibabiFvaciaamiaagidaaifaaicabiHpaCliRcaanaacnkacnmacnmacnmabnaakmcjaaabxnam",
  "akaoaqasaparahefonahznamfjatauavawfjadcafdbecnaajdbecnqaBvfBgioabnaadnaabnjaanaacneafnaaanaa",
  "anaaandaafkabndaeneadnbapnBoacndaEznaeafLdnCqaznaaFonyaknuaBnntdCzaRhnaaNanJvaYdnbaBfnaaEanI",
  "uafndacigagnEwaaiDraBfiDpnBhaznaaDknlaIfnzalndaamdncayniadibaaneabneacnDkabibncaanDlaanHnaBj",
  "nCeabnBwapnBbacnBxaonladnGkadnDuabnBeaanJTnaClnBGUhaCcnMnacnDqadianjibnBdabiDbabinaBhnDxaanE",
  "qaaicaaidaaiyabiaadnaikabfCfadnCxabizarimaaiBlahiyakiBtaciBvaaibadibabiBmaaiCoafibabibabilaa",
  "ihaaiBuaaiByaaiaacibabieabiaaaiBpabihaaiEkabnEqaaibaaidaaiBDZqaabaijbaeBlbSzcrnEwcanBfjmccnp",
  "ijnfapiBfnahanahaaanahinafbnbecnaaanbfandaFmcajaabncfenaeahaebhjdahfnzafnzaknErabfcnbfaagnaa",
  "ijenbjJwaanCjaCyncamncaanDnaaiIraaiBadEraeiBSmaLabanIqbciabbiebdiBnbcidbaiGibbiDdbgnRfbBjcdi",
  "hcjgfcBobeiJhbBegBrbbisbCfcfiBvbvckiBecrbdiErbaaaiCbaoikatnjaaibabijaciBwadibabigaaiCiaciBja",
  "eiaahiCjaailabiBzaiijadibaaiDqacibaaiaabifaaibaaiGaaaicahiuabiCeabicaaiBkagicaeiCrafimaaiaaa",
  "iaaainabiDgahibaciaaaiwaaiDfafiaaaidabiaabiJdadifabiaabiBaabiDgahibaaiaabiBeamnCjaaiaaaibafi",
  "aaaiDwacibadiaaeiJyaiiaabiJvabiaaaidaaiFnadibabidaaiBfafibabiBnafibadihaaiiafibaciBtamiaabiH",
  "paaiaaciaaaiHsagiaafiDfavibagiaabiaabiEraficaaiaabiaagiaaaiCtabicaaiaaaiNiabikabiBzaeieaaiaa",
  "aiwaaiErahndfqnHRxaaifaoiQYxalicaciDRzaeiCgagiBOhaaiCkadiDaaanaaaiBDBjabiaadjGYtaBtibawiUxac",
  "iiahjhibagiBdadiCgabnuaCnncianHdaDinBIpaanCeaanCeaanCeaanCeaanjaBxdTraCcidaBxihaainaaivaeiaa",
  "oiCAhagiaaqibagiaabiaaeiDvaaiGdagiOkaaiCiadioaafSxadiJtabiJiaaibaaigabieaaiKfaHzbgiEebgiBEyb",
  "DbcClbDbcGtbJfcbnncJvbBrndaDvnlaonbaonaaonaaBknjakdenBeaanCfafnCiaanGvafnFxaBLvndaqncamncaEo",
  "ndaDqnfalndaanoalndaCdnhajnfaBnnhaBdnbabnCzaNbnlannbamncaingaBtnaagnhanndaingaingaFqnaaCcnBk",
  "ajdBNnabjDSYnabjDSYnabjDSYnabjDSYnabjDSYnabjDSYnabjDSYnabjDSYnabjDSYnabjDSYnabjDSYnabjDSYnaJ",
  "xjJfiFIljDMWzabjDSYnabjDSYnabj"]

/-- Runs from a code point on, as first and last code point and class. -/
def runsFrom (next : Nat) : List (Nat × Nat) → List (Nat × Nat × BidiClass)
  | [] => []
  | (length, i) :: rest =>
    (next, next + length, all.getD i .l) :: runsFrom (next + length + 1) rest

/-- Every code point in one run. -/
def runs : Array (Nat × Nat × BidiClass) :=
  (runsFrom 0 (BaseLetters.pairs (BaseLetters.decode runsText))).toArray

/-- Searches the runs from `low` to below `high`. -/
def search (n : Nat) : Nat → Nat → Nat → BidiClass
  | 0, _, _ => .l
  | fuel + 1, low, high =>
    if high ≤ low then .l
    else
      let mid := (low + high) / 2
      match runs[mid]? with
      | none => .l
      | some (first, last, cls) =>
        if n < first then search n fuel low mid
        else if last < n then search n fuel (mid + 1) high
        else cls

/-- The class of a code point. -/
def ofCode (n : Nat) : BidiClass :=
  search n (runs.size + 1) 0 runs.size

end BidiClass

/-- Code points that join with the one behind them. -/
def joinsForward : CodeRanges := .ofText <|
  String.join ["CIiafababeembgbbBjbipsBlbbjababbBoccascfdbibababbBfkdocdbacccfCwBgDiecabjbakabdcaBdacebaqjfb",
  "cfboFUcayDkoBhbaCCJtByBLFxeiafjbckdFpabadcbbbacaBcbMzBhbaPzbbbEacbqmcBcdclBuabbeacbbbbacafbD",
  "EGqCp"]

/-- Code points that join with the one before them. -/
def joinsBackward : CodeRanges := .ofText <|
  String.join ["CIiabBdbjBjbbcbDqbaybkccaqabBdBdByCwBgDhyhabdbdfsdacgqmbBaFUcayDkoBhbaCCJtBxBLFyfbabbdibjcag",
  "eForxfNaBiPycbbEaumdBbrBuabebhbdebDEGrCp"]

/-- Code points that joining passes over. -/
def joinsThrough : CodeRanges := .ofText <|
  String.join ["GraWwEhKpgKdBsbabbbbbaCukbaBuuqaDxgcfcbbdBhabaBeBaDnkCgijaydbibcbeBrcChiBqxbBfCdabaeheadgkbB",
  "daCgaediaubBaacbCfaebebccdaBebdalbCfaeebbeaubwfbaCgacabdiahblbBeaCjamaByadaCdabcfcbdhblbBdaC",
  "gacagafbubBcbCfbediaubBdaCuahcbaDmacgmhDuacilgCvbBbababaCdnbebbfkbBjjaDydbfbbcbzbecqdnacbgap",
  "aBBbcBKkcBdbBebBebCmbbgiackjaBtcbaEnbBiaEocebjagcIlbcaCgabgbabachgjcaBwBtcludBwabebafaBoimbB",
  "gdcbbcCeabbdabcCghcbFwcbmbgeagadbHqClUdacbBaeBxeffDsBgEOccFlaDsBfVidEdbBSQedbjBgbDcbKmadaeaz",
  "bfaFvbBarnaBmhzkBucBwacdcbBnaCpfcbcbmaiaBvaBzabccbfbbaBqbiaJeacaeaBDZsaBCjpqpHzaJpcTtaIsaFte",
  "CMgcbbfdBoceaGjbWbdCneMfbCzfCskBxdEtaCcoBpacbkcBxdcbhaCjcBkebhCkambCaikdcaDrccabbgacaGbadhvb",
  "CfbdaBlgdeCsfnababaobDhhccbaxaDgfbaebbbJedgbbbBbbDhhcabbEcabacfbaDxabacdbeJzibbJwbbaeaFodcbe",
  "aBgjBofcdiajfccBumbbHqabcbaHtgbfbaDevcgbbbbEsfdabbbgbaCubdabaNjblbCaefabaxaHXdqgoQYyldcDSaeC",
  "hgBOiaCldDdaBDBkbbdGYuBtcwUycjpcgBedFscCYdCceBxiaoaweboCAigbqcgbbbeDwaGegOlaCjdTodJubJjacahb",
  "faSggEfhBTBYzaBeDrEyJf"]

end RecordRules
