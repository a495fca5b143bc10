import HeapQuery.Regex.CharSet
import HeapQuery.Text.Age
import HeapQuery.Text.Property.Table

namespace HeapQuery.Regex.PropertySet

open HeapQuery.Text (Category)

def ofText (ranges : String) : CharSet := .ofRanges (Text.Ranges.ofText ranges)

def general (k : Category) : CharSet := .property (.general k)

def unions (sets : List CharSet) : CharSet := sets.foldr .union .empty

def listed? (name : String) : Option CharSet :=
  (Text.Ranges.named? Text.Property.table name).map .ofRanges

def listed (name : String) : CharSet := (listed? name).getD .empty

def math : CharSet := unions [general .sm, ofText "
  5e 3d0-3d2 3d5 3f0-3f1 3f4-3f5 2016 2032-2034 2040 2061-2064 207d-207e 208d-208e 20d0-20dc 20e1
  20e5-20e6 20eb-20ef 2102 2107 210a-2113 2115 2119-211d 2124 2128-2129 212c-212d 212f-2131
  2133-2138 213c-213f 2145-2149 2195-2199 219c-219f 21a1-21a2 21a4-21a5 21a7 21a9-21ad 21b0-21b1
  21b6-21b7 21bc-21cd 21d0-21d1 21d3 21d5-21db 21dd 21e4-21e5 2308-230b 23b4-23b5 23b7 23d0 23e2
  25a0-25a1 25ae-25b6 25bc-25c0 25c6-25c7 25ca-25cb 25cf-25d3 25e2 25e4 25e7-25ec 2605-2606 2640
  2642 2660-2663 266d-266e 27c5-27c6 27e6-27ef 2983-2998 29d8-29db 29fc-29fd fe61 fe63 fe68 ff3c
  ff3e 1d400-1d454 1d456-1d49c 1d49e-1d49f 1d4a2 1d4a5-1d4a6 1d4a9-1d4ac 1d4ae-1d4b9 1d4bb
  1d4bd-1d4c3 1d4c5-1d505 1d507-1d50a 1d50d-1d514 1d516-1d51c 1d51e-1d539 1d53b-1d53e 1d540-1d544
  1d546 1d54a-1d550 1d552-1d6a5 1d6a8-1d6c0 1d6c2-1d6da 1d6dc-1d6fa 1d6fc-1d714 1d716-1d734
  1d736-1d74e 1d750-1d76e 1d770-1d788 1d78a-1d7a8 1d7aa-1d7c2 1d7c4-1d7cb 1d7ce-1d7ff 1ee00-1ee03
  1ee05-1ee1f 1ee21-1ee22 1ee24 1ee27 1ee29-1ee32 1ee34-1ee37 1ee39 1ee3b 1ee42 1ee47 1ee49 1ee4b
  1ee4d-1ee4f 1ee51-1ee52 1ee54 1ee57 1ee59 1ee5b 1ee5d 1ee5f 1ee61-1ee62 1ee64 1ee67-1ee6a
  1ee6c-1ee72 1ee74-1ee77 1ee79-1ee7c 1ee7e 1ee80-1ee89 1ee8b-1ee9b 1eea1-1eea3 1eea5-1eea9
  1eeab-1eebb"]

def pattern : CharSet := .union (listed "patternsyntax") (listed "patternwhitespace")

def idStart : CharSet :=
  .difference (unions [.property .letter, general .nl, ofText "1885-1886 2118 212e 309b-309c"])
    pattern

def idContinue : CharSet :=
  .difference (unions [idStart, general .mn, general .mc, general .nd, general .pc,
    ofText "b7 387 1369-1371 19da 200c-200d 30fb ff65"]) pattern

def unstable : CharSet := ofText "
  37a 309b-309c fc5e-fc63 fdfa-fdfb fe70 fe72 fe74 fe76 fe78 fe7a fe7c fe7e"

def xidStart : CharSet := .difference idStart (.union unstable (ofText "e33 eb3 ff9e-ff9f"))

def xidContinue : CharSet := .difference idContinue unstable

def graphemeBase : CharSet :=
  .complement (unions [general .cc, general .cf, general .cs, general .co, general .cn, general .zl,
    general .zp, .property .extending])

def onlySmall : CharSet := ofText "
  aa ba 138 18d 1aa-1ab 1ba 1be 221 234-239 255 258 25a 25d-25f 262 267 26d-26e 270 273-274 276-27c
  27e-27f 281 284-286 28d-291 293 295-29c 29f-2b8 2c0-2c1 2e0-2e4 37a 3fc 560 588 10fc 1d00-1d78
  1d7a-1d7c 1d7e-1d8d 1d8f-1dbf 1e9c-1e9d 1e9f 2071 207f 2090-209c 210a 210e-210f 2113 212f 2134
  2139 213c-213d 2146-2149 2c71 2c74 2c77-2c7d 2ce4 a69c-a69d a730-a731 a770-a778 a78e a795 a7af
  a7d3 a7d5 a7f2-a7f4 a7f8-a7fa ab30-ab52 ab54-ab5a ab5c-ab69 10780 10783-10785 10787-107b0
  107b2-107ba 1d41a-1d433 1d44e-1d454 1d456-1d467 1d482-1d49b 1d4b6-1d4b9 1d4bb 1d4bd-1d4c3
  1d4c5-1d4cf 1d4ea-1d503 1d51e-1d537 1d552-1d56b 1d586-1d59f 1d5ba-1d5d3 1d5ee-1d607 1d622-1d63b
  1d656-1d66f 1d68a-1d6a5 1d6c2-1d6da 1d6dc-1d6e1 1d6fc-1d714 1d716-1d71b 1d736-1d74e 1d750-1d755
  1d770-1d788 1d78a-1d78f 1d7aa-1d7c2 1d7c4-1d7c9 1d7cb 1df00-1df09 1df0b-1df1e 1df25-1df2a
  1e030-1e06d"

def onlyCapital : CharSet := ofText "
  3d2-3d4 2102 2107 210b-210d 2110-2112 2115 2119-211d 2124 2128 212c-212d 2130-2131 2133 213e-213f
  2145 1d400-1d419 1d434-1d44d 1d468-1d481 1d49c 1d49e-1d49f 1d4a2 1d4a5-1d4a6 1d4a9-1d4ac
  1d4ae-1d4b5 1d4d0-1d4e9 1d504-1d505 1d507-1d50a 1d50d-1d514 1d516-1d51c 1d538-1d539 1d53b-1d53e
  1d540-1d544 1d546 1d54a-1d550 1d56c-1d585 1d5a0-1d5b9 1d5d4-1d5ed 1d608-1d621 1d63c-1d655
  1d670-1d689 1d6a8-1d6c0 1d6e2-1d6fa 1d71c-1d734 1d756-1d76e 1d790-1d7a8 1d7ca 1f130-1f149
  1f150-1f169 1f170-1f189"

def lowered : CharSet := .difference (.union (.property .uppercase) (general .lt)) onlyCapital

def uppered : CharSet := .difference (.union (.property .lowercase) (general .lt)) onlySmall

def titled : CharSet :=
  .union (ofText "1c4 1c7 1ca 1f1") (.difference uppered (ofText "
    1c5 1c8 1cb 1f2 10d0-10fa 10fd-10ff 1f88-1f8f 1f98-1f9f 1fa8-1faf 1fbc 1fcc 1ffc"))

def folded : CharSet :=
  .union (.difference lowered (ofText "13a0-13f5")) (ofText "
    b5 df 149 17f 345 3c2 3d0-3d1 3d5-3d6 3f0-3f1 3f5 587 13f8-13fd 1c80-1c88 1e9a-1e9b 1f80-1f87
    1f90-1f97 1fa0-1fa7 1fb2-1fb4 1fb7 1fc2-1fc4 1fc7 1ff2-1ff4 1ff7 ab70-abbf fb00-fb06 fb13-fb17")

/-- Properties that a character has or lacks, beside those of categories and of letter case. -/
def binary? : String → Option CharSet
  | "math" => some math
  | "idstart" | "ids" => some idStart
  | "idcontinue" | "idc" => some idContinue
  | "xidstart" | "xids" => some xidStart
  | "xidcontinue" | "xidc" => some xidContinue
  | "graphemebase" | "grbase" => some graphemeBase
  | "changeswhenlowercased" | "cwl" => some lowered
  | "changeswhenuppercased" | "cwu" => some uppered
  | "changeswhentitlecased" | "cwt" => some titled
  | "changeswhencasefolded" | "cwcf" => some folded
  | "changeswhencasemapped" | "cwcm" => some (unions [lowered, uppered, titled])
  | name => listed? name

def openSyllables : CharSet :=
  .ofRanges ((List.range 399).map fun n => (0xac00 + 28 * n, 0xac00 + 28 * n))

def syllables : CharSet := ofText "ac00-d7a3"

def attached : CharSet := unions [.property .extending, general .mc]

def graphemeExtend : CharSet := .union (.property .extending) (listed "emojimodifier")

def graphemeBreak? : String → Option CharSet
  | "cr" => some (ofText "d")
  | "lf" => some (ofText "a")
  | "control" | "cn" =>
    some (.difference
      (unions [general .zl, general .zp, general .cc, general .cf,
        .inter (general .cn) (listed "defaultignorablecodepoint")])
      (unions [ofText "a d 200c 200d", listed "prependedconcatenationmark", .property .extending]))
  | "extend" | "ex" => some graphemeExtend
  | "prepend" | "pp" =>
    some (.union (listed "prependedconcatenationmark")
      (ofText "d4e 111c2-111c3 113d1 1193f 11941 11a3a 11a84-11a89 11d46 11f02"))
  | "spacingmark" | "sm" =>
    some (.difference (.union (general .mc) (ofText "e33 eb3"))
      (.union graphemeExtend (ofText "
        102b-102c 1038 1062-1064 1067-106d 1083 1087-108c 108f 109a-109c 1a61 1a63-1a64 aa7b aa7d
        11720-11721")))
  | "regionalindicator" | "ri" => some (listed "regionalindicator")
  | "l" => some (ofText "1100-115f a960-a97c")
  | "v" => some (ofText "1160-11a7 d7b0-d7c6 16d63 16d67-16d6a")
  | "t" => some (ofText "11a8-11ff d7cb-d7fb")
  | "lv" => some openSyllables
  | "lvt" => some (.difference syllables openSyllables)
  | "zwj" => some (ofText "200d")
  | _ => none

def hebrewLetters : CharSet :=
  ofText "5d0-5ea 5ef-5f2 fb1d fb1f-fb28 fb2a-fb36 fb38-fb3c fb3e fb40-fb41 fb43-fb44 fb46-fb4f"

def katakana : CharSet := ofText "
  3031-3035 309b-309c 30a0-30fa 30fc-30ff 31f0-31ff 32d0-32fe 3300-3357 ff66-ff9d 1aff0-1aff3
  1aff5-1affb 1affd-1affe 1b000 1b120-1b122 1b155 1b164-1b167"

def unspaced : CharSet := ofText "
  e01-e3a e40-e4e e81-e82 e84 e86-e8a e8c-ea3 ea5 ea7-ebd ec0-ec4 ec6 ec8-ece edc-edf 1000-103f
  1050-108f 109a-109f 1780-17d3 17d7 17dc-17dd 1950-196d 1970-1974 1980-19ab 19b0-19c9 19da
  19de-19df 1a20-1a5e 1a60-1a7c 1aa0-1aad 3041-3096 309d-309f a9e0-a9ef a9fa-a9fe aa60-aac2
  aadb-aadf 11700-1171a 1171d-1172b 1173a-1173b 1173f-11746 1b001-1b11f 1b132 1b150-1b152"

def wordExtend : CharSet := .union attached (listed "emojimodifier")

def wordBreak? : String → Option CharSet
  | "cr" => some (ofText "d")
  | "lf" => some (ofText "a")
  | "newline" | "nl" => some (ofText "b-c 85 2028-2029")
  | "doublequote" | "dq" => some (ofText "22")
  | "singlequote" | "sq" => some (ofText "27")
  | "hebrewletter" | "hl" => some hebrewLetters
  | "katakana" | "ka" => some katakana
  | "aletter" | "le" =>
    some (.union
      (ofText "2c2-2c5 2d2-2d7 2de-2df 2e5-2eb 2ed 2ef-2ff 55a-55c 55e 58a 5f3 a708-a716 a720-a721
        a789-a78a ab5b")
      (.difference (.property .alphabetic)
        (unions [listed "ideographic", katakana, unspaced, hebrewLetters, wordExtend])))
  | "midletter" | "ml" => some (ofText "3a b7 387 55f 5f4 2027 fe13 fe55 ff1a")
  | "midnum" | "mn" =>
    some (ofText "2c 3b 37e 589 60c-60d 66c 7f8 2044 fe10 fe14 fe50 fe54 ff0c ff1b")
  | "midnumlet" | "mb" => some (ofText "2e 2018-2019 2024 fe52 ff07 ff0e")
  | "numeric" | "nu" => some (.union (general .nd) (ofText "66b"))
  | "extendnumlet" | "ex" => some (.union (general .pc) (ofText "202f"))
  | "extend" => some wordExtend
  | "format" | "fo" => some (.difference (general .cf) (ofText "200b-200d e0020-e007f"))
  | "regionalindicator" | "ri" => some (listed "regionalindicator")
  | "wsegspace" => some (ofText "20 1680 2000-2006 2008-200a 205f 3000")
  | "zwj" => some (ofText "200d")
  | _ => none

def georgianCapitals : CharSet := ofText "1c90-1cba 1cbd-1cbf"

def sentenceLower : CharSet :=
  .difference (.property .lowercase) (.union (.property .extending) (ofText "10d0-10fa 10fd-10ff"))

def sentenceUpper : CharSet :=
  .difference (.union (.property .uppercase) (general .lt)) georgianCapitals

def sentenceExtend : CharSet := .union attached (ofText "200d")

def fullStops : CharSet := ofText "2e 2024 fe52 ff0e"

def sentenceBreak? : String → Option CharSet
  | "cr" => some (ofText "d")
  | "lf" => some (ofText "a")
  | "sep" | "se" => some (ofText "85 2028-2029")
  | "sp" => some (ofText "9 b-c 20 a0 1680 2000-200a 202f 205f 3000")
  | "extend" | "ex" => some sentenceExtend
  | "format" | "fo" => some (.difference (general .cf) (ofText "200c-200d e0020-e007f"))
  | "lower" | "lo" => some sentenceLower
  | "upper" | "up" => some sentenceUpper
  | "oletter" | "le" =>
    some (.difference (.union (.property .alphabetic) (ofText "5f3"))
      (unions [sentenceLower, sentenceUpper, sentenceExtend]))
  | "numeric" | "nu" => some (.union (general .nd) (ofText "66b-66c"))
  | "aterm" | "at" => some fullStops
  | "sterm" | "st" => some (.difference (listed "sentenceterminal") fullStops)
  | "scontinue" | "sc" =>
    some (ofText "2c-2d 3a-3b 37e 55d 60c-60d 7f8 1802 1808 2013-2014 3001 fe10-fe11 fe13-fe14
      fe31-fe32 fe50-fe51 fe54-fe55 fe58 fe63 ff0c-ff0d ff1a-ff1b ff64")
  | "close" | "cl" =>
    some (unions [general .ps, general .pe, general .pi, general .pf,
      .difference (listed "quotationmark") (ofText "ff02 ff07"),
      ofText "275b-2760 2e00-2e01 2e06-2e08 2e0b 1f676-1f678"])
  | _ => none

def age? (version : String) : Option CharSet :=
  (Text.Age.table.findIdx? fun row => row.1.contains version).map fun i =>
    unions ((Text.Age.table.take (i + 1)).map fun row => ofText row.2)

def script? (name : String) : Option CharSet := (Text.Script.ranges? name).map .ofRanges

def scriptExtension? (name : String) : Option CharSet :=
  (script? name).map fun own =>
    .union (.difference own (.ofRanges Text.Script.sharedRanges))
      (.ofRanges (Text.Script.sharedWith name))

end HeapQuery.Regex.PropertySet
