import LabelSelector.Unicode.Property

/-! # Boundaries in text

  The classes of characters by which text is divided into graphemes, words and
  sentences, in version 16.0 of the Unicode standard.
-/

namespace LabelSelector.Unicode.Boundary

open Property (alphabetic graphemeExtend ignorable joinControl lowercase prependedMark uppercase
  whiteSpace)

/-- Modifiers of emoji. -/
def emojiModifier : CharSet := ⟨[(0x1F3FB, 0x1F3FF)]⟩

/-- Hangul syllables without a final consonant: every 28th. -/
def openSyllables : CharSet :=
  ⟨(List.range 399).map fun k => (0xAC00 + 28 * k, 0xAC00 + 28 * k)⟩

/-- Number signs that are read like a digit: all but one. -/
def numberSigns : Rule := .minus (.sets [prependedMark]) (.table ["70F"])

/-! ### Graphemes -/

/-- The classes of Grapheme_Cluster_Break. -/
def grapheme : List (List String × Rule) := [
  (["cn", "control"],
    .minus
      (.plus
        (.sets [Category.lineSeparator, Category.paragraphSeparator, Category.control,
          Category.format])
        (.minus (.sets [ignorable])
          (.minus (.sets [.scalars]) (.sets [Category.unassigned]))))
      (.plus (.table ["A D"]) (.sets [joinControl, graphemeExtend, prependedMark]))),
  (["cr"], .table ["D"]),
  (["ex", "extend"], .sets [graphemeExtend, emojiModifier]),
  (["l"], .table ["1100-115F A960-A97C"]),
  (["lf"], .table ["A"]),
  (["lv"], .sets [openSyllables]),
  (["lvt"], .minus (.table ["AC00-D7A3"]) (.sets [openSyllables])),
  (["pp", "prepend"],
    .plus (.sets [prependedMark])
      (.table ["D4E 111C2-111C3 113D1 1193F 11941 11A3A 11A84-11A89 11D46 11F02"])),
  (["ri", "regionalindicator"], .table ["1F1E6-1F1FF"]),
  (["sm", "spacingmark"],
    .minus
      (.plus (.table ["E33 EB3"]) (.sets [Category.spacingMark]))
      (.plus (.sets [graphemeExtend])
        (.table ["102B-102C 1038 1062-1064 1067-106D 1083 1087-108C 108F 109A-109C 1A61 1A63-1A64",
                 "AA7B AA7D 11720-11721"]))),
  (["t"], .table ["11A8-11FF D7CB-D7FB"]),
  (["v"], .table ["1160-11A7 D7B0-D7C6 16D63 16D67-16D6A"]),
  (["zwj"], .table ["200D"])]

/-! ### Words -/

/-- What attaches to a word. -/
def wordExtend : Rule :=
  .minus (.sets [graphemeExtend, Category.spacingMark, emojiModifier]) (.table ["200D"])

/-- Letters of Hebrew. -/
def hebrewLetter : Rule := .table [
  "5D0-5EA 5EF-5F2 FB1D FB1F-FB28 FB2A-FB36 FB38-FB3C FB3E FB40-FB41 FB43-FB44 FB46-FB4F"]

/-- Katakana, and what is used with it. -/
def katakana : Rule := .table [
  "3031-3035 309B-309C 30A0-30FA 30FC-30FF 31F0-31FF 32D0-32FE 3300-3357 FF66-FF9D 1AFF0-1AFF3",
  "1AFF5-1AFFB 1AFFD-1AFFE 1B000 1B120-1B122 1B155 1B164-1B167"]

/-- Letters of scripts that are written without blanks between words, and those
    that stand for words by themselves. -/
def unspaced : Rule := .table [
  "E01-E30 E32-E33 E40-E46 E81-E82 E84 E86-E8A E8C-EA3 EA5 EA7-EB0 EB2-EB3 EBD EC0-EC4 EC6",
  "EDC-EDF 1000-102A 103F 1050-1055 105A-105D 1061 1065-1066 106E-1070 1075-1081 108E 1780-17B3",
  "17D7 17DC 1950-196D 1970-1974 1980-19AB 19B0-19C9 1A20-1A54 1AA7 3006-3007 3021-3029 3038-303A",
  "3041-3096 309D-309F 3400-4DBF 4E00-9FFF A9E0-A9E4 A9E6-A9EF A9FA-A9FE AA60-AA76 AA7A AA7E-AAAF",
  "AAB1 AAB5-AAB6 AAB9-AABD AAC0 AAC2 AADB-AADD F900-FA6D FA70-FAD9 11700-1171A 11740-11746 16FE4",
  "17000-187F7 18800-18CD5 18CFF-18D08 1B001-1B11F 1B132 1B150-1B152 1B170-1B2FB 1F200",
  "20000-2A6DF 2A700-2B739 2B740-2B81D 2B820-2CEA1 2CEB0-2EBE0 2EBF0-2EE5D 2F800-2FA1D",
  "30000-3134A 31350-323AF"]

/-- Characters that are used like letters within words. -/
def letterLike : Rule := .table [
  "2C2-2C5 2D2-2D7 2DE-2DF 2E5-2EB 2ED 2EF-2FF 55A-55C 55E 58A 5F3 70F A708-A716 A720-A721",
  "A789-A78A AB5B"]

/-- The classes of Word_Break. -/
def word : List (List String × Rule) := [
  (["cr"], .table ["D"]),
  (["dq", "doublequote"], .table ["22"]),
  (["ex", "extendnumlet"], .plus (.sets [Category.connectorPunctuation]) (.table ["202F"])),
  (["extend"], wordExtend),
  (["fo", "format"],
    .minus (.sets [Category.format])
      (.plus (.table ["200B-200D"]) (.sets [prependedMark, graphemeExtend]))),
  (["hl", "hebrewletter"], hebrewLetter),
  (["ka", "katakana"], katakana),
  (["le", "aletter"],
    .plus letterLike
      (.minus (.sets [alphabetic])
        (.plus (.plus unspaced wordExtend) (.plus hebrewLetter katakana)))),
  (["lf"], .table ["A"]),
  (["mb", "midnumlet"], .table ["2E 2018-2019 2024 FE52 FF07 FF0E"]),
  (["ml", "midletter"], .table ["3A B7 387 55F 5F4 2027 FE13 FE55 FF1A"]),
  (["mn", "midnum"],
    .table ["2C 3B 37E 589 60C-60D 66C 7F8 2044 FE10 FE14 FE50 FE54 FF0C FF1B"]),
  (["nl", "newline"], .table ["B-C 85 2028-2029"]),
  (["nu", "numeric"],
    .plus numberSigns (.plus (.table ["66B"]) (.sets [Category.decimalNumber]))),
  (["ri", "regionalindicator"], .table ["1F1E6-1F1FF"]),
  (["sq", "singlequote"], .table ["27"]),
  (["wsegspace"], .minus (.sets [Category.spaceSeparator]) (.table ["A0 2007 202F"])),
  (["zwj"], .table ["200D"])]

/-! ### Sentences -/

/-- What attaches within a sentence. -/
def sentenceExtend : Rule := .sets [graphemeExtend, Category.spacingMark, ⟨[(0x200D, 0x200D)]⟩]

/-- Lowercase characters, without those of a script that is not always cased. -/
def sentenceLower : Rule :=
  .minus (.sets [lowercase]) (.plus sentenceExtend (.table ["10D0-10FA 10FD-10FF"]))

/-- Uppercase and titlecase characters, with the same exception. -/
def sentenceUpper : Rule :=
  .minus (.sets [uppercase, Category.titlecaseLetter])
    (.plus sentenceExtend (.table ["1C90-1CBA 1CBD-1CBF"]))

/-- Full stops that need not end a sentence. -/
def fullStop : Rule := .table ["2E 2024 FE52 FF0E"]

/-- The classes of Sentence_Break. -/
def sentence : List (List String × Rule) := [
  (["at", "aterm"], fullStop),
  (["cl", "close"],
    .plus (.table ["22 27 275B-2760 2E00-2E01 2E06-2E08 2E0B 1F676-1F678"])
      (.sets [Category.openPunctuation, Category.closePunctuation, Category.initialPunctuation,
        Category.finalPunctuation])),
  (["cr"], .table ["D"]),
  (["ex", "extend"], sentenceExtend),
  (["fo", "format"],
    .minus (.sets [Category.format])
      (.plus numberSigns (.sets [joinControl, graphemeExtend]))),
  (["le", "oletter"],
    .minus (.plus (.table ["5F3"]) (.sets [alphabetic]))
      (.plus sentenceExtend (.plus sentenceLower sentenceUpper))),
  (["lf"], .table ["A"]),
  (["lo", "lower"], sentenceLower),
  (["nu", "numeric"],
    .plus numberSigns (.plus (.table ["66B-66C"]) (.sets [Category.decimalNumber]))),
  (["sc", "scontinue"],
    .table ["2C-2D 3A-3B 37E 55D 60C-60D 7F8 1802 1808 2013-2014 3001 FE10-FE11 FE13-FE14",
            "FE31-FE32 FE50-FE51 FE54-FE55 FE58 FE63 FF0C-FF0D FF1A-FF1B FF64"]),
  (["se", "sep"], .table ["85 2028-2029"]),
  (["sp"], .minus (.sets [whiteSpace]) (.table ["A D 85 2028-2029"])),
  (["st", "sterm"],
    .minus
      (.table ["21 2E 3F 589 61D-61F 6D4 700-702 7F9 837 839 83D-83E 964-965 104A-104B 1362",
               "1367-1368 166E 1735-1736 17D4-17D5 1803 1809 1944-1945 1AA8-1AAB 1B4E-1B4F",
               "1B5A-1B5B 1B5E-1B5F 1B7D-1B7F 1C3B-1C3C 1C7E-1C7F 2024 203C-203D 2047-2049",
               "2CF9-2CFB 2E2E 2E3C 2E53-2E54 3002 A4FF A60E-A60F A6F3 A6F7 A876-A877 A8CE-A8CF",
               "A92F A9C8-A9C9 AA5D-AA5F AAF0-AAF1 ABEB FE12 FE15-FE16 FE52 FE56-FE57 FF01 FF0E",
               "FF1F FF61 10A56-10A57 10F55-10F59 10F86-10F89 11047-11048 110BE-110C1 11141-11143",
               "111C5-111C6 111CD 111DE-111DF 11238-11239 1123B-1123C 112A9 113D4-113D5",
               "1144B-1144C 115C2-115C3 115C9-115D7 11641-11642 1173C-1173E 11944 11946",
               "11A42-11A43 11A9B-11A9C 11C41-11C42 11EF7-11EF8 11F43-11F44 16A6E-16A6F 16AF5",
               "16B37-16B38 16B44 16D6E-16D6F 16E98 1BC9F 1DA88"])
      fullStop),
  (["up", "upper"], sentenceUpper)]

end LabelSelector.Unicode.Boundary
