/-
  LineRules.Unicode.Breaks — what a code point does at the borders of characters, words and
  sentences.

  The three properties Grapheme_Cluster_Break, Word_Break and Sentence_Break give every code
  point one value each. The values are defined here from categories, binary properties and
  scripts; the value `Other` of the code points that are left has no set.
-/

import LineRules.Unicode.Binary
import LineRules.Unicode.Script

namespace LineRules.Unicode

def joiners : CodeSet := CodeSet.ofText "200C-200D"

/-! ## Characters -/

namespace GraphemeBreak

def extend : CodeSet := graphemeExtend.union (listed "emojimodifier")

def prepend : CodeSet :=
  (listed "prependedconcatenationmark").union
    (CodeSet.ofText "D4E 111C2-111C3 113D1 1193F 11941 11A3A 11A84-11A89 11D46 11F02")

def control : CodeSet :=
  (((Category.codes [.lineSeparator, .paragraphSeparator, .control, .format]).union
    (defaultIgnorable.inter (Category.codes [.unassigned]))).diff
    (((CodeSet.ofText "A D").union joiners).union (listed "prependedconcatenationmark"))).diff extend

def spacingMark : CodeSet :=
  ((Category.codes [.spacingMark]).union (CodeSet.ofText "E33 EB3")).diff
    (extend.union
      (CodeSet.ofText "102B-102C 1038 1062-1064 1067-106D 1083 1087-108C 108F 109A-109C 1A61 1A63-1A64 AA7B AA7D
        11720-11721"))

def firstSyllable : Nat := 0xAC00

def lastSyllable : Nat := 0xD7A3

/-- Hangul syllables without a final consonant: one in every 28. -/
def openSyllables : CodeSet :=
  (List.range ((lastSyllable - firstSyllable) / 28 + 1)).map fun k => (firstSyllable + 28 * k, firstSyllable + 28 * k)

def closedSyllables : CodeSet := CodeSet.diff [(firstSyllable, lastSyllable)] openSyllables

def codes? (value : String) : Option CodeSet :=
  match value with
  | "cr" => some (CodeSet.ofText "D")
  | "lf" => some (CodeSet.ofText "A")
  | "cn" | "control" => some control
  | "ex" | "extend" => some extend
  | "pp" | "prepend" => some prepend
  | "ri" | "regionalindicator" => some (listed "regionalindicator")
  | "sm" | "spacingmark" => some spacingMark
  | "zwj" => some (CodeSet.ofText "200D")
  | "l" => some (CodeSet.ofText "1100-115F A960-A97C")
  | "v" => some (CodeSet.ofText "1160-11A7 D7B0-D7C6 16D63 16D67-16D6A")
  | "t" => some (CodeSet.ofText "11A8-11FF D7CB-D7FB")
  | "lv" => some openSyllables
  | "lvt" => some closedSyllables
  | _ => none

end GraphemeBreak

/-! ## Words -/

namespace WordBreak

def extend : CodeSet := (graphemeExtend.union (Category.codes [.spacingMark])).union (listed "emojimodifier")

def numeric : CodeSet :=
  (Category.codes [.decimalNumber]).union (CodeSet.ofText "600-605 66B 6DD 890-891 8E2 19DA 110BD 110CD")

def format : CodeSet :=
  (Category.codes [.format]).diff
    (((CodeSet.ofText "200B-200D").union GraphemeBreak.prepend).union graphemeExtend)

def hebrewLetter : CodeSet := ((script? "hebrew").getD []).inter (Category.codes [.otherLetter])

def katakana : CodeSet :=
  ((script? "katakana").getD []).union (CodeSet.ofText "3031-3035 309B-309C 30A0 30FC FF70")

def unspacedLetters : CodeSet :=
  CodeSet.ofText "E01-E30 E32-E33 E40-E46 E81-E82 E84 E86-E8A E8C-EA3 EA5 EA7-EB0 EB2-EB3 EBD EC0-EC4 EC6 EDC-EDF
    1000-102A 103F 1050-1055 105A-105D 1061 1065-1066 106E-1070 1075-1081 108E 1780-17B3 17D7 17DC 1950-196D
    1970-1974 1980-19AB 19B0-19C9 1A20-1A54 1AA7 A9E0-A9E4 A9E6-A9EF A9FA-A9FE AA60-AA76 AA7A AA7E-AAAF AAB1
    AAB5-AAB6 AAB9-AABD AAC0 AAC2 AADB-AADD 11700-1171A 11740-11746"

def letterlike : CodeSet :=
  CodeSet.ofText "2C2-2C5 2D2-2D7 2DE-2DF 2E5-2EB 2ED 2EF-2FF 55A-55C 55E 58A 5F3 70F A708-A716 A720-A721
    A789-A78A AB5B"

def letter : CodeSet :=
  (alphabetic.diff
    ((((((listed "ideographic").union katakana).union ((script? "hiragana").getD [])).union hebrewLetter).union
      extend).union unspacedLetters)).union letterlike

def codes? (value : String) : Option CodeSet :=
  match value with
  | "le" | "aletter" => some letter
  | "cr" => some (CodeSet.ofText "D")
  | "lf" => some (CodeSet.ofText "A")
  | "dq" | "doublequote" => some (CodeSet.ofText "22")
  | "sq" | "singlequote" => some (CodeSet.ofText "27")
  | "extend" => some extend
  | "ex" | "extendnumlet" => some ((Category.codes [.connectorPunctuation]).insert 0x202F 0x202F)
  | "fo" | "format" => some format
  | "hl" | "hebrewletter" => some hebrewLetter
  | "ka" | "katakana" => some katakana
  | "ml" | "midletter" => some (CodeSet.ofText "3A B7 387 55F 5F4 2027 FE13 FE55 FF1A")
  | "mn" | "midnum" => some (CodeSet.ofText "2C 3B 37E 589 60C-60D 66C 7F8 2044 FE50 FE54 FF0C FF1B")
  | "mb" | "midnumlet" => some (CodeSet.ofText "2E 2018-2019 2024 FE52 FF07 FF0E")
  | "nl" | "newline" => some (CodeSet.ofText "B-C 85 2028-2029")
  | "nu" | "numeric" => some numeric
  | "ri" | "regionalindicator" => some (listed "regionalindicator")
  | "wsegspace" => some (CodeSet.ofText "20 1680 2000-2006 2008-200A 205F 3000")
  | "zwj" => some (CodeSet.ofText "200D")
  | _ => none

end WordBreak

/-! ## Sentences -/

namespace SentenceBreak

def extend : CodeSet := (graphemeExtend.union (Category.codes [.spacingMark])).union joiners

def numeric : CodeSet := WordBreak.numeric.insert 0x66C 0x66C

def format : CodeSet := (Category.codes [.format]).diff ((joiners.union graphemeExtend).union numeric)

/-- Georgian letters begin a sentence in either case. -/
def lower : CodeSet := lowercase.diff (graphemeExtend.union (CodeSet.ofText "10D0-10FA 10FD-10FF"))

def upper : CodeSet :=
  (uppercase.union (Category.codes [.titlecaseLetter])).diff (CodeSet.ofText "1C90-1CBA 1CBD-1CBF")

def otherLetter : CodeSet := (alphabetic.insert 0x5F3 0x5F3).diff ((lower.union upper).union extend)

def close : CodeSet :=
  (((Category.codes [.openPunctuation, .closePunctuation, .initialPunctuation, .finalPunctuation]).union
    (listed "quotationmark")).union (CodeSet.ofText "275B-2760 2E00-2E01 2E06-2E08 2E0B 1F676-1F678")).diff
    (CodeSet.ofText "FF02 FF07")

/-- Full stops, which also stand in abbreviations and numbers. -/
def fullStop : CodeSet := CodeSet.ofText "2E 2024 FE52 FF0E"

def codes? (value : String) : Option CodeSet :=
  match value with
  | "at" | "aterm" => some fullStop
  | "cl" | "close" => some close
  | "cr" => some (CodeSet.ofText "D")
  | "lf" => some (CodeSet.ofText "A")
  | "ex" | "extend" => some extend
  | "fo" | "format" => some format
  | "lo" | "lower" => some lower
  | "up" | "upper" => some upper
  | "le" | "oletter" => some otherLetter
  | "nu" | "numeric" => some numeric
  | "sc" | "scontinue" =>
    some (CodeSet.ofText "2C-2D 3A-3B 37E 55D 60C-60D 7F8 1802 1808 2013-2014 3001 FE10-FE11 FE13-FE14 FE31-FE32
      FE50-FE51 FE54-FE55 FE58 FE63 FF0C-FF0D FF1A-FF1B FF64")
  | "se" | "sep" => some (CodeSet.ofText "85 2028-2029")
  | "sp" => some (blankCodes.diff (CodeSet.ofText "A D 85 2028-2029"))
  | "st" | "sterm" => some ((listed "sentenceterminal").diff fullStop)
  | _ => none

end SentenceBreak

end LineRules.Unicode
