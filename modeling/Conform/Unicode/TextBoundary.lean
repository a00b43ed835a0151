import Conform.Unicode.BinaryProperty
import Conform.Unicode.Script
import Conform.Unicode.Table

namespace Conform.Unicode.TextBoundary

open GeneralCategory

def table (ranges : String) : Ranges := Table.ranges ranges

def script (name : String) : Ranges :=
  Ranges.unions ((Script.table.filter (·.1.contains name)).map fun entry => Table.ranges entry.2)

def zeroWidthJoiner : Ranges := table "200D"

def regionalIndicator : Ranges := table BinaryProperty.regionalIndicator

def hangulPairs : Ranges := (List.range 399).map fun i => (0xAC00 + 28 * i, 0xAC00 + 28 * i)

/-- Hangul syllables of three letters, which follow the pair that they extend. -/
def hangulTriples : Ranges := (List.range 399).map fun i => (0xAC01 + 28 * i, 0xAC1B + 28 * i)

/-- Marks and modifiers that belong to the cluster before them. -/
def clusterExtend : Ranges :=
  Ranges.union BinaryProperty.graphemeExtend (table BinaryProperty.emojiModifier)

def clusterControl : Ranges :=
  Ranges.difference
    (Ranges.union (union [lineSeparator, paragraphSeparator, control, format])
      (Ranges.intersection unassigned (table BinaryProperty.defaultIgnorable)))
    (Ranges.unions [table "A D 200C-200D", table BinaryProperty.prependedMark, clusterExtend])

def clusterPrepend : Ranges :=
  Ranges.union (table BinaryProperty.prependedMark)
    (table "D4E 111C2-111C3 113D1 1193F 11941 11A3A 11A84-11A89 11D46 11F02")

def spacingMarks : Ranges :=
  Ranges.difference (Ranges.union (table spacingMark) (table "E33 EB3"))
    (Ranges.union clusterExtend
      (table "102B-102C 1038 1062-1064 1067-106D 1083 1087-108C 108F 109A-109C 1A61 1A63-1A64
        AA7B AA7D 11720-11721"))

def cluster? : (value : String) → Option Ranges
  | "cr" => some (table "D")
  | "lf" => some (table "A")
  | "control" | "cn" => some clusterControl
  | "extend" | "ex" => some clusterExtend
  | "prepend" | "pp" => some clusterPrepend
  | "spacingmark" | "sm" => some spacingMarks
  | "regionalindicator" | "ri" => some regionalIndicator
  | "zwj" => some zeroWidthJoiner
  | "l" => some (table "1100-115F A960-A97C")
  | "v" => some (table "1160-11A7 D7B0-D7C6")
  | "t" => some (table "11A8-11FF D7CB-D7FB")
  | "lv" => some hangulPairs
  | "lvt" => some hangulTriples
  | _ => none

def extend : Ranges := Ranges.union BinaryProperty.graphemeExtend (table spacingMark)

def wordExtend : Ranges :=
  Ranges.difference (Ranges.union extend (table BinaryProperty.emojiModifier)) zeroWidthJoiner

def wordFormat : Ranges :=
  Ranges.difference (table format) (Ranges.union (table "200B-200D") BinaryProperty.graphemeExtend)

def katakana : Ranges :=
  Ranges.union (script "katakana") (table "3031-3035 309B-309C 30A0 30FC FF70")

def hebrewLetter : Ranges := Ranges.intersection (script "hebrew") (table otherLetter)

/-- Characters of scripts that mark no word boundaries. -/
def unspaced : String :=
  "E01-E3A E40-E4E E81-EDF 1000-103F 1050-108F 109A-109F 1780-17D3 17D7 17DC-17DD 1950-1974
  1980-19AB 19B0-19C9 19DA 19DE-19DF 1A20-1A5E 1A60-1A7C 1AA0-1AAD A9E0-A9EF A9FA-A9FE AA60-AAC2
  AADB-AADF 11700-1172B 1173A-1173B 1173F-11746"

def wordLetter : Ranges :=
  Ranges.difference
    (Ranges.union BinaryProperty.alphabetic
      (table "2C2-2C5 2D2-2D7 2DE-2DF 2E5-2EB 2ED 2EF-2FF 55A-55C 55E 58A 5F3 A708-A716 A720-A721
        A789-A78A AB5B"))
    (Ranges.unions [table BinaryProperty.ideographic, katakana, script "hiragana", hebrewLetter,
      wordExtend, table unspaced])

def word? : (value : String) → Option Ranges
  | "cr" => some (table "D")
  | "lf" => some (table "A")
  | "newline" | "nl" => some (table "B-C 85 2028-2029")
  | "extend" => some wordExtend
  | "format" | "fo" => some wordFormat
  | "regionalindicator" | "ri" => some regionalIndicator
  | "zwj" => some zeroWidthJoiner
  | "katakana" | "ka" => some katakana
  | "hebrewletter" | "hl" => some hebrewLetter
  | "aletter" | "le" => some wordLetter
  | "singlequote" | "sq" => some (table "27")
  | "doublequote" | "dq" => some (table "22")
  | "midnumlet" | "mb" => some (table "2E 2018-2019 2024 FE52 FF07 FF0E")
  | "midletter" | "ml" => some (table "3A B7 387 55F 5F4 2027 FE13 FE55 FF1A")
  | "midnum" | "mn" =>
    some (table "2C 3B 37E 589 60C-60D 66C 7F8 2044 FE10 FE14 FE50 FE54 FF0C FF1B")
  | "numeric" | "nu" => some (Ranges.union (table decimalNumber) (table "66B"))
  | "extendnumlet" | "ex" => some (Ranges.union (table connectorPunctuation) (table "202F"))
  | "wsegspace" => some (table "20 1680 2000-2006 2008-200A 205F 3000")
  | _ => none

def sentenceExtend : Ranges := Ranges.union extend zeroWidthJoiner

def fullStop : Ranges := table "2E 2024 FE52 FF0E"

/-- Georgian letters; they have case but do not show where sentences begin. -/
def georgianCapital : String := "1C90-1CBA 1CBD-1CBF"

def georgianSmall : String := "10D0-10FA 10FD-10FF"

def sentenceLower : Ranges :=
  Ranges.difference BinaryProperty.lowercase
    (Ranges.union BinaryProperty.graphemeExtend (table georgianSmall))

def sentenceUpper : Ranges :=
  Ranges.difference (Ranges.union BinaryProperty.uppercase (table titlecaseLetter))
    (table georgianCapital)

def sentenceLetter : Ranges :=
  Ranges.difference (Ranges.union BinaryProperty.alphabetic (table "5F3"))
    (Ranges.unions [sentenceLower, sentenceUpper, sentenceExtend])

def sentence? : (value : String) → Option Ranges
  | "cr" => some (table "D")
  | "lf" => some (table "A")
  | "sep" | "se" => some (table "85 2028-2029")
  | "sp" =>
    some (Ranges.difference (table BinaryProperty.whiteSpace) (table "A D 85 2028-2029"))
  | "extend" | "ex" => some sentenceExtend
  | "format" | "fo" =>
    some (Ranges.difference (table format)
      (Ranges.union (table "200C-200D") BinaryProperty.graphemeExtend))
  | "lower" | "lo" => some sentenceLower
  | "upper" | "up" => some sentenceUpper
  | "oletter" | "le" => some sentenceLetter
  | "numeric" | "nu" => some (Ranges.union (table decimalNumber) (table "66B-66C"))
  | "aterm" | "at" => some fullStop
  | "sterm" | "st" =>
    some (Ranges.difference (table BinaryProperty.sentenceTerminal) fullStop)
  | "scontinue" | "sc" =>
    some (table "2C-2D 3A-3B 37E 55D 60C-60D 7F8 1802 1808 2013-2014 3001 FE10-FE11 FE13-FE14
      FE31-FE32 FE50-FE51 FE54-FE55 FE58 FE63 FF0C-FF0D FF1A-FF1B FF64")
  | "close" | "cl" =>
    some (Ranges.union
      (union [openPunctuation, closePunctuation, initialPunctuation, finalPunctuation])
      (table "22 27 275B-2760 2E00-2E01 2E06-2E08 2E0B 1F676-1F678"))
  | _ => none

end Conform.Unicode.TextBoundary
