import StubLinker.Unicode.Property
import StubLinker.Unicode.Script

namespace StubLinker

open Category Property

/-- The characters that end lines, by the names that all breaks give them. -/
def CharSet.lineEnds : List (List String × CharSet) :=
  [(["cr"], CharSet.listed "D"), (["lf"], CharSet.listed "A")]

namespace ClusterBreak

/-- Marks with room of their own that are counted with no letter. -/
def unspaced : CharSet :=
  CharSet.listed
    "102B-102C 1038 1062-1064 1067-106D 1083 1087-108C 108F 109A-109C 1A61 1A63-1A64 AA7B AA7D
    11720-11721"

def extend : CharSet :=
  graphemeExtend.union emojiModifier

def prepend : CharSet :=
  prependedConcatenationMark.union (CharSet.listed
    "D4E 111C2-111C3 113D1 1193F 11941 11A3A 11A84-11A89 11D46 11F02")

def control : CharSet :=
  (unite [lineSeparator, paragraphSeparator, Category.control, format,
    unassigned.inter defaultIgnorable]).diff
    (unite [CharSet.listed "A D 200C-200D", prependedConcatenationMark, graphemeExtend])

/-- Marks with room of their own that are counted with a letter. -/
def spacing : CharSet :=
  ((spacingMark.diff graphemeExtend).union (CharSet.listed "E33 EB3")).diff unspaced

def syllables : CharSet :=
  CharSet.listed "AC00-D7A3"

/-- Syllables of Hangul without a last consonant, of which there is one in 28. -/
def openSyllables : CharSet :=
  CharSet.ofRanges ((List.range 399).map fun i => (0xAC00 + 28 * i, 0xAC00 + 28 * i))

def named : List (List String × CharSet) :=
  CharSet.lineEnds ++
    [(["zwj"], CharSet.listed "200D"), (["cn", "control"], control), (["ex", "extend"], extend),
      (["pp", "prepend"], prepend),
      (["sm", "spacingmark"], spacing), (["ri", "regionalindicator"], regionalIndicator),
      (["l"], CharSet.listed "1100-115F A960-A97C"),
      (["v"], CharSet.listed "1160-11A7 D7B0-D7C6 16D63 16D67-16D6A"),
      (["t"], CharSet.listed "11A8-11FF D7CB-D7FB"), (["lv"], openSyllables),
      (["lvt"], syllables.diff openSyllables)]

end ClusterBreak

namespace WordBreak

def katakana : CharSet :=
  (Script.withName "katakana").union (CharSet.listed "3031-3035 309B-309C 30A0 30FC FF70")

def hebrewLetter : CharSet :=
  (Script.withName "hebrew").inter otherLetter

def extend : CharSet :=
  unite [graphemeExtend, spacingMark, emojiModifier]

def numeric : CharSet :=
  unite [decimalNumber, CharSet.listed "66B", prependedConcatenationMark.diff (CharSet.listed "70F")]

def formats : CharSet :=
  format.diff (unite [CharSet.listed "200B-200D", prependedConcatenationMark, graphemeExtend])

def unspacedLetter : CharSet :=
  CharSet.listed
    "E01-E30 E32-E33 E40-E46 E81-E82 E84 E86-E8A E8C-EA3 EA5 EA7-EB0 EB2-EB3 EBD EC0-EC4 EC6
    EDC-EDF 1000-102A 103F 1050-1055 105A-105D 1061 1065-1066 106E-1070 1075-1081 108E 1780-17B3
    17D7 17DC 1950-196D 1970-1974 1980-19AB 19B0-19C9 1A20-1A54 1AA7 A9E0-A9E4 A9E6-A9EF
    A9FA-A9FE AA60-AA76 AA7A AA7E-AAAF AAB1 AAB5-AAB6 AAB9-AABD AAC0 AAC2 AADB-AADD 11700-1171A
    11740-11746"

def wordSign : CharSet :=
  CharSet.listed
    "2C2-2C5 2D2-2D7 2DE-2DF 2E5-2EB 2ED 2EF-2FF 55A-55C 55E 58A 5F3 70F A708-A716 A720-A721
    A789-A78A AB5B"

def letters : CharSet :=
  (alphabetic.diff (unite [ideographic, katakana, Script.withName "hiragana", extend, hebrewLetter,
    unspacedLetter])).union wordSign

def named : List (List String × CharSet) :=
  CharSet.lineEnds ++
    [(["zwj"], CharSet.listed "200D"), (["nl", "newline"], CharSet.listed "B-C 85 2028-2029"),
      (["extend"], extend),
      (["ri", "regionalindicator"], regionalIndicator), (["fo", "format"], formats),
      (["ka", "katakana"], katakana), (["hl", "hebrewletter"], hebrewLetter),
      (["le", "aletter"], letters), (["sq", "singlequote"], CharSet.listed "27"),
      (["dq", "doublequote"], CharSet.listed "22"),
      (["mb", "midnumlet"], CharSet.listed "2E 2018-2019 2024 FE52 FF07 FF0E"),
      (["ml", "midletter"], CharSet.listed "3A B7 387 55F 5F4 2027 FE13 FE55 FF1A"),
      (["mn", "midnum"], CharSet.listed
        "2C 3B 37E 589 60C-60D 66C 7F8 2044 FE10 FE14 FE50 FE54 FF0C FF1B"),
      (["nu", "numeric"], numeric),
      (["ex", "extendnumlet"], CharSet.listed "5F 202F 203F-2040 2054 FE33-FE34 FE4D-FE4F FF3F"),
      (["wsegspace"], CharSet.listed "20 1680 2000-2006 2008-200A 205F 3000")]

end WordBreak

namespace SentenceBreak

def extend : CharSet :=
  unite [graphemeExtend, spacingMark, CharSet.listed "200D"]

/-- Characters of the lower case; the letters of Georgian count as without case. -/
def lower : CharSet :=
  lowercase.diff (graphemeExtend.union (CharSet.listed "10D0-10FA 10FD-10FF"))

def upper : CharSet :=
  (titlecaseLetter.union uppercase).diff (CharSet.listed "1C90-1CBA 1CBD-1CBF")

def otherLetters : CharSet :=
  (alphabetic.union (CharSet.listed "5F3")).diff (unite [lower, upper, extend])

def numeric : CharSet :=
  unite [decimalNumber, CharSet.listed "66B-66C",
    prependedConcatenationMark.diff (CharSet.listed "70F")]

def points : CharSet :=
  CharSet.listed "2E 2024 FE52 FF0E"

def ends : CharSet :=
  sentenceTerminal.diff points

def closing : CharSet :=
  (unite [openPunctuation, closePunctuation, initialPunctuation, finalPunctuation,
    CharSet.listed "22 27 275B-2760 2E00-2E01 2E06-2E08 2E0B 1F676-1F678"]).diff (points.union ends)

def named : List (List String × CharSet) :=
  CharSet.lineEnds ++
    [(["se", "sep"], CharSet.listed "85 2028-2029"), (["ex", "extend"], extend),
      (["fo", "format"], format.diff (unite [CharSet.listed "200C-200D", numeric, graphemeExtend])),
      (["sp"], CharSet.listed "9 B-C 20 A0 1680 2000-200A 202F 205F 3000"), (["lo", "lower"], lower),
      (["up", "upper"], upper), (["le", "oletter"], otherLetters), (["nu", "numeric"], numeric),
      (["at", "aterm"], points), (["st", "sterm"], ends), (["cl", "close"], closing),
      (["sc", "scontinue"], CharSet.listed
        "2C-2D 3A-3B 37E 55D 60C-60D 7F8 1802 1808 2013-2014 3001 FE10-FE11 FE13-FE14 FE31-FE32
        FE50-FE51 FE54-FE55 FE58 FE63 FF0C-FF0D FF1A-FF1B FF64")]

end SentenceBreak

end StubLinker
