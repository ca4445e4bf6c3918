import Cascade.Unicode.Property
import Cascade.Unicode.Script

/-!
# Breaks between characters, words and sentences

The three properties that text is cut by: into what a reader takes for one character, into words,
and into sentences. Each value of a property is a set of code points, and the sets of one property
are disjoint. Code points without a value of their own have the value Other, which is no set here.

§1 characters; §2 words; §3 sentences.
-/

namespace Cascade.Unicode

/-! ## §1 Characters -/

/-- **What a code point does within one perceived character.** -/
inductive GraphemeBreak where
  | carriageReturn | lineFeed | control | extend | joiner | regionalIndicator | prepend
  | spacingMark | leading | vowel | trailing | syllable | closedSyllable
  deriving DecidableEq, Repr

namespace GraphemeBreak

/-- The names of each value, in small letters without separators. -/
def names : List (GraphemeBreak × List String) :=
  [(.carriageReturn, ["cr"]), (.lineFeed, ["lf"]), (.control, ["cn", "control"]),
    (.extend, ["ex", "extend"]), (.joiner, ["zwj"]),
    (.regionalIndicator, ["ri", "regionalindicator"]), (.prepend, ["pp", "prepend"]),
    (.spacingMark, ["sm", "spacingmark"]), (.leading, ["l"]), (.vowel, ["v"]), (.trailing, ["t"]),
    (.syllable, ["lv"]), (.closedSyllable, ["lvt"])]

/-- The value of a name. -/
def named? (name : String) : Option GraphemeBreak :=
  (names.find? fun entry => entry.2.contains name).map (·.1)

/-- The Hangul syllables without a closing consonant: every 28th of the syllables. -/
def openSyllables : CodeSet :=
  .ofRanges ((List.range 399).map fun i => (0xAC00 + 28 * i, 0xAC00 + 28 * i))

/-- What extends the character before it. -/
def extenders : CodeSet :=
  (graphemeExtenders.union (CodeSet.ofTable emojiModifierTable)).diff (.single 0x200D)

/-- The spacing marks that stand beside the character before them and do not join it. -/
def looseMarkTable : List String :=
  ["102B-102C 1038 1062-1064 1067-106D 1083 1087-108C 108F 109A-109C 1A61 1A63-1A64 AA7B AA7D",
   "11720-11721"]

/-- The code points of a value. -/
def members : GraphemeBreak → CodeSet
  | .carriageReturn => .single 0xD
  | .lineFeed => .single 0xA
  | .control =>
    ((categoriesIn ["Zl", "Zp", "Cc", "Cf"]).union
      ((categoriesIn ["Cn"]).inter Property.defaultIgnorable.members)).diff
      (extenders.union (CodeSet.ofTable (prependedMarkTable ++ ["A D 200C-200D"])))
  | .extend => extenders
  | .joiner => .single 0x200D
  | .regionalIndicator => CodeSet.ofTable regionalIndicatorTable
  | .prepend =>
    CodeSet.ofTable (prependedMarkTable ++
      ["D4E 111C2-111C3 113D1 1193F 11941 11A3A 11A84-11A89 11D46 11F02"])
  | .spacingMark =>
    ((categoriesIn ["Mc"]).diff (extenders.union (CodeSet.ofTable looseMarkTable))).union
      (CodeSet.ofTable ["E33 EB3"])
  | .leading => CodeSet.ofTable ["1100-115F A960-A97C"]
  | .vowel => CodeSet.ofTable ["1160-11A7 D7B0-D7C6 16D63 16D67-16D6A"]
  | .trailing => CodeSet.ofTable ["11A8-11FF D7CB-D7FB"]
  | .syllable => openSyllables
  | .closedSyllable => (CodeSet.range 0xAC00 0xD7A3).diff openSyllables

end GraphemeBreak

/-! ## §2 Words -/

/-- **What a code point does within a word.** -/
inductive WordBreak where
  | carriageReturn | lineFeed | newline | extend | joiner | format | regionalIndicator | katakana
  | hebrewLetter | letter | singleQuote | doubleQuote | midNumLet | midLetter | midNum | numeric
  | extendNumLet | space
  deriving DecidableEq, Repr

namespace WordBreak

/-- The names of each value, in small letters without separators. -/
def names : List (WordBreak × List String) :=
  [(.carriageReturn, ["cr"]), (.lineFeed, ["lf"]), (.newline, ["nl", "newline"]),
    (.extend, ["extend"]), (.joiner, ["zwj"]), (.format, ["fo", "format"]),
    (.regionalIndicator, ["ri", "regionalindicator"]), (.katakana, ["ka", "katakana"]),
    (.hebrewLetter, ["hl", "hebrewletter"]), (.letter, ["le", "aletter"]),
    (.singleQuote, ["sq", "singlequote"]), (.doubleQuote, ["dq", "doublequote"]),
    (.midNumLet, ["mb", "midnumlet"]), (.midLetter, ["ml", "midletter"]),
    (.midNum, ["mn", "midnum"]), (.numeric, ["nu", "numeric"]),
    (.extendNumLet, ["ex", "extendnumlet"]), (.space, ["wsegspace"])]

/-- The value of a name. -/
def named? (name : String) : Option WordBreak :=
  (names.find? fun entry => entry.2.contains name).map (·.1)

/-- What extends the part of a word before it. -/
def extenders : CodeSet :=
  (GraphemeBreak.extenders.union (categoriesIn ["Mc"])).diff (.single 0x200D)

/-- The marks written before a number that count as a part of it. -/
def numberMarks : CodeSet := (CodeSet.ofTable prependedMarkTable).diff (.single 0x70F)

/-- The characters of Katakana words: the script and what it shares. -/
def katakanas : CodeSet :=
  ((script? "kana").getD .empty).union
    (CodeSet.ofTable ["3031-3035 309B-309C 30A0 30FC FF70"])

/-- The letters of Hebrew. -/
def hebrewLetters : CodeSet := ((script? "hebr").getD .empty).inter (categoriesIn ["Lo"])

/-- The letters of scripts that are written without spaces between words. -/
def unspacedTable : List String :=
  ["E01-E30 E32-E33 E40-E46 E81-E82 E84 E86-E8A E8C-EA3 EA5 EA7-EB0 EB2-EB3 EBD EC0-EC4 EC6",
   "EDC-EDF 1000-102A 103F 1050-1055 105A-105D 1061 1065-1066 106E-1070 1075-1081 108E 1780-17B3",
   "17D7 17DC 1950-196D 1970-1974 1980-19AB 19B0-19C9 1A20-1A54 1AA7 A9E0-A9E4 A9E6-A9EF",
   "A9FA-A9FE AA60-AA76 AA7A AA7E-AAAF AAB1 AAB5-AAB6 AAB9-AABD AAC0 AAC2 AADB-AADD 11700-1171A",
   "11740-11746"]

/-- What counts as a letter of a word without being alphabetic. -/
def letterLikeTable : List String :=
  ["2C2-2C5 2D2-2D7 2DE-2DF 2E5-2EB 2ED 2EF-2FF 55A-55C 55E 58A 5F3 70F A708-A716 A720-A721",
   "A789-A78A AB5B"]

/-- The code points of a value. -/
def members : WordBreak → CodeSet
  | .carriageReturn => .single 0xD
  | .lineFeed => .single 0xA
  | .newline => CodeSet.ofTable ["B-C 85 2028-2029"]
  | .extend => extenders
  | .joiner => .single 0x200D
  | .format =>
    (categoriesIn ["Cf"]).diff
      (extenders.union (CodeSet.ofTable (prependedMarkTable ++ ["200B-200D"])))
  | .regionalIndicator => CodeSet.ofTable regionalIndicatorTable
  | .katakana => katakanas
  | .hebrewLetter => hebrewLetters
  | .letter =>
    (alphabetics.diff (CodeSet.unions
      [CodeSet.ofTable (ideographicTable ++ unspacedTable), katakanas, hebrewLetters,
        (script? "hira").getD .empty, extenders])).union (CodeSet.ofTable letterLikeTable)
  | .singleQuote => CodeSet.ofTable singleQuoteTable
  | .doubleQuote => .single 0x22
  | .midNumLet => CodeSet.ofTable midNumLetTable
  | .midLetter => CodeSet.ofTable midLetterTable
  | .midNum => CodeSet.ofTable ["2C 3B 37E 589 60C-60D 66C 7F8 2044 FE10 FE14 FE50 FE54 FF0C FF1B"]
  | .numeric => (decimalDigits.union (.single 0x66B)).union numberMarks
  | .extendNumLet => CodeSet.ofTable ["5F 202F 203F-2040 2054 FE33-FE34 FE4D-FE4F FF3F"]
  | .space => CodeSet.ofTable ["20 1680 2000-2006 2008-200A 205F 3000"]

end WordBreak

/-! ## §3 Sentences -/

/-- **What a code point does within a sentence.** -/
inductive SentenceBreak where
  | carriageReturn | lineFeed | separator | extend | format | space | lower | upper | otherLetter
  | numeric | fullStop | continues | terminator | closing
  deriving DecidableEq, Repr

namespace SentenceBreak

/-- The names of each value, in small letters without separators. -/
def names : List (SentenceBreak × List String) :=
  [(.carriageReturn, ["cr"]), (.lineFeed, ["lf"]), (.separator, ["se", "sep"]),
    (.extend, ["ex", "extend"]), (.format, ["fo", "format"]), (.space, ["sp"]),
    (.lower, ["lo", "lower"]), (.upper, ["up", "upper"]), (.otherLetter, ["le", "oletter"]),
    (.numeric, ["nu", "numeric"]), (.fullStop, ["at", "aterm"]), (.continues, ["sc", "scontinue"]),
    (.terminator, ["st", "sterm"]), (.closing, ["cl", "close"])]

/-- The value of a name. -/
def named? (name : String) : Option SentenceBreak :=
  (names.find? fun entry => entry.2.contains name).map (·.1)

/-- What extends the letter before it. -/
def extenders : CodeSet := (graphemeExtenders.union (categoriesIn ["Mc"])).union (.single 0x200D)

/-- The small letters, without those of Georgian, whose sentences begin with no capital. -/
def lowers : CodeSet :=
  (Property.lowercase.members.diff graphemeExtenders).diff
    (CodeSet.ofTable ["10D0-10FA 10FD-10FF"])

/-- The capital and title letters, again without those of Georgian. -/
def uppers : CodeSet :=
  (Property.uppercase.members.union (categoriesIn ["Lt"])).diff
    (CodeSet.ofTable ["1C90-1CBA 1CBD-1CBF"])

/-- The points that may end a sentence and may not. -/
def fullStops : CodeSet := CodeSet.ofTable ["2E 2024 FE52 FF0E"]

/-- The code points of a value. -/
def members : SentenceBreak → CodeSet
  | .carriageReturn => .single 0xD
  | .lineFeed => .single 0xA
  | .separator => CodeSet.ofTable ["85 2028-2029"]
  | .extend => extenders
  | .format =>
    (categoriesIn ["Cf"]).diff
      ((extenders.union WordBreak.numberMarks).union (.single 0x200C))
  | .space => CodeSet.ofTable ["9 B-C 20 A0 1680 2000-200A 202F 205F 3000"]
  | .lower => lowers
  | .upper => uppers
  | .otherLetter =>
    (alphabetics.union (.single 0x5F3)).diff (CodeSet.unions [lowers, uppers, extenders])
  | .numeric =>
    (decimalDigits.union (CodeSet.range 0x66B 0x66C)).union WordBreak.numberMarks
  | .fullStop => fullStops
  | .continues =>
    CodeSet.ofTable
      ["2C-2D 3A-3B 37E 55D 60C-60D 7F8 1802 1808 2013-2014 3001 FE10-FE11 FE13-FE14 FE31-FE32",
       "FE50-FE51 FE54-FE55 FE58 FE63 FF0C-FF0D FF1A-FF1B FF64"]
  | .terminator => (CodeSet.ofTable sentenceTerminalTable).diff fullStops
  | .closing =>
    (categoriesIn ["Ps", "Pe", "Pi", "Pf"]).union
      (CodeSet.ofTable ["22 27 275B-2760 2E00-2E01 2E06-2E08 2E0B 1F676-1F678"])

end SentenceBreak

end Cascade.Unicode
