import Cascade.Unicode.Category

/-!
# Letters, numbers, blanks and words

The four character classes that the rule language and the trigger patterns are stated in. The
alphabetic characters are the letters, the letter numbers, and the marks and symbols that the
standard counts with them; a word is made of these, of marks, of decimal digits, of connector
punctuation and of the two joiners.

Names of the rule language, and of groups in patterns, are written with the letters and numbers of
version 17 of the standard; the classes of patterns are those of version 16. Hence the two small
tables of what the later version added.

§1 the tables; §2 the four classes as sets; §3 the tests on characters. Each test decides an ASCII
character by itself, so facts about ASCII text never look into a table.
-/

namespace Cascade.Unicode

/-! ## §1 The tables -/

/-- The alphabetic characters that are neither letters nor letter numbers by category. -/
def otherAlphabeticTable : List String :=
  ["345 363-36F 5B0-5BD 5BF 5C1-5C2 5C4-5C5 5C7 610-61A 64B-657 659-65F 670 6D6-6DC 6E1-6E4",
   "6E7-6E8 6ED 711 730-73F 7A6-7B0 816-817 81B-823 825-827 829-82C 897 8D4-8DF 8E3-8E9 8F0-903",
   "93A-93B 93E-94C 94E-94F 955-957 962-963 981-983 9BE-9C4 9C7-9C8 9CB-9CC 9D7 9E2-9E3 A01-A03",
   "A3E-A42 A47-A48 A4B-A4C A51 A70-A71 A75 A81-A83 ABE-AC5 AC7-AC9 ACB-ACC AE2-AE3 AFA-AFC",
   "B01-B03 B3E-B44 B47-B48 B4B-B4C B56-B57 B62-B63 B82 BBE-BC2 BC6-BC8 BCA-BCC BD7 C00-C04",
   "C3E-C44 C46-C48 C4A-C4C C55-C56 C62-C63 C81-C83 CBE-CC4 CC6-CC8 CCA-CCC CD5-CD6 CE2-CE3 CF3",
   "D00-D03 D3E-D44 D46-D48 D4A-D4C D57 D62-D63 D81-D83 DCF-DD4 DD6 DD8-DDF DF2-DF3 E31 E34-E3A",
   "E4D EB1 EB4-EB9 EBB-EBC ECD F71-F83 F8D-F97 F99-FBC 102B-1036 1038 103B-103E 1056-1059",
   "105E-1060 1062-1064 1067-106D 1071-1074 1082-108D 108F 109A-109D 1712-1713 1732-1733",
   "1752-1753 1772-1773 17B6-17C8 1885-1886 18A9 1920-192B 1930-1938 1A17-1A1B 1A55-1A5E",
   "1A61-1A74 1ABF-1AC0 1ACC-1ACE 1B00-1B04 1B35-1B43 1B80-1B82 1BA1-1BA9 1BAC-1BAD 1BE7-1BF1",
   "1C24-1C36 1DD3-1DF4 24B6-24E9 2DE0-2DFF A674-A67B A69E-A69F A802 A80B A823-A827 A880-A881",
   "A8B4-A8C3 A8C5 A8FF A926-A92A A947-A952 A980-A983 A9B4-A9BF A9E5 AA29-AA36 AA43 AA4C-AA4D",
   "AA7B-AA7D AAB0 AAB2-AAB4 AAB7-AAB8 AABE AAEB-AAEF AAF5 ABE3-ABEA FB1E 10376-1037A 10A01-10A03",
   "10A05-10A06 10A0C-10A0F 10D24-10D27 10D69 10EAB-10EAC 10EFC 11000-11002 11038-11045",
   "11073-11074 11080-11082 110B0-110B8 110C2 11100-11102 11127-11132 11145-11146 11180-11182",
   "111B3-111BF 111CE-111CF 1122C-11234 11237 1123E 11241 112DF-112E8 11300-11303 1133E-11344",
   "11347-11348 1134B-1134C 11357 11362-11363 113B8-113C0 113C2 113C5 113C7-113CA 113CC-113CD",
   "11435-11441 11443-11445 114B0-114C1 115AF-115B5 115B8-115BE 115DC-115DD 11630-1163E 11640",
   "116AB-116B5 1171D-1172A 1182C-11838 11930-11935 11937-11938 1193B-1193C 11940 11942",
   "119D1-119D7 119DA-119DF 119E4 11A01-11A0A 11A35-11A39 11A3B-11A3E 11A51-11A5B 11A8A-11A97",
   "11C2F-11C36 11C38-11C3E 11C92-11CA7 11CA9-11CB6 11D31-11D36 11D3A 11D3C-11D3D 11D3F-11D41",
   "11D43 11D47 11D8A-11D8E 11D90-11D91 11D93-11D96 11EF3-11EF6 11F00-11F01 11F03 11F34-11F3A",
   "11F3E-11F40 1611E-1612E 16F4F 16F51-16F87 16F8F-16F92 16FF0-16FF1 1BC9E 1E000-1E006",
   "1E008-1E018 1E01B-1E021 1E023-1E024 1E026-1E02A 1E08F 1E947 1F130-1F149 1F150-1F169",
   "1F170-1F189"]

/-- The alphabetic characters that version 17 added. -/
def laterAlphabeticTable : List String :=
  ["88F C5C CDC A7CE-A7CF A7D2 A7D4 A7F1 10940-10959 10EC5-10EC7 10EFA-10EFB 11B60-11B67",
   "11DB0-11DDB 16EA0-16EB8 16EBB-16ED3 16FF2-16FF6 187F8-187FF 18D09-18D1E 18D80-18DF2",
   "1E6C0-1E6DE 1E6E0-1E6F5 1E6FE-1E6FF 2B73A-2B73F 2CEA2-2CEAD 323B0-33479"]

/-- The numeric characters that version 17 added. -/
def laterNumericTable : List String := ["11DE0-11DE9 16FF4-16FF6"]

/-! ## §2 The classes as sets -/

/-- The alphabetic characters. -/
def alphabetics : CodeSet :=
  (categoriesIn ["Lu", "Ll", "Lt", "Lm", "Lo", "Nl"]).union (CodeSet.ofTable otherAlphabeticTable)

/-- The alphabetic characters that names may be written with. -/
def nameLetters : CodeSet := alphabetics.union (CodeSet.ofTable laterAlphabeticTable)

/-- The numeric characters that names may be written with: decimal digits, letter numbers such as
Roman numerals, and the other numbers such as fractions and superscripts. -/
def nameNumbers : CodeSet :=
  (categoriesIn ["Nd", "Nl", "No"]).union (CodeSet.ofTable laterNumericTable)

/-- The decimal digits. -/
def decimalDigits : CodeSet := categoriesIn ["Nd"]

/-- The characters a word is made of. -/
def wordCharacters : CodeSet :=
  (alphabetics.union (categoriesIn ["Mn", "Mc", "Me", "Pc", "Nd"])).union
    (CodeSet.range 0x200C 0x200D)

/-- The blank characters: the controls tab to carriage return, the space, and the other spaces and
line breaks of the standard. -/
def blanks : CodeSet :=
  CodeSet.ofTable ["9-D 20 85 A0 1680 2000-200A 2028-2029 202F 205F 3000"]

/-! ## §3 Tests on characters -/

/-- An ASCII letter. -/
def isAsciiLetter (c : Char) : Bool := ('a' ≤ c && c ≤ 'z') || ('A' ≤ c && c ≤ 'Z')

/-- An ASCII digit. -/
def isAsciiDigit (c : Char) : Bool := '0' ≤ c && c ≤ '9'

/-- **Alphabetic**: a letter of any script. -/
def isAlphabetic (c : Char) : Bool :=
  if c.toNat < 128 then isAsciiLetter c else nameLetters.contains c.toNat

/-- **Numeric**: a digit or another number character of any script. -/
def isNumeric (c : Char) : Bool :=
  if c.toNat < 128 then isAsciiDigit c else nameNumbers.contains c.toNat

/-- **Alphanumeric**: alphabetic or numeric. -/
def isAlphanumeric (c : Char) : Bool := isAlphabetic c || isNumeric c

/-- **Blank**: a character that separates tokens and is trimmed off lines. -/
def isBlank (c : Char) : Bool :=
  if c.toNat < 128 then c == ' ' || ('\t' ≤ c && c ≤ '\r') else blanks.contains c.toNat

/-- **Word character**: what a word boundary of a trigger pattern looks at. -/
def isWordCharacter (c : Char) : Bool :=
  if c.toNat < 128 then isAsciiLetter c || isAsciiDigit c || c == '_'
  else wordCharacters.contains c.toNat

/-- A digit is never a letter: in ASCII the two classes are apart. -/
theorem isAlphabetic_eq_false_of_isAsciiDigit {c : Char} (h : isAsciiDigit c = true) :
    isAlphabetic c = false := by
  simp only [isAsciiDigit, Bool.and_eq_true, decide_eq_true_eq, Char.le_def, UInt32.le_iff_toNat_le]
    at h
  have h0 : '0'.val.toNat = 48 := rfl
  have h9 : '9'.val.toNat = 57 := rfl
  have ha : 'a'.val.toNat = 97 := rfl
  have hA : 'A'.val.toNat = 65 := rfl
  have hlt : c.toNat < 128 := by simp only [Char.toNat]; omega
  simp only [isAlphabetic, hlt, ↓reduceIte, isAsciiLetter, Bool.or_eq_false_iff,
    Bool.and_eq_false_iff, decide_eq_false_iff_not, Char.le_def, UInt32.le_iff_toNat_le]
  omega

end Cascade.Unicode
