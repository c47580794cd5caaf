import Faultline.Pattern.Property

/-!
# Breaks in a text

The parts that characters play where a text is divided into graphemes, words and sentences: each
character has at most one part in each of the three divisions.  They follow from the other
properties but for the few characters listed.
-/

namespace Faultline.Pattern.Property

def joiner : CharSet := .ofPoints [0x200D]

/-- The characters of tags, which extend the character before. -/
def tags : CharSet := ⟨[(0xE0020, 0xE007F)]⟩

/-! ### Graphemes -/

/-- The code points of the syllables of Hangul that have no final consonant. -/
def openSyllables : List Nat :=
  (List.range 399).map fun k => 0xAC00 + 28 * k

def graphemeControl : CharSet :=
  ((ofCategories ["zl", "zp", "cc", "cf"]).union (unassigned.inter defaultIgnorable)).diff
    (.unionAll [.ofPoints [0x0A, 0x0D, 0x200C, 0x200D], ofListed "pcm", tags])

def graphemeExtender : CharSet :=
  (graphemeExtend.union (ofListed "emod")).diff joiner

def spacingMark : CharSet :=
  ((category "mc").diff (.union graphemeExtend (read
    ["102b-102c 1038 1062-1064 1067-106d 1083 1087-108c 108f 109a-109c 1a61 1a63-1a64 aa7b aa7d",
     "11720-11721"]))).union (.ofPoints [0xE33, 0xEB3])

/-- The characters by the part that they play in graphemes. -/
def graphemeBreak? (name : String) : Option CharSet :=
  match name with
  | "cn" | "control" => some graphemeControl
  | "cr" => some (.single '\r')
  | "ex" | "extend" => some graphemeExtender
  | "l" => some (read ["1100-115f a960-a97c"])
  | "lf" => some (.single '\n')
  | "lv" => some (.ofPoints openSyllables)
  | "lvt" => some (.ofRanges (openSyllables.map fun n => (n + 1, n + 27)))
  | "pp" | "prepend" =>
    some ((ofListed "pcm").union (read
      ["d4e 111c2-111c3 113d1 1193f 11941 11a3a 11a84-11a89 11d46 11f02"]))
  | "ri" | "regionalindicator" => some (ofListed "ri")
  | "sm" | "spacingmark" => some spacingMark
  | "t" => some (read ["11a8-11ff d7cb-d7fb"])
  | "v" => some (read ["1160-11a7 d7b0-d7c6 16d63 16d67-16d6a"])
  | "zwj" => some joiner
  | _ => none

/-! ### Words -/

def wordExtender : CharSet :=
  (CharSet.unionAll [graphemeExtend, category "mc", ofListed "emod"]).diff joiner

def wordFormat : CharSet :=
  (category "cf").diff (.unionAll [⟨[(0x200B, 0x200D)]⟩, ofListed "pcm", tags])

def wordKatakana : CharSet :=
  (script "kana").union (read ["3031-3035 309b-309c 30a0 30fc ff70"])

def hebrewLetter : CharSet := (script "hebr").inter (category "lo")

/-- Scripts that are written without spaces between words. -/
def unspaced : CharSet :=
  .unionAll (["hira", "thai", "laoo", "mymr", "khmr", "lana", "tale", "talu", "tavt", "ahom"].map
    script)

def wordLetter : CharSet :=
  (alphabetic.diff (.unionAll [ofListed "ideo", wordKatakana, hebrewLetter, wordExtender,
    unspaced])).union (read
    ["2c2-2c5 2d2-2d7 2de-2df 2e5-2eb 2ed 2ef-2ff 55a-55c 55e 58a 5f3 70f a708-a716 a720-a721",
     "a789-a78a ab5b"])

def wordNumeric : CharSet :=
  (category "nd").union (read ["600-605 66b 6dd 890-891 8e2 19da 110bd 110cd"])

/-- The characters by the part that they play in words. -/
def wordBreak? (name : String) : Option CharSet :=
  match name with
  | "le" | "aletter" => some wordLetter
  | "cr" => some (.single '\r')
  | "dq" | "doublequote" => some (.single '"')
  | "extend" => some wordExtender
  | "ex" | "extendnumlet" => some ((category "pc").union (.ofPoints [0x202F]))
  | "fo" | "format" => some wordFormat
  | "hl" | "hebrewletter" => some hebrewLetter
  | "ka" | "katakana" => some wordKatakana
  | "lf" => some (.single '\n')
  | "ml" | "midletter" => some midLetter
  | "mn" | "midnum" => some (read ["2c 3b 37e 589 60c-60d 66c 7f8 2044 fe50 fe54 ff0c ff1b"])
  | "mb" | "midnumlet" => some midNumLet
  | "nl" | "newline" => some (read ["b-c 85 2028-2029"])
  | "nu" | "numeric" => some wordNumeric
  | "ri" | "regionalindicator" => some (ofListed "ri")
  | "sq" | "singlequote" => some (.single '\'')
  | "wsegspace" => some ((category "zs").diff (.ofPoints [0xA0, 0x2007, 0x202F]))
  | "zwj" => some joiner
  | _ => none

/-! ### Sentences -/

def fullStop : CharSet := .ofPoints [0x2E, 0x2024, 0xFE52, 0xFF0E]

def sentenceExtender : CharSet :=
  .unionAll [graphemeExtend, category "mc", joiner]

/-- The letters of Georgian have capital letters, but are used without them. -/
def sentenceLower : CharSet :=
  (lowercase.diff sentenceExtender).diff ⟨[(0x10D0, 0x10FA), (0x10FD, 0x10FF)]⟩

def sentenceUpper : CharSet :=
  (uppercase.union (category "lt")).diff ⟨[(0x1C90, 0x1CBA), (0x1CBD, 0x1CBF)]⟩

def sentenceLetter : CharSet :=
  (alphabetic.diff (.unionAll [sentenceLower, sentenceUpper, sentenceExtender])).union
    (.ofPoints [0x5F3])

/-- The characters by the part that they play in sentences. -/
def sentenceBreak? (name : String) : Option CharSet :=
  match name with
  | "at" | "aterm" => some fullStop
  | "cr" => some (.single '\r')
  | "cl" | "close" =>
    some ((ofCategories ["ps", "pe", "pi", "pf"]).union (read
      ["22 27 275b-2760 2e00-2e01 2e06-2e08 2e0b 1f676-1f678"]))
  | "ex" | "extend" => some sentenceExtender
  | "fo" | "format" => some (wordFormat.union (.ofPoints [0x70F, 0x200B]))
  | "lf" => some (.single '\n')
  | "lo" | "lower" => some sentenceLower
  | "nu" | "numeric" => some (wordNumeric.union (.ofPoints [0x66C]))
  | "le" | "oletter" => some sentenceLetter
  | "sc" | "scontinue" =>
    some (read
      ["2c-2d 3a-3b 37e 55d 60c-60d 7f8 1802 1808 2013-2014 3001 fe10-fe11 fe13-fe14 fe31-fe32",
       "fe50-fe51 fe54-fe55 fe58 fe63 ff0c-ff0d ff1a-ff1b ff64"])
  | "st" | "sterm" => some ((ofListed "sterm").diff fullStop)
  | "se" | "sep" => some (.ofPoints [0x85, 0x2028, 0x2029])
  | "sp" => some (blank.diff (.ofPoints [0x0A, 0x0D, 0x85, 0x2028, 0x2029]))
  | "up" | "upper" => some sentenceUpper
  | _ => none

end Faultline.Pattern.Property
