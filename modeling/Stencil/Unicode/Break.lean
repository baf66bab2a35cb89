import Stencil.Unicode.Listed
import Stencil.Unicode.Property
import Stencil.Unicode.Repertoire
import Stencil.Unicode.Script

/-!
# Break classes

The classes by which text is cut into grapheme clusters, words and sentences. A class is a short list
of code points or is derived from the general category and other properties, and the first rule that
fits a character decides. Characters that no rule fits, and those that patterns do not know, are in
no class.
-/

namespace Stencil.Unicode

/-! ### Sets that the rules share -/

def emojiModifierRanges : List Range := ranges ["1f3fb-1f3ff"]

def regionalRanges : List Range := ranges ["1f1e6-1f1ff"]

def subtendingRanges : List Range := (listed? "prependedconcatenationmark").getD []

def ignorableRanges : List Range := (listed? "defaultignorablecodepoint").getD []

def ideographicRanges : List Range := (listed? "ideographic").getD []

def sentenceEndRanges : List Range := (listed? "sentenceterminal").getD []

def complexContextRanges : List Range := ranges
  ["e01-e3a e40-e4e e81-e82 e84 e86-e8a e8c-ea3 ea5 ea7-ebd ec0-ec4 ec6 ec8-ece edc-edf ",
   "1000-103f 1050-108f 109a-109f 1780-17d3 17d7 17dc-17dd 1950-196d 1970-1974 1980-19ab ",
   "19b0-19c9 19da 19de-19df 1a20-1a5e 1a60-1a7c 1aa0-1aad a9e0-a9ef a9fa-a9fe aa60-aac2 ",
   "aadb-aadf 11700-1171a 1171d-1172b 1173a-1173b 1173f-11746"]

def plainQuoteRanges : List Range := ranges
  ["22 27 275b-2760 2e00-2e01 2e06-2e08 2e0b 1f676-1f678"]

/-- Decimal digits, the separators in Arabic numbers, and what subtends digits. -/
def isDigitLike (c : Char) : Bool :=
  Category.of c == .decimalNumber || c.toNat == 0x66b || c.toNat == 0x66c
    || (inRanges subtendingRanges c && c.toNat != 0x70f)

/-- Marks of every kind that extend the character before them. -/
def isExtending (c : Char) : Bool :=
  isGraphemeExtend c || Category.of c == .spacingMark

/-- The first class of a table whose range list holds the character. -/
def firstClass? {α : Type} (table : List (α × List Range)) (c : Char) : Option α :=
  (table.find? fun (_, rs) => inRanges rs c).map (·.1)

/-! ### Grapheme clusters -/

inductive GraphemeBreak where
  | carriageReturn
  | lineFeed
  | control
  | extend
  | joiner
  | regional
  | prepended
  | spacingMark
  | leading
  | vowel
  | trailing
  | leadingVowel
  | leadingVowelTrailing
  | other
  deriving DecidableEq, Repr

namespace GraphemeBreak

/-- Letters that are drawn before or over the letter that follows. -/
def prependedLetterRanges : List Range := ranges
  ["d4e 111c2-111c3 113d1 1193f 11941 11a3a 11a84-11a89 11d46 11f02"]

/-- Spacing marks at which a cluster may end. -/
def separateMarkRanges : List Range := ranges
  ["102b-102c 1038 1062-1064 1067-106d 1083 1087-108c 108f 109a-109c 1a61 1a63-1a64 aa7b aa7d ",
   "11720-11721"]

/-- Letters that join the letter before them as spacing marks do. -/
def joiningLetterRanges : List Range := ranges ["e33 eb3"]

/-- Hangul letters by their place in a syllable, and vowels that combine in the same way. -/
def letterTable : List (GraphemeBreak × List Range) :=
  [(.leading, ranges ["1100-115f a960-a97c"]),
   (.vowel, ranges ["1160-11a7 d7b0-d7c6 16d63 16d67-16d6a"]),
   (.trailing, ranges ["11a8-11ff d7cb-d7fb"])]

/-- Controls, format characters, separators of lines, and ignorable code points that are unassigned. -/
def isControl (c : Char) : Bool :=
  match Category.of c with
  | .lineSeparator | .paragraphSeparator | .control | .format => true
  | .unassigned => inRanges ignorableRanges c
  | _ => false

/-- Marks that take room of their own and stay with the letter before them. -/
def isSpacingMark (c : Char) : Bool :=
  (Category.of c == .spacingMark && !inRanges separateMarkRanges c) || inRanges joiningLetterRanges c

/-- The class of a letter: every twenty-eighth Hangul syllable has no trailing letter. -/
def ofLetter (c : Char) : GraphemeBreak :=
  if 0xac00 ≤ c.toNat ∧ c.toNat ≤ 0xd7a3 then
    if (c.toNat - 0xac00) % 28 = 0 then .leadingVowel else .leadingVowelTrailing
  else (firstClass? letterTable c).getD .other

def of (c : Char) : GraphemeBreak :=
  if isLater c then .other
  else if c = '\r' then .carriageReturn
  else if c = '\n' then .lineFeed
  else if c.toNat = 0x200d then .joiner
  else if isGraphemeExtend c || inRanges emojiModifierRanges c then .extend
  else if inRanges regionalRanges c then .regional
  else if inRanges subtendingRanges c || inRanges prependedLetterRanges c then .prepended
  else if isControl c then .control
  else if isSpacingMark c then .spacingMark
  else ofLetter c

def names : List (List String × GraphemeBreak) :=
  [(["cn", "control"], .control), (["cr"], .carriageReturn), (["ex", "extend"], .extend),
   (["l"], .leading), (["lf"], .lineFeed), (["lv"], .leadingVowel),
   (["lvt"], .leadingVowelTrailing), (["pp", "prepend"], .prepended),
   (["ri", "regionalindicator"], .regional), (["sm", "spacingmark"], .spacingMark),
   (["t"], .trailing), (["v"], .vowel), (["zwj"], .joiner)]

end GraphemeBreak

/-! ### Words -/

inductive WordBreak where
  | carriageReturn
  | lineFeed
  | newline
  | extend
  | joiner
  | format
  | regional
  | katakana
  | hebrewLetter
  | letter
  | singleQuote
  | doubleQuote
  | midNumberLetter
  | midLetter
  | midNumber
  | numeric
  | extendNumberLetter
  | segmentSpace
  | other
  deriving DecidableEq, Repr

namespace WordBreak

def table : List (WordBreak × List Range) :=
  [(.carriageReturn, ranges ["d"]),
   (.lineFeed, ranges ["a"]),
   (.newline, ranges ["b-c 85 2028-2029"]),
   (.doubleQuote, ranges ["22"]),
   (.singleQuote, ranges ["27"]),
   (.hebrewLetter, ranges
     ["5d0-5ea 5ef-5f2 fb1d fb1f-fb28 fb2a-fb36 fb38-fb3c fb3e fb40-fb41 fb43-fb44 fb46-fb4f"]),
   (.extendNumberLetter, ranges ["5f 202f 203f-2040 2054 fe33-fe34 fe4d-fe4f ff3f"]),
   (.katakana, ranges
     ["3031-3035 309b-309c 30a0-30fa 30fc-30ff 31f0-31ff 32d0-32fe 3300-3357 ff66-ff9d ",
      "1aff0-1aff3 1aff5-1affb 1affd-1affe 1b000 1b120-1b122 1b155 1b164-1b167"]),
   (.midLetter, ranges ["3a b7 387 55f 5f4 2027 fe13 fe55 ff1a"]),
   (.midNumber, ranges ["2c 3b 37e 589 60c-60d 66c 7f8 2044 fe10 fe14 fe50 fe54 ff0c ff1b"]),
   (.midNumberLetter, ranges ["2e 2018-2019 2024 fe52 ff07 ff0e"]),
   (.regional, regionalRanges),
   (.joiner, ranges ["200d"]),
   (.segmentSpace, ranges ["20 1680 2000-2006 2008-200a 205f 3000"])]

/-- Characters that are in words although they are not alphabetic. -/
def furtherLetterRanges : List Range := ranges
  ["2c2-2c5 2d2-2d7 2de-2df 2e5-2eb 2ed 2ef-2ff 55a-55c 55e 58a 5f3 70f a708-a716 a720-a721 ",
   "a789-a78a ab5b"]

/-- Letters of scripts that write words apart. -/
def isLetter (c : Char) : Bool :=
  (isAlphabetic c || inRanges furtherLetterRanges c) && !inRanges ideographicRanges c
    && !inRanges complexContextRanges c && Script.of c != ⟨"Hira"⟩

def of (c : Char) : WordBreak :=
  if isLater c then .other
  else match firstClass? table c with
    | some k => k
    | none =>
      if isExtending c || inRanges emojiModifierRanges c then .extend
      else if isDigitLike c then .numeric
      else if Category.of c == .format && c.toNat != 0x200b && c.toNat != 0x70f then .format
      else if isLetter c then .letter
      else .other

def names : List (List String × WordBreak) :=
  [(["aletter", "le"], .letter), (["cr"], .carriageReturn), (["doublequote", "dq"], .doubleQuote),
   (["extend"], .extend), (["extendnumlet", "ex"], .extendNumberLetter),
   (["fo", "format"], .format), (["hebrewletter", "hl"], .hebrewLetter),
   (["ka", "katakana"], .katakana), (["lf"], .lineFeed), (["mb", "midnumlet"], .midNumberLetter),
   (["midletter", "ml"], .midLetter), (["midnum", "mn"], .midNumber), (["newline", "nl"], .newline),
   (["nu", "numeric"], .numeric), (["regionalindicator", "ri"], .regional),
   (["singlequote", "sq"], .singleQuote), (["wsegspace"], .segmentSpace), (["zwj"], .joiner)]

end WordBreak

/-! ### Sentences -/

inductive SentenceBreak where
  | carriageReturn
  | lineFeed
  | extend
  | separator
  | format
  | space
  | lower
  | upper
  | otherLetter
  | numeric
  | fullStop
  | continuation
  | terminal
  | close
  | other
  deriving DecidableEq, Repr

namespace SentenceBreak

def table : List (SentenceBreak × List Range) :=
  [(.carriageReturn, ranges ["d"]),
   (.lineFeed, ranges ["a"]),
   (.separator, ranges ["85 2028-2029"]),
   (.space, ranges ["9 b-c 20 a0 1680 2000-200a 202f 205f 3000"]),
   (.fullStop, ranges ["2e 2024 fe52 ff0e"])]

/-- Georgian letters of both cases, which are not told apart in sentences. -/
def uncasedLowerRanges : List Range := ranges ["10d0-10fa 10fd-10ff"]

@[inherit_doc uncasedLowerRanges]
def uncasedUpperRanges : List Range := ranges ["1c90-1cba 1cbd-1cbf"]

/-- Marks after which a sentence goes on. -/
def continuationRanges : List Range := ranges
  ["2c-2d 3a-3b 37e 55d 60c-60d 7f8 1802 1808 2013-2014 3001 fe10-fe11 fe13-fe14 fe31-fe32 ",
   "fe50-fe51 fe54-fe55 fe58 fe63 ff0c-ff0d ff1a-ff1b ff64"]

def isClose (c : Char) : Bool :=
  match Category.of c with
  | .openPunctuation | .closePunctuation | .initialPunctuation | .finalPunctuation => true
  | _ => inRanges plainQuoteRanges c

def of (c : Char) : SentenceBreak :=
  if isLater c then .other
  else match firstClass? table c with
    | some k => k
    | none =>
      if isExtending c || c.toNat == 0x200d then .extend
      else if isDigitLike c then .numeric
      else if Category.of c == .format then .format
      else if isLowercase c && !inRanges uncasedLowerRanges c then .lower
      else if Category.of c == .titlecaseLetter
          || (isUppercase c && !inRanges uncasedUpperRanges c) then .upper
      else if isAlphabetic c || c.toNat == 0x5f3 then .otherLetter
      else if inRanges continuationRanges c then .continuation
      else if inRanges sentenceEndRanges c then .terminal
      else if isClose c then .close
      else .other

def names : List (List String × SentenceBreak) :=
  [(["at", "aterm"], .fullStop), (["cl", "close"], .close), (["cr"], .carriageReturn),
   (["ex", "extend"], .extend), (["fo", "format"], .format), (["le", "oletter"], .otherLetter),
   (["lf"], .lineFeed), (["lo", "lower"], .lower), (["nu", "numeric"], .numeric),
   (["sc", "scontinue"], .continuation), (["se", "sep"], .separator), (["sp"], .space),
   (["st", "sterm"], .terminal), (["up", "upper"], .upper)]

end SentenceBreak

end Stencil.Unicode
