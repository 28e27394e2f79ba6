import JsonExpr.Regex.Property
import JsonExpr.Text.BreakTable
import JsonExpr.Text.ScriptTable

/-!
# Classes for the division of text

Text is divided into clusters, words and sentences by classes of characters.  The classes follow
from the general categories and other properties, with lists of exceptions.

Main definitions:

* `JsonExpr.Regex.CharSet.ofClusterClass?` — classes for clusters;
* `JsonExpr.Regex.CharSet.ofWordClass?` — classes for words;
* `JsonExpr.Regex.CharSet.ofSentenceClass?` — classes for sentences.
-/

set_option autoImplicit false

namespace JsonExpr.Regex.CharSet

open Text.CategoryTable Text.PropertyTable Text.BreakTable

/-! ### Clusters -/

/-- What a cluster starts with beside its first character. -/
def clusterPrepended : CharSet := union (bounded prependedConcatenationMark) (bounded prepending)

/-- What belongs to the character before it. -/
def clusterExtend : CharSet := union graphemeExtend emojiModifiers

/-- Spacing marks and two vowels that belong to the character before them. -/
def clusterSpacing : CharSet :=
  unions [diff (bounded spacingMark) (union graphemeExtend (bounded standingMark)),
    single '\u0e33', single '\u0eb3']

/-- What stands between clusters. -/
def clusterControl : CharSet :=
  diff
    (unions [bounded control, bounded format, bounded lineSeparator, bounded paragraphSeparator,
      inter unassigned (bounded defaultIgnorable)])
    (unions [single '\n', single '\r', single '\u200d', clusterExtend, clusterPrepended])

/-- Hangul syllables without a final consonant. -/
def openSyllables : CharSet := progression 0xac00 0xd7a3 28

/-- Hangul vowels, and vowel signs that combine like them. -/
def vowelParts : CharSet :=
  unions [range '\u1160' '\u11a7', range '\ud7b0' '\ud7c6', progression 0x16d63 0x16d63 1,
    progression 0x16d67 0x16d6a 1]

/-- The set of a class for the division into clusters. -/
def ofClusterClass? : String → Option CharSet
  | "cn" | "control" => some clusterControl
  | "cr" => some (single '\r')
  | "ex" | "extend" => some clusterExtend
  | "l" => some (union (range '\u1100' '\u115f') (range '\ua960' '\ua97c'))
  | "lf" => some (single '\n')
  | "lv" => some openSyllables
  | "lvt" => some (diff (range '\uac00' '\ud7a3') openSyllables)
  | "pp" | "prepend" => some clusterPrepended
  | "ri" | "regionalindicator" => some regionalIndicators
  | "sm" | "spacingmark" => some clusterSpacing
  | "t" => some (union (range '\u11a8' '\u11ff') (range '\ud7cb' '\ud7fb'))
  | "v" => some vowelParts
  | "zwj" => some (single '\u200d')
  | _ => none

/-! ### Words -/

/-- What belongs to the word of the character before it. -/
def wordExtend : CharSet := unions [graphemeExtend, bounded spacingMark, emojiModifiers]

/-- Format characters inside words. -/
def wordFormat : CharSet :=
  diff (bounded format) (unions [range '\u200b' '\u200d', clusterPrepended, wordExtend])

/-- Katakana, and signs that go with it. -/
def wordKatakana : CharSet :=
  unions [bounded Text.ScriptTable.katakana.own, range '〱' '〵', range '゛' '゜', single '゠',
    single 'ー', single 'ｰ']

/-- Hebrew letters. -/
def wordHebrew : CharSet := inter (bounded Text.ScriptTable.hebrew.own) (bounded otherLetter)

/-- Letters of scripts that put spaces between words, and signs that stand for letters. -/
def wordLetters : CharSet :=
  union (bounded letterLike)
    (diff (bounded Text.LetterTable.alphabetic)
      (unions [bounded ideographic, wordKatakana, bounded complexContext,
        bounded Text.ScriptTable.hiragana.own, wordExtend, wordHebrew]))

/-- Marks that numbers are written over. -/
def numberMarks : CharSet := diff (bounded prependedConcatenationMark) (single '\u070f')

/-- The set of a class for the division into words. -/
def ofWordClass? : String → Option CharSet
  | "le" | "aletter" => some wordLetters
  | "cr" => some (single '\r')
  | "dq" | "doublequote" => some (single '"')
  | "extend" => some wordExtend
  | "ex" | "extendnumlet" => some (union (bounded connectorPunctuation) (single '\u202f'))
  | "fo" | "format" => some wordFormat
  | "hl" | "hebrewletter" => some wordHebrew
  | "ka" | "katakana" => some wordKatakana
  | "lf" => some (single '\n')
  | "ml" | "midletter" => some (bounded midLetter)
  | "mn" | "midnum" => some (bounded midNumber)
  | "mb" | "midnumlet" => some (bounded midNumberOrLetter)
  | "nl" | "newline" => some (unions [range '\x0b' '\x0c', single '\x85', range '\u2028' '\u2029'])
  | "nu" | "numeric" => some (unions [digits, single '٫', numberMarks])
  | "ri" | "regionalindicator" => some regionalIndicators
  | "sq" | "singlequote" => some (single '\'')
  | "wsegspace" =>
    some (diff (bounded spaceSeparator)
      (unions [single '\u00a0', single '\u2007', single '\u202f']))
  | "zwj" => some (single '\u200d')
  | _ => none

/-! ### Sentences -/

/-- What belongs to the character before it, a joiner included. -/
def sentenceExtend : CharSet := unions [graphemeExtend, bounded spacingMark, single '\u200d']

/-- Full stops that may also stand inside a sentence. -/
def fullStops : CharSet := unions [single '.', single '․', single '﹒', single '．']

/-- Ends of paragraphs. -/
def paragraphEnds : CharSet := union (single '\x85') (range '\u2028' '\u2029')

/-- Lower-case letters of scripts that start sentences with upper case. -/
def sentenceLower : CharSet :=
  diff (bounded Text.LetterTable.lowercase)
    (unions [graphemeExtend, range 'ა' 'ჺ', range 'ჽ' 'ჿ'])

/-- Upper-case and title-case letters of such scripts. -/
def sentenceUpper : CharSet :=
  diff (union (bounded Text.LetterTable.uppercase) (bounded titlecaseLetter))
    (union (range 'Ა' 'Ჺ') (range 'Ჽ' 'Ჿ'))

/-- Other letters. -/
def sentenceLetters : CharSet :=
  union (single '׳')
    (diff (bounded Text.LetterTable.alphabetic)
      (unions [sentenceLower, sentenceUpper, sentenceExtend]))

/-- The set of a class for the division into sentences. -/
def ofSentenceClass? : String → Option CharSet
  | "at" | "aterm" => some fullStops
  | "cl" | "close" =>
    some (unions [bounded openPunctuation, bounded closePunctuation, bounded initialPunctuation,
      bounded finalPunctuation, bounded quote])
  | "cr" => some (single '\r')
  | "ex" | "extend" => some sentenceExtend
  | "fo" | "format" =>
    some (diff (bounded format) (unions [joinControls, numberMarks, sentenceExtend]))
  | "lf" => some (single '\n')
  | "lo" | "lower" => some sentenceLower
  | "nu" | "numeric" => some (unions [digits, range '٫' '٬', numberMarks])
  | "le" | "oletter" => some sentenceLetters
  | "sc" | "scontinue" => some (bounded sentenceContinue)
  | "se" | "sep" => some paragraphEnds
  | "sp" => some (diff blanks (unions [paragraphEnds, single '\n', single '\r']))
  | "st" | "sterm" => some (diff (bounded sentenceTerminal) fullStops)
  | "up" | "upper" => some sentenceUpper
  | _ => none

end JsonExpr.Regex.CharSet
