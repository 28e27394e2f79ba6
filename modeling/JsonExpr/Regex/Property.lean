import JsonExpr.Regex.Category
import JsonExpr.Text.PropertyTable

/-!
# Properties as sets

The properties that a character has or has not.  Many follow from the general category, with a list
of further characters; those that say whether a case mapping changes a character follow from the
mappings, corrected for characters that decompose.

Main definitions:

* `JsonExpr.Regex.CharSet.graphemeExtend`, `JsonExpr.Regex.CharSet.idStart` and others — derived
  properties;
* `JsonExpr.Regex.CharSet.ofBinaryProperty?` — the set of a property by its name.
-/

set_option autoImplicit false

namespace JsonExpr.Regex.CharSet

open Text.CategoryTable Text.CaseTable Text.PropertyTable

/-! ### Properties derived from the category -/

/-- Marks that belong to the character before them. -/
def graphemeExtend : CharSet :=
  unions [bounded nonspacingMark, bounded enclosingMark, bounded otherGraphemeExtend]

/-- Characters that a mark may belong to. -/
def graphemeBase : CharSet :=
  diff assigned (unions [bounded control, bounded format, bounded privateUse,
    bounded lineSeparator, bounded paragraphSeparator, graphemeExtend])

/-- Characters kept free for the syntax of languages. -/
def syntaxReserved : CharSet := union (bounded patternSyntax) (bounded patternWhiteSpace)

/-- Characters that a name may start with. -/
def idStart : CharSet :=
  diff (unions [letters, bounded letterNumber, bounded otherIdStart]) syntaxReserved

/-- Characters that a name may go on with. -/
def idContinue : CharSet :=
  diff (unions [idStart, bounded nonspacingMark, bounded spacingMark, digits,
    bounded connectorPunctuation, bounded otherIdContinue]) syntaxReserved

/-- Mathematical characters. -/
def mathematical : CharSet := union (bounded mathSymbol) (bounded otherMath)

/-- Dashes: those by category and four signs of other categories. -/
def dashes : CharSet :=
  unions [bounded dashPunctuation, single '⁓', single '⁻', single '₋', single '−']

/-- ASCII hexadecimal digits. -/
def asciiHexDigits : CharSet := unions [asciiDigits, range 'A' 'F', range 'a' 'f']

/-- Hexadecimal digits, of full width too. -/
def hexDigits : CharSet :=
  unions [asciiHexDigits, range '０' '９', range 'Ａ' 'Ｆ', range 'ａ' 'ｆ']

/-- What joins two characters or keeps them apart. -/
def joinControls : CharSet := range '\u200c' '\u200d'

/-- Letters that stand for regions, in pairs. -/
def regionalIndicators : CharSet := progression 0x1f1e6 0x1f1ff 1

/-- What changes the colour of an emoji. -/
def emojiModifiers : CharSet := progression 0x1f3fb 0x1f3ff 1

/-- Signs that say how two ideographs are put together. -/
def binaryDescriptions : CharSet :=
  unions [range '\u2ff0' '\u2ff1', range '\u2ff4' '\u2ffd', single '\u31ef']

/-! ### Properties derived from case mappings -/

/-- Characters that lower case changes. -/
def changedByLower : CharSet :=
  unions [mapped toLower, single 'İ']

/-- Characters that upper case changes. -/
def changedByUpper : CharSet :=
  union (mapped toUpper) (unions (toUpperLong.map fun m => progression m.1 m.1 1))

/-- Characters that title case changes. -/
def changedByTitle : CharSet :=
  union (diff changedByUpper (bounded titlecaseOfOwn)) (bounded titlecaseOnly)

/-- Characters that folding changes. -/
def changedByFold : CharSet :=
  diff (union (mapped fold) (bounded foldedInFull)) (bounded foldedWhenTaken)

/-! ### Names -/

/-- The set of a property that a character has or has not, by its long or short name in lower case
without separators. -/
def ofBinaryProperty? : String → Option CharSet
  | "ahex" | "asciihexdigit" => some asciiHexDigits
  | "alpha" | "alphabetic" => some (bounded Text.LetterTable.alphabetic)
  | "bidic" | "bidicontrol" => some (bounded bidiControl)
  | "bidim" | "bidimirrored" => some (bounded bidiMirrored)
  | "ci" | "caseignorable" => some (bounded caseIgnorable)
  | "cased" => some (bounded cased)
  | "cwcf" | "changeswhencasefolded" => some changedByFold
  | "cwcm" | "changeswhencasemapped" =>
    some (unions [changedByLower, changedByUpper, changedByTitle])
  | "cwl" | "changeswhenlowercased" => some changedByLower
  | "cwt" | "changeswhentitlecased" => some changedByTitle
  | "cwu" | "changeswhenuppercased" => some changedByUpper
  | "dash" => some dashes
  | "di" | "defaultignorablecodepoint" => some (bounded defaultIgnorable)
  | "dep" | "deprecated" => some (bounded deprecated)
  | "dia" | "diacritic" => some (bounded diacritic)
  | "emoji" => some (bounded emoji)
  | "ecomp" | "emojicomponent" => some (bounded emojiComponent)
  | "emod" | "emojimodifier" => some emojiModifiers
  | "ebase" | "emojimodifierbase" => some (bounded emojiModifierBase)
  | "epres" | "emojipresentation" => some (bounded emojiPresentation)
  | "extpict" | "extendedpictographic" => some (bounded extendedPictographic)
  | "ext" | "extender" => some (bounded extender)
  | "grbase" | "graphemebase" => some graphemeBase
  | "grext" | "graphemeextend" => some graphemeExtend
  | "grlink" | "graphemelink" => some (bounded graphemeLink)
  | "hex" | "hexdigit" => some hexDigits
  | "hyphen" => some (bounded hyphen)
  | "idsb" | "idsbinaryoperator" => some binaryDescriptions
  | "idst" | "idstrinaryoperator" => some (range '\u2ff2' '\u2ff3')
  | "idsu" | "idsunaryoperator" => some (range '\u2ffe' '\u2fff')
  | "idcompatmathstart" => some (bounded mathCompatibleStart)
  | "idcompatmathcontinue" => some (bounded mathCompatibleContinue)
  | "idc" | "idcontinue" => some idContinue
  | "ids" | "idstart" => some idStart
  | "ideo" | "ideographic" => some (bounded ideographic)
  | "joinc" | "joincontrol" => some joinControls
  | "loe" | "logicalorderexception" => some (bounded logicalOrderException)
  | "lower" | "lowercase" => some (bounded Text.LetterTable.lowercase)
  | "math" => some mathematical
  | "mcm" | "modifiercombiningmark" => some (bounded modifierCombiningMark)
  | "nchar" | "noncharactercodepoint" => some (bounded noncharacter)
  | "oalpha" | "otheralphabetic" =>
    some (diff (bounded Text.LetterTable.alphabetic) (union letters (bounded letterNumber)))
  | "odi" | "otherdefaultignorablecodepoint" => some (bounded otherDefaultIgnorable)
  | "ogrext" | "othergraphemeextend" => some (bounded otherGraphemeExtend)
  | "oidc" | "otheridcontinue" => some (bounded otherIdContinue)
  | "oids" | "otheridstart" => some (bounded otherIdStart)
  | "olower" | "otherlowercase" => some (bounded lowercaseOnlyProperty)
  | "omath" | "othermath" => some (bounded otherMath)
  | "oupper" | "otheruppercase" => some (bounded uppercaseOnlyProperty)
  | "patsyn" | "patternsyntax" => some (bounded patternSyntax)
  | "patws" | "patternwhitespace" => some (bounded patternWhiteSpace)
  | "pcm" | "prependedconcatenationmark" => some (bounded prependedConcatenationMark)
  | "qmark" | "quotationmark" => some (bounded quotationMark)
  | "radical" => some (bounded radical)
  | "ri" | "regionalindicator" => some regionalIndicators
  | "sterm" | "sentenceterminal" => some (bounded sentenceTerminal)
  | "sd" | "softdotted" => some (bounded softDotted)
  | "term" | "terminalpunctuation" => some (bounded terminalPunctuation)
  | "uideo" | "unifiedideograph" => some (bounded unifiedIdeograph)
  | "upper" | "uppercase" => some (bounded Text.LetterTable.uppercase)
  | "vs" | "variationselector" => some (bounded variationSelector)
  | "wspace" | "space" | "whitespace" => some blanks
  | "xidc" | "xidcontinue" => some (diff idContinue (bounded composedContinue))
  | "xids" | "xidstart" => some (diff idStart (bounded composedStart))
  | _ => none

end JsonExpr.Regex.CharSet
