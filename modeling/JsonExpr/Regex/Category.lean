import JsonExpr.Regex.CharSet
import JsonExpr.Text.CategoryTable

/-!
# General categories as sets

The general categories of characters, from their tables, and the groups they form.

Main definitions:

* `JsonExpr.Regex.CharSet.assigned` — every character that has been assigned;
* `JsonExpr.Regex.CharSet.ofCategory?` — the set of a category by its name.
-/

set_option autoImplicit false

namespace JsonExpr.Regex.CharSet

open Text.CategoryTable

/-- The upper-case letters. -/
def uppercaseLetters : CharSet :=
  diff (bounded Text.LetterTable.uppercase) (bounded uppercaseOnlyProperty)

/-- The lower-case letters. -/
def lowercaseLetters : CharSet :=
  diff (bounded Text.LetterTable.lowercase) (bounded lowercaseOnlyProperty)

/-- Upper-, lower- and title-case letters. -/
def casedLetters : CharSet :=
  unions [uppercaseLetters, lowercaseLetters, bounded titlecaseLetter]

/-- Letters. -/
def letters : CharSet := unions [casedLetters, bounded modifierLetter, bounded otherLetter]

/-- Marks. -/
def marks : CharSet := unions [bounded nonspacingMark, bounded spacingMark, bounded enclosingMark]

/-- Numbers. -/
def numbers : CharSet := bounded Text.LetterTable.numeric

/-- Punctuation. -/
def punctuation : CharSet :=
  unions [bounded connectorPunctuation, bounded dashPunctuation, bounded openPunctuation,
    bounded closePunctuation, bounded initialPunctuation, bounded finalPunctuation,
    bounded otherPunctuation]

/-- Symbols. -/
def symbols : CharSet :=
  unions [bounded mathSymbol, bounded currencySymbol, bounded modifierSymbol, bounded otherSymbol]

/-- Separators. -/
def separators : CharSet :=
  unions [bounded spaceSeparator, bounded lineSeparator, bounded paragraphSeparator]

/-- Every character that is assigned. -/
def assigned : CharSet :=
  unions [letters, marks, numbers, punctuation, symbols, separators, bounded control,
    bounded format, bounded privateUse]

/-- Every character that is not assigned. -/
def unassigned : CharSet := complement assigned

/-- The set of a general category, by its long or short name in lower case without separators.
Surrogates are no characters, so they have no set. -/
def ofCategory? : String → Option CharSet
  | "any" => some any
  | "assigned" => some assigned
  | "ascii" => some (range '\x00' '\x7f')
  | "l" | "letter" => some letters
  | "lc" | "casedletter" => some casedLetters
  | "lu" | "uppercaseletter" => some uppercaseLetters
  | "ll" | "lowercaseletter" => some lowercaseLetters
  | "lt" | "titlecaseletter" => some (bounded titlecaseLetter)
  | "lm" | "modifierletter" => some (bounded modifierLetter)
  | "lo" | "otherletter" => some (bounded otherLetter)
  | "m" | "mark" | "combiningmark" => some marks
  | "mn" | "nonspacingmark" => some (bounded nonspacingMark)
  | "mc" | "spacingmark" => some (bounded spacingMark)
  | "me" | "enclosingmark" => some (bounded enclosingMark)
  | "n" | "number" => some numbers
  | "nd" | "decimalnumber" | "digit" => some digits
  | "nl" | "letternumber" => some (bounded letterNumber)
  | "no" | "othernumber" => some (bounded otherNumber)
  | "p" | "punctuation" | "punct" => some punctuation
  | "pc" | "connectorpunctuation" => some (bounded connectorPunctuation)
  | "pd" | "dashpunctuation" => some (bounded dashPunctuation)
  | "ps" | "openpunctuation" => some (bounded openPunctuation)
  | "pe" | "closepunctuation" => some (bounded closePunctuation)
  | "pi" | "initialpunctuation" => some (bounded initialPunctuation)
  | "pf" | "finalpunctuation" => some (bounded finalPunctuation)
  | "po" | "otherpunctuation" => some (bounded otherPunctuation)
  | "s" | "symbol" => some symbols
  | "sm" | "mathsymbol" => some (bounded mathSymbol)
  | "sc" | "currencysymbol" => some (bounded currencySymbol)
  | "sk" | "modifiersymbol" => some (bounded modifierSymbol)
  | "so" | "othersymbol" => some (bounded otherSymbol)
  | "z" | "separator" => some separators
  | "zs" | "spaceseparator" => some (bounded spaceSeparator)
  | "zl" | "lineseparator" => some (bounded lineSeparator)
  | "zp" | "paragraphseparator" => some (bounded paragraphSeparator)
  | "c" | "other" =>
    some (unions [bounded control, bounded format, bounded privateUse, unassigned])
  | "cc" | "control" | "cntrl" => some (bounded control)
  | "cf" | "format" => some (bounded format)
  | "co" | "privateuse" => some (bounded privateUse)
  | "cn" | "unassigned" => some unassigned
  | _ => none

end JsonExpr.Regex.CharSet
