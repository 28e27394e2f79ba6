import JsonExpr.Text.LetterTable

/-!
# Letters and digits

Predicates on characters of any script.

Main definitions:

* `JsonExpr.Text.isAlphanumeric` — letters and numbers;
* `JsonExpr.Text.isLower`, `JsonExpr.Text.isUpper` — lower- and upper-case letters;
* `JsonExpr.Text.isDecimalDigit` — decimal digits of any script.
-/

set_option autoImplicit false

namespace JsonExpr.Text

/-- Whether `c` has the property `Alphabetic`. -/
def isAlphabetic (c : Char) : Bool := LetterTable.alphabetic.has c

/-- Whether `c` is a number of any kind. -/
def isNumeric (c : Char) : Bool := LetterTable.numeric.has c

/-- Whether `c` is a letter or a number. -/
def isAlphanumeric (c : Char) : Bool := isAlphabetic c || isNumeric c

/-- Whether `c` has the property `Lowercase`. -/
def isLower (c : Char) : Bool := LetterTable.lowercase.has c

/-- Whether `c` has the property `Uppercase`. -/
def isUpper (c : Char) : Bool := LetterTable.uppercase.has c

/-- Whether `c` is a decimal digit of some script. -/
def isDecimalDigit (c : Char) : Bool := LetterTable.decimalDigit.has c

end JsonExpr.Text
