/-!
# White space

The characters of the property `White_Space`, and trimming by them.

Main definitions:

* `JsonExpr.Text.isBlank` — the 25 white space characters;
* `JsonExpr.Text.trimLeft`, `JsonExpr.Text.trimRight`, `JsonExpr.Text.trim` — a text without the
  white space at its ends;
* `JsonExpr.Text.allBlank` — whether nothing but white space is there.
-/

set_option autoImplicit false

namespace JsonExpr.Text

/-- Whether `c` has the property `White_Space`. -/
def isBlank (c : Char) : Bool :=
  let n := c.toNat
  (0x09 ≤ n && n ≤ 0x0D) || n == 0x20 || n == 0x85 || n == 0xA0 || n == 0x1680 ||
    (0x2000 ≤ n && n ≤ 0x200A) || n == 0x2028 || n == 0x2029 || n == 0x202F || n == 0x205F ||
    n == 0x3000

/-- A text without its leading characters that satisfy `p`. -/
def dropLeft (p : Char → Bool) (text : List Char) : List Char := text.dropWhile p

/-- A text without its trailing characters that satisfy `p`. -/
def dropRight (p : Char → Bool) (text : List Char) : List Char :=
  text.foldr (fun c kept => if kept.isEmpty && p c then [] else c :: kept) []

/-- A text without the white space in front of it. -/
def trimLeft (text : List Char) : List Char := dropLeft isBlank text

/-- A text without the white space after it. -/
def trimRight (text : List Char) : List Char := dropRight isBlank text

/-- A text without the white space at its ends. -/
def trim (text : List Char) : List Char := trimRight (trimLeft text)

/-- Whether a text is empty or only white space. -/
def allBlank (text : List Char) : Bool := text.all isBlank

/-- A string without the white space at its ends. -/
def trimString (s : String) : String := String.ofList (trim s.toList)

end JsonExpr.Text
