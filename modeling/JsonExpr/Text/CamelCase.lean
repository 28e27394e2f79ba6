import JsonExpr.Text.Letter
import JsonExpr.Text.Case

/-!
# Camel-cased names

Names that differ only in how their words are marked off are one name: `PG_SQL`, `pg-sql` and
`pgSql` all become `pgSql`.

Main definitions:

* `JsonExpr.Text.words` — the words of a name;
* `JsonExpr.Text.camelCase` — the words put together again, each after the first with a capital.
-/

set_option autoImplicit false

namespace JsonExpr.Text

/-- Whether a word ends between `prev` and `c`, with `next` after it: from lower case or an ASCII
digit to upper case, and before the last capital of a row of capitals. -/
def isWordBoundary (prev c : Char) (next : Option Char) : Bool :=
  ((isLower prev || prev.isDigit) && isUpper c) ||
    (isUpper prev && isUpper c && next.any isLower)

/-- The words of a name.  `prev` is the character before the rest, `current` the word begun. -/
def wordsFrom (prev : Option Char) (current : List Char) : List Char → List (List Char)
  | [] => if current.isEmpty then [] else [current]
  | c :: rest =>
    if !isAlphanumeric c then
      if current.isEmpty then wordsFrom (some c) [] rest
      else current :: wordsFrom (some c) [] rest
    else if !current.isEmpty && prev.any (isWordBoundary · c rest.head?) then
      current :: wordsFrom (some c) [c] rest
    else wordsFrom (some c) (current ++ [c]) rest

/-- The words of a name: maximal rows of letters and numbers, cut further where the case changes. -/
def words (name : List Char) : List (List Char) := wordsFrom none [] name

/-- A lower-case word as it stands behind another word: with a capital, and set apart when it
starts with a digit. -/
def capitalized : List Char → List Char
  | [] => []
  | c :: rest => (if c.isDigit then ['_'] else []) ++ upperChar c ++ rest

/-- The camel-cased form of a name; a name without letters and digits is left as it is. -/
def camelCase (name : List Char) : List Char :=
  match words name with
  | [] => name
  | first :: rest => lower first ++ rest.flatMap fun w => capitalized (lower w)

/-- The camel-cased form of a string. -/
def camelCaseString (name : String) : String := String.ofList (camelCase name.toList)

end JsonExpr.Text
