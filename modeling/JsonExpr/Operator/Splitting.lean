import JsonExpr.Json.Basic
import JsonExpr.Text.Blank
import JsonExpr.Text.Pieces

/-!
# Splitting texts

A text is cut at a delimiter, or into its characters when the delimiter is empty.

Main definitions:

* `JsonExpr.Splitting.pieces` — the pieces as they stand;
* `JsonExpr.Splitting.split` — the pieces trimmed and without an empty one at the end, as asked for.
-/

set_option autoImplicit false

namespace JsonExpr.Splitting

/-- The pieces of a text between the occurrences of a delimiter; its characters if the delimiter is
empty. -/
def pieces (delimiter text : List Char) : List (List Char) :=
  match delimiter with
  | [] => text.map fun c => [c]
  | d :: ds => Text.splitOn d ds text

/-- Pieces without the last one if that is blank. -/
def dropBlankLast (parts : List (List Char)) : List (List Char) :=
  if parts.getLast?.any Text.allBlank then parts.dropLast else parts

/-- The pieces of a text: with `excludeTrailing` without a blank last one, with `trims` without
white space at their ends. -/
def split (trims excludeTrailing : Bool) (delimiter text : List Char) : List (List Char) :=
  let parts := pieces delimiter text
  let kept := if excludeTrailing then dropBlankLast parts else parts
  if trims then kept.map Text.trim else kept

/-- The pieces as a value. -/
def splitString (trims excludeTrailing : Bool) (delimiter text : String) : Json :=
  .array ((split trims excludeTrailing delimiter.toList text.toList).map fun piece =>
    .string (String.ofList piece))

end JsonExpr.Splitting
