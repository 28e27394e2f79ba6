import JsonExpr.Text.Blank

/-!
# Cutting long texts

A text that reaches a given length is cut two characters short of it, trimmed, and marked with three
dots.

Main definitions:

* `JsonExpr.Text.shorten` — a text cut to a length.
-/

set_option autoImplicit false

namespace JsonExpr.Text

/-- The mark of a text that was cut. -/
def ellipsis : List Char := ['.', '.', '.']

/-- A text shorter than `limit` unchanged, a longer one cut and marked. -/
def shorten (limit : Nat) (text : List Char) : List Char :=
  if text.length < limit then text else trim (text.take (limit - 2)) ++ ellipsis

/-- A string shorter than `limit` unchanged, a longer one cut and marked. -/
def shortenString (limit : Nat) (s : String) : String := String.ofList (shorten limit s.toList)

end JsonExpr.Text
