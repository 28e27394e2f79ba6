/-!
# Sets of characters by their boundaries

A set of code points is given by the increasing list of the points at which membership changes: the
first boundary starts the set, the second ends it, the third starts it again, and so on.

Main definitions:

* `JsonExpr.Text.within` — membership in a set given by its boundaries;
* `JsonExpr.Text.Boundaries.has` — the same, for a character.
-/

set_option autoImplicit false

namespace JsonExpr.Text

/-- Increasing code points at which membership in a set changes. -/
abbrev Boundaries := List Nat

/-- Membership of `n`, given whether the points before the first boundary belong to the set. -/
def within (n : Nat) : Bool → Boundaries → Bool
  | inside, [] => inside
  | inside, b :: rest => if n < b then inside else within n (!inside) rest

/-- Whether a character belongs to the set with these boundaries. -/
def Boundaries.has (bounds : Boundaries) (c : Char) : Bool := within c.toNat false bounds

end JsonExpr.Text
