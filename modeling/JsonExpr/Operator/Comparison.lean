import JsonExpr.Coercion
import JsonExpr.Failure
import JsonExpr.Text.Case

/-!
# Comparison

Values are equal when they have the same structure, numbers by value.  Two strings are ordered by
their characters, any other two values by their numbers.

Main definitions:

* `JsonExpr.Comparison.allEqual` — whether all values equal the first;
* `JsonExpr.Comparison.compare?` — the order of two values, if they have one;
* `JsonExpr.Comparison.ordered` — whether two values stand in a given order.
-/

set_option autoImplicit false

namespace JsonExpr.Comparison

/-- A value as it is compared: strings may be taken in lower case. -/
def comparand (ignoreCase : Bool) : Json → Json
  | .string s => .string (if ignoreCase then Text.lowerString s else s)
  | v => v

/-- Whether all values equal the first. -/
def allEqual (ignoreCase : Bool) (values : List Json) : Bool :=
  match values.map (comparand ignoreCase) with
  | [] => true
  | first :: rest => rest.all fun v => v.sameValue first

/-- The order of two doubles; not-a-number has none. -/
def compareFloats? (a b : Float) : Option Ordering :=
  if a < b then some .lt else if a == b then some .eq else if b < a then some .gt else none

/-- The order of two values: of strings by their characters, of others by their numbers. -/
def compare? : Json → Json → Option Ordering
  | .string a, .string b => some (compareOfLessAndEq a b)
  | a, b => compareFloats? a.toNumber b.toNumber

/-- Whether the first two values stand in the order `wanted`, or are equal when that is allowed. -/
def ordered (wanted : Ordering) (strict : Bool) : List Json → Except OperatorFault Bool
  | a :: b :: _ => .ok (match compare? a b with
    | some .eq => !strict
    | some order => order == wanted
    | none => false)
  | _ => .error .notEnoughValues

end JsonExpr.Comparison
