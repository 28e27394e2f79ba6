import JsonExpr.Coercion
import JsonExpr.Failure

/-!
# Arithmetic

Sums combine values by their shape: numbers are added, strings and arrays are put one after the
other, objects are merged.  The other operations are numeric.

Main definitions:

* `JsonExpr.Arithmetic.combine` — the sum of a list of values;
* `JsonExpr.Arithmetic.numericPair` — the two operands of a numeric operation;
* `JsonExpr.Arithmetic.product`, `JsonExpr.Arithmetic.quotient` — products and quotients.
-/

set_option autoImplicit false

namespace JsonExpr.Arithmetic

/-! ### Sums -/

/-- The texts of all values, one after the other. -/
def concatText (values : List Json) : Json := .string (String.join (values.map Json.toText))

/-- The elements of all arrays among the values, and the other values, one after the other. -/
def concatArray (values : List Json) : Json :=
  .array (values.flatMap fun
    | .array items => items
    | v => [v])

/-- The entries of all objects, later values for a key in the place of earlier ones. -/
def mergeObjects (values : List Json) : Json :=
  .object (values.foldl (fun merged v => Dict.extend merged (v.asObject?.getD [])) [])

/-- The sum of values one after the other. -/
def addAll : List Json → Json
  | [] => .null
  | v :: rest => rest.foldl Json.add v

/-- The sum of values.  `kind` may force texts or arrays; otherwise strings and arrays follow the
first value, objects are merged, and anything else is added value by value. -/
def combine (kind : Option String) (values : List Json) : Json :=
  if kind = some "string" then concatText values
  else if kind = some "array" then concatArray values
  else if values.all fun v => v.isString || v.isArray then
    match values with
    | .string _ :: _ => concatText values
    | _ => concatArray values
  else if values.all Json.isObject then mergeObjects values
  else addAll values

/-- The sum of values; there is an empty one. -/
def sum (kind : Option String) (values : List Json) : Json :=
  if values.isEmpty then .array [] else combine kind values

/-! ### Numeric operations -/

/-- The two operands of a numeric operation: the first two of a list if there is one, else the two
named ones. -/
def numericPair (values : Option (List Json)) (first second : Option Json) :
    Except OperatorFault (Float × Float) :=
  match values.getD (first.toList ++ second.toList) with
  | a :: b :: _ =>
    match a.asNumber?, b.asNumber? with
    | some a, some b => .ok (a.toFloat, b.toFloat)
    | _, _ => .error .notAllNumbers
  | _ => .error .notEnoughValues

/-- The first number less the second. -/
def difference (pair : Float × Float) : Json := Json.ofNumeric (pair.1 - pair.2)

/-- The product of values so far and the rest of them. -/
def productFrom (acc : Float) : List Json → Except OperatorFault Json
  | [] => .ok (Json.ofNumeric acc)
  | v :: rest =>
    if v.toNumber.isNaN then .error .notAllNumbers else productFrom (acc * v.toNumber) rest

/-- The product of values; there has to be one. -/
def product (values : List Json) : Except OperatorFault Json :=
  if values.isEmpty then .error .notEnoughValues else productFrom 1 values

/-- The first number by the second: exactly, as a quotient rounded down, or the remainder. -/
def quotient (output : Option String) (pair : Float × Float) : Except OperatorFault Json :=
  let (a, b) := pair
  if b == 0 then .error .divisionByZero
  else .ok (Json.ofNumeric (match output with
    | some "quotient" => Decimal.floor (a / b)
    | some "remainder" => Decimal.remainder a b
    | _ => a / b))

end JsonExpr.Arithmetic
