import JsonExpr.Decimal.Numeral
import JsonExpr.Decimal.Reading

/-!
# JSON numbers

A number is either an integer of at most 64 bits, signed or unsigned, or a finite double.  The two
kinds are told apart when a number is written, and compared by value.

Main definitions:

* `JsonExpr.Number` — the two kinds of number;
* `JsonExpr.Number.toFloat` — the value as a double;
* `JsonExpr.Number.write`, `JsonExpr.Number.writeScript` — the text in JSON and in strings.
-/

set_option autoImplicit false

namespace JsonExpr

/-- Whether an integer has a 64-bit representation, signed or unsigned. -/
def FitsWord (n : Int) : Prop := -9223372036854775808 ≤ n ∧ n < 18446744073709551616

instance (n : Int) : Decidable (FitsWord n) := inferInstanceAs (Decidable (_ ∧ _))

/-- A JSON number. -/
inductive Number where
  /-- An integer of at most 64 bits. -/
  | int (value : Int) (fits : FitsWord value)
  /-- A finite double. -/
  | float (value : Float) (finite : value.isFinite = true)
  deriving DecidableEq

namespace Number

/-- The integer `n`, if it fits. -/
def ofInt? (n : Int) : Option Number := if h : FitsWord n then some (.int n h) else none

/-- The double `f`, if it is finite. -/
def ofFloat? (f : Float) : Option Number :=
  if h : f.isFinite = true then some (.float f h) else none

/-- The value as a double; an integer is rounded to the nearest one. -/
def toFloat : Number → Float
  | int n _ => Float.ofInt n
  | float f _ => f

/-- The value as a signed 64-bit integer. -/
def toSigned? : Number → Option Int
  | int n _ => if n < 9223372036854775808 then some n else none
  | float _ _ => none

/-- The value as a 64-bit natural. -/
def toNatural? : Number → Option Nat
  | int n _ => if 0 ≤ n then some n.toNat else none
  | float _ _ => none

/-- The number as JSON text. -/
def write : Number → String
  | int n _ => toString n
  | float f _ => Decimal.writeJson f

/-- The number as part of a string. -/
def writeScript : Number → String
  | int n _ => toString n
  | float f _ => Decimal.writeScript f

/-- Whether two numbers are of one kind and have one value. -/
def same : Number → Number → Bool
  | int a _, int b _ => a == b
  | float a _, float b _ => a == b
  | _, _ => false

/-- Whether two numbers have one value as doubles. -/
def sameValue (a b : Number) : Bool := a.toFloat == b.toFloat

end Number

end JsonExpr
