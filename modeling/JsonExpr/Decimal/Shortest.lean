import JsonExpr.Decimal.Dyadic

/-!
# The shortest decimal that reads back

A numeral for a double need not be exact: any decimal inside the interval of reals that round to the
double will do.  This module finds the decimal with the fewest digits in that interval, and among
those the one nearest to the value; on an exact tie a `Tie` decides.

For one digit, two digits, … up to seventeen, the value falls between two neighbours of the decimal
grid with that many digits.  The first grid with a neighbour inside the interval gives the answer:
if any point of a grid lies in the interval, so does one of these two.

Main definitions:

* `JsonExpr.Decimal.RoundingInterval` — the reals that round to one double;
* `JsonExpr.Decimal.Scientific` — a coefficient times a power of ten;
* `JsonExpr.Decimal.shortest` — the shortest decimal of a positive double.
-/

set_option autoImplicit false

namespace JsonExpr.Decimal

/-- Which of two equally near decimals is taken. -/
inductive Tie where
  /-- The one with an even last digit. -/
  | toEven
  /-- The greater one. -/
  | up
  deriving DecidableEq, Repr

/-- The number `coefficient · 10 ^ exponent`. -/
structure Scientific where
  /-- The digits, as a natural number. -/
  coefficient : Nat
  /-- The power of ten of the last digit. -/
  exponent : Int
  deriving DecidableEq, Repr

/-- The decimal digits of a natural number, most significant first. -/
def digitChars (n : Nat) : List Char := Nat.toDigits 10 n

/-- The reals that round to one positive double, over one denominator. -/
structure RoundingInterval where
  /-- Numerator of the lower end. -/
  lower : Nat
  /-- Numerator of the double itself. -/
  value : Nat
  /-- Numerator of the upper end. -/
  upper : Nat
  /-- The common denominator. -/
  denominator : Nat
  /-- Whether the ends round to the double as well. -/
  closed : Bool
  deriving Repr

namespace RoundingInterval

/-- The interval of `mantissa · 2 ^ exponent`.  Its ends lie half way to the neighbouring doubles;
below a power of two the neighbour is only half as far away, except at the smallest exponent.  The
ends round to the even mantissa. -/
def ofDyadic (d : Dyadic) : RoundingInterval :=
  let atPower := d.mantissa == Nat.pow 2 Dyadic.fractionBits && d.exponent > -1074
  let scale := Nat.pow 2 (d.exponent - 2).toNat
  { lower := (4 * d.mantissa - (if atPower then 1 else 2)) * scale
    value := 4 * d.mantissa * scale
    upper := (4 * d.mantissa + 2) * scale
    denominator := Nat.pow 2 (2 - d.exponent).toNat
    closed := d.mantissa % 2 == 0 }

/-- The exponent `e` with `10 ^ e ≤ value < 10 ^ (e + 1)`. -/
def decimalExponent (r : RoundingInterval) : Int :=
  if r.denominator ≤ r.value then ((digitChars (r.value / r.denominator)).length : Int) - 1
  else -(digitChars ((r.denominator - 1) / r.value)).length

/-- Whether `coefficient · 10 ^ exponent` lies in the interval. -/
def contains (r : RoundingInterval) (s : Scientific) : Bool :=
  let point := s.coefficient * Nat.pow 10 s.exponent.toNat * r.denominator
  let unit := Nat.pow 10 (-s.exponent).toNat
  if r.closed then r.lower * unit ≤ point && point ≤ r.upper * unit
  else r.lower * unit < point && point < r.upper * unit

/-- The point of the grid of multiples of `10 ^ k` that lies in the interval and is nearest to the
value, if the interval holds a neighbour of the value on that grid. -/
def nearest? (r : RoundingInterval) (tie : Tie) (k : Int) : Option Scientific :=
  let numerator := r.value * Nat.pow 10 (-k).toNat
  let step := r.denominator * Nat.pow 10 k.toNat
  let below := numerator / step
  let left : Scientific := ⟨below, k⟩
  let right : Scientific := ⟨below + 1, k⟩
  match r.contains left, r.contains right with
  | true, true =>
    let past := 2 * (numerator % step)
    if past < step then some left
    else if step < past then some right
    else match tie with
      | .up => some right
      | .toEven => some (if below % 2 = 0 then left else right)
  | true, false => some left
  | false, true => some right
  | false, false => none

end RoundingInterval

namespace Scientific

/-- The same number without trailing zeros in its coefficient. -/
def trimmed (s : Scientific) : Scientific :=
  go (digitChars s.coefficient).length s
where
  /-- Drops at most `n` trailing zeros. -/
  go : Nat → Scientific → Scientific
    | 0, s => s
    | n + 1, s =>
      if s.coefficient % 10 = 0 ∧ s.coefficient ≠ 0 then
        go n ⟨s.coefficient / 10, s.exponent + 1⟩
      else s

end Scientific

/-- No double needs more digits than this. -/
def maxDigits : Nat := 17

/-- The shortest decimal that reads back as the positive double `d`, nearest to it among those. -/
def shortest (tie : Tie) (d : Dyadic) : Scientific :=
  let r := RoundingInterval.ofDyadic d
  let e := r.decimalExponent
  let found := (List.range maxDigits).findSome? fun (n : Nat) => r.nearest? tie (e - (n : Int))
  (found.getD ⟨r.value / r.denominator, 0⟩).trimmed

end JsonExpr.Decimal
