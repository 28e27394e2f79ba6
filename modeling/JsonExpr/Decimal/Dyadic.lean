/-!
# Doubles as exact dyadic fractions

A finite double is `± m · 2 ^ q` for natural `m` and integral `q`.  Everything this library decides
about a double beyond the five operations of the hardware — its shortest numeral, its floor, its
remainder, its whole part — is decided on that pair, in exact arithmetic.

Main definitions:

* `JsonExpr.Decimal.Dyadic` — a sign, a magnitude `m` and an exponent `q`;
* `JsonExpr.Decimal.Dyadic.ofFloat`, `JsonExpr.Decimal.Dyadic.toFloat` — from and to a double;
* `JsonExpr.Decimal.wholePart` — a double cut to an integer, towards zero;
* `JsonExpr.Decimal.floor`, `JsonExpr.Decimal.remainder` — exact floor and truncated remainder.
-/

set_option autoImplicit false

namespace JsonExpr.Decimal

/-- The number `± mantissa · 2 ^ exponent`. -/
structure Dyadic where
  /-- Whether the sign is minus; zero has a sign too. -/
  negative : Bool
  /-- The magnitude before scaling. -/
  mantissa : Nat
  /-- The power of two the magnitude is scaled by. -/
  exponent : Int
  deriving DecidableEq, Repr

namespace Dyadic

/-- The fraction field of a double has 52 bits. -/
def fractionBits : Nat := 52

/-- The exact value of a finite double.  A zero exponent field marks the subnormal numbers, which
have no hidden leading bit. -/
def ofFloat (f : Float) : Dyadic :=
  let bits : Nat := f.toBits.toNat
  let fraction : Nat := bits % Nat.pow 2 fractionBits
  let field : Nat := bits / Nat.pow 2 fractionBits % Nat.pow 2 11
  let negative := bits / Nat.pow 2 63 == 1
  if field = 0 then ⟨negative, fraction, -1074⟩
  else ⟨negative, fraction + Nat.pow 2 fractionBits, (field : Int) - 1075⟩

/-- The whole part of the magnitude: what is left of the binary point. -/
def wholeMagnitude (d : Dyadic) : Nat :=
  if 0 ≤ d.exponent then d.mantissa * Nat.pow 2 d.exponent.toNat
  else d.mantissa / Nat.pow 2 (-d.exponent).toNat

/-- Whether nothing stands right of the binary point. -/
def isWhole (d : Dyadic) : Bool :=
  0 ≤ d.exponent || d.mantissa % Nat.pow 2 (-d.exponent).toNat == 0

/-- The double of this value.  It is exact when the magnitude has at most 53 bits and the exponent
is in range, which holds for every value computed in this module. -/
def toFloat (d : Dyadic) : Float :=
  let magnitude :=
    if 0 ≤ d.exponent then Float.ofNat (d.mantissa * Nat.pow 2 d.exponent.toNat)
    else scaleDown (Float.ofNat d.mantissa) (-d.exponent).toNat
  if d.negative then -magnitude else magnitude
where
  /-- Divides by `2 ^ k`, in two exact steps when the power itself is no double. -/
  scaleDown (f : Float) (k : Nat) : Float :=
    if k ≤ 1000 then f / Float.ofNat (Nat.pow 2 k)
    else f / Float.ofNat (Nat.pow 2 1000) / Float.ofNat (Nat.pow 2 (k - 1000))

end Dyadic

/-- Whether a finite double has no fractional part. -/
def isWhole (f : Float) : Bool := (Dyadic.ofFloat f).isWhole

/-- A finite double cut to an integer, towards zero. -/
def wholePart (f : Float) : Int :=
  let d := Dyadic.ofFloat f
  if d.negative then -(d.wholeMagnitude : Int) else d.wholeMagnitude

/-- The greatest whole double at most `f`.  A double that is no finite number is its own floor, and
so is minus zero. -/
def floor (f : Float) : Float :=
  let d := Dyadic.ofFloat f
  if !f.isFinite || d.isWhole then f
  else if d.negative then -(Float.ofNat (d.wholeMagnitude + 1))
  else Float.ofNat d.wholeMagnitude

/-- The remainder of `a` by `b` after a division cut towards zero: exact, with the sign of `a`.
Both are taken to be finite and `b` not to be zero. -/
def remainder (a b : Float) : Float :=
  let x := Dyadic.ofFloat a
  let y := Dyadic.ofFloat b
  let q := min x.exponent y.exponent
  let scaled (d : Dyadic) : Nat := d.mantissa * Nat.pow 2 (d.exponent - q).toNat
  Dyadic.toFloat ⟨x.negative, scaled x % scaled y, q⟩

end JsonExpr.Decimal
