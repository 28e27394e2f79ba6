import JsonExpr.Json.Number

/-!
# Number literals

A literal without point and exponent is an integer if it fits 64 bits.  Any other is a double, found
in three steps: the leading digits that fit a 64-bit natural are the significand, the significand is
rounded to a double, and the double is scaled by a power of ten in binary arithmetic.  A literal
beyond the range of doubles has no value.

Main definitions:

* `JsonExpr.Json.Literal` — the parts of a literal;
* `JsonExpr.Json.Literal.value?` — the number it denotes;
* `JsonExpr.Json.readLiteral?` — the literal a text starts with.
-/

set_option autoImplicit false

namespace JsonExpr.Json

open Decimal (isDigit digitValue? ofDigits)

/-- The parts of a number literal. -/
structure Literal where
  /-- Whether a minus sign stands in front. -/
  negative : Bool
  /-- The digits before the point. -/
  whole : List Char
  /-- The digits after the point, if there is one. -/
  fraction : Option (List Char)
  /-- The exponent, if there is one. -/
  exponent : Option Int
  deriving Repr

/-! ### The value of a literal -/

/-- Appends digits to a significand as long as it fits 64 bits; also counts the digits left out. -/
def significand (n : Nat) : List Char → Nat × Nat
  | [] => (n, 0)
  | c :: rest =>
    let next := 10 * n + (digitValue? c).getD 0
    if next < Nat.pow 2 64 then significand next rest else (n, rest.length + 1)

/-- The greatest power of ten that is a double. -/
def maxPower : Nat := 308

/-- The double nearest to `10 ^ n`, for `n` up to `maxPower`. -/
def powerOfTen (n : Nat) : Float := Float.ofScientific 1 false n

/-- Divides by `10 ^ maxPower`, `n` times or until nothing is left. -/
def shrink : Nat → Float → Float
  | 0, f => f
  | n + 1, f => if f == 0 then f else shrink n (f / powerOfTen maxPower)

/-- Scales a double by `10 ^ e`, if the result is finite. -/
def scale? (f : Float) (e : Int) : Option Float :=
  if f == 0 then some f
  else if 0 ≤ e then
    if e.toNat ≤ maxPower then
      let g := f * powerOfTen e.toNat
      if g.isFinite then some g else none
    else none
  else
    let n := e.natAbs
    let steps := (n - 1) / maxPower
    some (shrink steps f / powerOfTen (n - steps * maxPower))

namespace Literal

/-- The double a literal denotes. -/
def float? (l : Literal) : Option Float :=
  let (head, dropped) := significand 0 l.whole
  let digits := l.fraction.getD []
  let (all, ignored) := significand head digits
  let e : Int := (dropped : Int) - ((digits.length - ignored : Nat) : Int) + l.exponent.getD 0
  (scale? (Float.ofNat all) e).map fun f => if l.negative then -f else f

/-- The number a literal denotes.  Minus zero and integers that do not fit are doubles. -/
def value? (l : Literal) : Option Number :=
  let n := ofDigits l.whole
  let float := l.float?.bind Number.ofFloat?
  if l.fraction.isSome || l.exponent.isSome || (l.negative && n == 0) then float
  else (Number.ofInt? (if l.negative then -(n : Int) else n)).orElse fun _ => float

end Literal

/-! ### Reading a literal -/

/-- The digits before the point: a lone zero, or a row of digits without a leading zero. -/
def readWhole? : List Char → Option (List Char × List Char)
  | '0' :: rest => some (['0'], rest)
  | text =>
    let digits := text.takeWhile isDigit
    if digits.isEmpty then none else some (digits, text.dropWhile isDigit)

/-- The digits after the point, if a point is next. -/
def readFraction? : List Char → Option (Option (List Char) × List Char)
  | '.' :: rest =>
    let digits := rest.takeWhile isDigit
    if digits.isEmpty then none else some (some digits, rest.dropWhile isDigit)
  | text => some (none, text)

/-- The exponent, if the letter of one is next. -/
def readLiteralExponent? : List Char → Option (Option Int × List Char)
  | [] => some (none, [])
  | c :: rest =>
    if c = 'e' ∨ c = 'E' then
      let (negative, text) := Decimal.splitSign rest
      let digits := text.takeWhile isDigit
      if digits.isEmpty then none
      else
        let e : Int := ofDigits digits
        some (some (if negative then -e else e), text.dropWhile isDigit)
    else some (none, c :: rest)

/-- The literal a text starts with, and the rest of the text. -/
def readLiteral? (text : List Char) : Option (Literal × List Char) := do
  let (negative, text) := match text with
    | '-' :: rest => (true, rest)
    | rest => (false, rest)
  let (whole, text) ← readWhole? text
  let (fraction, text) ← readFraction? text
  let (exponent, text) ← readLiteralExponent? text
  pure (⟨negative, whole, fraction, exponent⟩, text)

end JsonExpr.Json
