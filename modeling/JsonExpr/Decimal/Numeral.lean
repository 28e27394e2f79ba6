import JsonExpr.Decimal.Shortest

/-!
# Writing a double as a numeral

A `NumeralStyle` holds the decisions of one output format: which way ties go, which magnitudes are
written positionally, and whether a whole number shows its point.  Two styles are in use:
`jsonStyle` for JSON text and `scriptStyle` for numbers that become part of a string.

Main definitions:

* `JsonExpr.Decimal.positional`, `JsonExpr.Decimal.withExponent` — the two ways to lay digits out;
* `JsonExpr.Decimal.NumeralStyle.write` — a finite double in a style;
* `JsonExpr.Decimal.writeJson`, `JsonExpr.Decimal.writeScript` — the two styles in use.
-/

set_option autoImplicit false

namespace JsonExpr.Decimal

/-! ### Laying digits out -/

/-- `n` zeros. -/
def zeros (n : Nat) : List Char := List.replicate n '0'

/-- Digits with the point where it belongs; `pointed` adds a fraction of zero to a whole number. -/
def positional (pointed : Bool) (s : Scientific) : List Char :=
  let digits := digitChars s.coefficient
  if 0 ≤ s.exponent then
    digits ++ zeros s.exponent.toNat ++ (if pointed then ['.', '0'] else [])
  else
    let places := (-s.exponent).toNat
    if places < digits.length then
      digits.take (digits.length - places) ++ '.' :: digits.drop (digits.length - places)
    else '0' :: '.' :: zeros (places - digits.length) ++ digits

/-- One digit, a point and the other digits if there are any, and the exponent with its sign. -/
def withExponent (s : Scientific) : List Char :=
  let digits := digitChars s.coefficient
  let first := s.exponent + (digits.length : Int) - 1
  let significand := match digits with
    | [] => []
    | [d] => [d]
    | d :: rest => d :: '.' :: rest
  significand ++ 'e' :: (if first < 0 then '-' else '+') :: digitChars first.natAbs

/-! ### Styles -/

/-- The decisions of one format for finite doubles. -/
structure NumeralStyle where
  /-- Which of two equally near shortest decimals is written. -/
  tie : Tie
  /-- Whether a number whose first digit stands at `10 ^ e` is written positionally. -/
  isPositional : Int → Bool
  /-- Whether a whole number is written with a point and a zero. -/
  pointed : Bool
  /-- Whether minus zero keeps its sign. -/
  signedZero : Bool

/-- A finite double in the given style. -/
def NumeralStyle.write (style : NumeralStyle) (f : Float) : List Char :=
  let d := Dyadic.ofFloat f
  if d.mantissa = 0 then
    let zero := positional style.pointed ⟨0, 0⟩
    if d.negative && style.signedZero then '-' :: zero else zero
  else
    let s := shortest style.tie d
    let first := s.exponent + ((digitChars s.coefficient).length : Int) - 1
    let magnitude := if style.isPositional first then positional style.pointed s else withExponent s
    if d.negative then '-' :: magnitude else magnitude

/-- JSON text: positional from `10 ^ -5` up to below `10 ^ 16`, always with a point or an exponent;
ties go to the even digit. -/
def jsonStyle : NumeralStyle where
  tie := .toEven
  isPositional e := -5 ≤ e && e < 16
  pointed := true
  signedZero := true

/-- Text of a script: never an exponent, never a needless point, no sign on zero; ties go up. -/
def scriptStyle : NumeralStyle where
  tie := .up
  isPositional _ := true
  pointed := false
  signedZero := false

/-- A finite double as JSON text. -/
def writeJson (f : Float) : String := String.ofList (jsonStyle.write f)

/-- Below this magnitude a whole number is written in scripts digit for digit. -/
def scriptWholeLimit : Nat := Nat.pow 10 21

/-- A finite double as text of a script.  A whole number below `10 ^ 21` is written exactly, any
other by its shortest digits. -/
def writeScript (f : Float) : String :=
  if isWhole f ∧ (wholePart f).natAbs < scriptWholeLimit then toString (wholePart f)
  else String.ofList (scriptStyle.write f)

end JsonExpr.Decimal
