/-!
# Reading numerals

Two grammars of numerals inside strings: doubles, as in `"1e3"` or `" -infinity"` after trimming,
and machine-sized naturals, as in an index.

Main definitions:

* `JsonExpr.Decimal.scaled` — the double nearest to `m · 10 ^ e`;
* `JsonExpr.Decimal.readFloat?` — the double a text denotes;
* `JsonExpr.Decimal.readNatural?` — the 64-bit natural a text denotes.
-/

set_option autoImplicit false

namespace JsonExpr.Decimal

/-! ### Digits -/

/-- The value of an ASCII decimal digit. -/
def digitValue? (c : Char) : Option Nat :=
  if '0' ≤ c ∧ c ≤ '9' then some (c.toNat - '0'.toNat) else none

/-- Whether `c` is an ASCII decimal digit. -/
def isDigit (c : Char) : Bool := (digitValue? c).isSome

/-- The natural number that a row of digits denotes, most significant first. -/
def ofDigits (digits : List Char) : Nat :=
  digits.foldl (fun n c => 10 * n + (digitValue? c).getD 0) 0

/-- The double nearest to `m · 10 ^ e`. -/
def scaled (m : Nat) (e : Int) : Float :=
  Float.ofScientific m (e < 0) e.natAbs

/-! ### Doubles -/

/-- A sign in front of a text, if there is one. -/
def splitSign : List Char → Bool × List Char
  | '-' :: rest => (true, rest)
  | '+' :: rest => (false, rest)
  | text => (false, text)

/-- The exponent part of a numeral: nothing, or `e`, a sign and at least one digit. -/
def readExponent? : List Char → Option Int
  | [] => some 0
  | c :: rest =>
    if c = 'e' ∨ c = 'E' then
      let (negative, digits) := splitSign rest
      if digits.isEmpty || !digits.all isDigit then none
      else
        let e : Int := ofDigits digits
        some (if negative then -e else e)
    else none

/-- A numeral without its sign: digits with an optional point, at least one of them, then an
exponent. -/
def readMagnitude? (text : List Char) : Option Float :=
  let whole := text.takeWhile isDigit
  let rest := text.dropWhile isDigit
  let (fraction, tail) := match rest with
    | '.' :: r => (r.takeWhile isDigit, r.dropWhile isDigit)
    | r => ([], r)
  if whole.isEmpty && fraction.isEmpty then none
  else (readExponent? tail).map fun e => scaled (ofDigits (whole ++ fraction)) (e - fraction.length)

/-- The names of the doubles that are no finite numbers, in any case. -/
def readSpecial? (text : List Char) : Option Float :=
  match String.ofList (text.map Char.toLower) with
  | "nan" => some (0 / 0)
  | "inf" => some (1 / 0)
  | "infinity" => some (1 / 0)
  | _ => none

/-- The double that a text denotes: a numeral rounded to nearest, or the name of an infinity or of
not-a-number, with an optional sign.  No white space is allowed. -/
def readFloat? (text : List Char) : Option Float :=
  let (negative, rest) := splitSign text
  ((readSpecial? rest).orElse fun _ => readMagnitude? rest).map fun f => if negative then -f else f

/-! ### Naturals -/

/-- The 64-bit natural that a text denotes: an optional plus sign and at least one digit. -/
def readNatural? (text : List Char) : Option Nat :=
  let digits := match text with
    | '+' :: rest => rest
    | rest => rest
  if digits.isEmpty || !digits.all isDigit then none
  else
    let n := ofDigits digits
    if n < Nat.pow 2 64 then some n else none

end JsonExpr.Decimal
