import JsonExpr.Json.Printer
import JsonExpr.Text.Blank
import JsonExpr.Text.Letter

/-!
# Coercions

Expressions are written against loose semantics: a string of digits counts as a number where one is
needed, `+` concatenates as soon as a string is involved, and every value has a text and a truth
value.

Main definitions:

* `JsonExpr.Json.toNumber` — a value as a double, not-a-number if it has none;
* `JsonExpr.Json.ofNumeric` — a double as a value, whole numbers as integers;
* `JsonExpr.Json.truthy` — the truth value of a value;
* `JsonExpr.Json.toText`, `JsonExpr.Json.display` — the text of a value, inside other texts;
* `JsonExpr.Json.add` — the loose sum of two values;
* `JsonExpr.OutputType` — the conversions a result can be put through.
-/

set_option autoImplicit false

namespace JsonExpr

namespace Json

/-! ### Numbers and values -/

/-- Whole doubles below `2 ^ 53` in magnitude become integers. -/
def exactLimit : Nat := Nat.pow 2 53

/-- A double as a value: a whole one below `2 ^ 53` as an integer, one that is not finite as
`null`. -/
def ofNumeric (f : Float) : Json :=
  let n := Decimal.wholePart f
  if f.isFinite && Decimal.isWhole f && n.natAbs < exactLimit then
    match Number.ofInt? n with
    | some i => number i
    | none => ofFloat f
  else ofFloat f

/-! ### Texts -/

mutual

/-- The text of a value: arrays are their elements with commas between them, and objects all look
alike. -/
def toText : Json → String
  | null => "null"
  | bool true => "true"
  | bool false => "false"
  | number n => n.writeScript
  | string s => s
  | array items => Text.joinStrings "," (itemTexts items)
  | object _ => "[object Object]"

/-- The texts of the elements of an array; `null` leaves nothing. -/
def itemTexts : List Json → List String
  | [] => []
  | v :: rest => (if v.isNull then "" else toText v) :: itemTexts rest

end

/-- The text of a value that is put into a template: arrays and objects keep their structure. -/
def display : Json → String
  | array items => compact (array items)
  | object fields => compact (object fields)
  | v => toText v

/-! ### Numbers from values -/

/-- The double that the text of a string denotes; blank text is zero. -/
def textToNumber (s : String) : Float :=
  let trimmed := Text.trim s.toList
  if trimmed.isEmpty then 0 else (Decimal.readFloat? trimmed).getD (0 / 0)

/-- A value as a double; what has no numeric value is not-a-number. -/
def toNumber : Json → Float
  | null => 0
  | bool true => 1
  | bool false => 0
  | number n => n.toFloat
  | string s => textToNumber s
  | array [] => 0
  | array [v] => textToNumber (toText v)
  | array _ => 0 / 0
  | object _ => 0 / 0

/-- The truth value of a value: `false`, zero, the empty string and `null` are false. -/
def truthy : Json → Bool
  | null => false
  | bool b => b
  | number n => n.toFloat != 0 && !n.toFloat.isNaN
  | string s => s != ""
  | array _ => true
  | object _ => true

/-- The longest numeral at the start of a text: an optional minus sign, then digits with a fraction,
a fraction alone, or digits alone. -/
def numeralAt? (text : List Char) : Option (List Char) :=
  let (sign, rest) := match text with
    | '-' :: rest => (['-'], rest)
    | rest => ([], rest)
  let whole := rest.takeWhile Text.isDecimalDigit
  let fraction := match rest.dropWhile Text.isDecimalDigit with
    | '.' :: after => after.takeWhile Text.isDecimalDigit
    | _ => []
  if !fraction.isEmpty then some (sign ++ whole ++ '.' :: fraction)
  else if !whole.isEmpty then some (sign ++ whole)
  else none

/-- The first numeral in a text. -/
def firstNumeral? : List Char → Option (List Char)
  | [] => none
  | c :: rest => (numeralAt? (c :: rest)).orElse fun _ => firstNumeral? rest

/-- The number in a value: of a string its first numeral, or zero; of any other value its numeric
value, or the value itself. -/
def extractNumber : Json → Json
  | string s =>
    match (firstNumeral? s.toList).bind Decimal.readFloat? with
    | some f => ofNumeric f
    | none => int 0
  | v => if v.toNumber.isNaN then v else ofNumeric v.toNumber

/-! ### Sums -/

/-- Whether a value takes part in sums as a number. -/
def isAddend : Json → Bool
  | null => true
  | bool _ => true
  | number _ => true
  | _ => false

/-- The loose sum: numeric for two addends, otherwise one text after the other. -/
def add (a b : Json) : Json :=
  if a.isAddend && b.isAddend then ofNumeric (a.toNumber + b.toNumber)
  else string (a.toText ++ b.toText)

end Json

/-! ### Conversions of results -/

/-- The conversions a result can be put through. -/
inductive OutputType where
  /-- The text of the result. -/
  | string
  /-- The number in the result. -/
  | number
  /-- The truth value of the result. -/
  | boolean
  /-- The result as an array: itself, or the array of it alone. -/
  | array
  deriving DecidableEq, Repr

namespace OutputType

/-- The conversion of a name. -/
def ofName? : String → Option OutputType
  | "string" => some string
  | "number" => some number
  | "boolean" => some boolean
  | "bool" => some boolean
  | "array" => some array
  | _ => none

/-- The converted value. -/
def apply : OutputType → Json → Json
  | string, v => .string v.toText
  | number, v => v.extractNumber
  | boolean, v => .bool v.truthy
  | array, .array items => .array items
  | array, v => .array [v]

end OutputType

end JsonExpr
