import JsonExpr.Operator.Arithmetic
import JsonExpr.Operator.Comparison
import JsonExpr.Operator.Kind
import JsonExpr.Operator.Splitting
import JsonExpr.Operator.Substitution
import JsonExpr.Options
import JsonExpr.Regex
import JsonExpr.TypeCheck

/-!
# How operators compute

Most operators evaluate all their operands, check them, and compute a value from them without asking
the host anything.  Such an operator is a list of operand names and a pure function.  The others
choose which of their operands to evaluate, or ask the host.

Main definitions:

* `JsonExpr.StrictOperator` — the names and the function;
* `JsonExpr.Operation` — the ways in which operators compute;
* `JsonExpr.OperatorKind.operation` — the way of each operator.
-/

set_option autoImplicit false

namespace JsonExpr

/-- An operator that computes from all its operands. -/
structure StrictOperator where
  /-- The names of the operands, in the order in which they are evaluated. -/
  operands : List String
  /-- The value, given the options and the operands. -/
  compute : Options → Operands → Except OperatorFault Json

namespace StrictOperator

open Operands (value? string? bool? array? object?)

/-- Whether all values are equal. -/
def valuesEqual (operands : Operands) : Bool :=
  Comparison.allEqual ((bool? operands "caseInsensitive").getD false)
    ((array? operands "values").getD [])

/-- Whether the first two values stand in an order. -/
def inOrder (wanted : Ordering) (operands : Operands) : Except OperatorFault Json :=
  (Comparison.ordered wanted ((bool? operands "strict").getD true)
    ((array? operands "values").getD [])).map Json.bool

/-- Whether all values are equal. -/
def equal : StrictOperator where
  operands := ["values", "caseInsensitive", "nullEqualsUndefined"]
  compute _ operands := .ok (.bool (valuesEqual operands))

/-- Whether some values differ. -/
def notEqual : StrictOperator where
  operands := ["values", "caseInsensitive", "nullEqualsUndefined"]
  compute _ operands := .ok (.bool (!valuesEqual operands))

/-- Whether the first value is greater than the second. -/
def greaterThan : StrictOperator where
  operands := ["values", "strict"]
  compute _ operands := inOrder .gt operands

/-- Whether the first value is less than the second. -/
def lessThan : StrictOperator where
  operands := ["values", "strict"]
  compute _ operands := inOrder .lt operands

/-- The sum of the values. -/
def plus : StrictOperator where
  operands := ["values", "type"]
  compute _ operands :=
    .ok (Arithmetic.sum (string? operands "type") ((array? operands "values").getD []))

/-- The difference of two numbers. -/
def subtract : StrictOperator where
  operands := ["values", "from", "subtract"]
  compute _ operands :=
    (Arithmetic.numericPair (array? operands "values") (value? operands "from")
      (value? operands "subtract")).map Arithmetic.difference

/-- The product of the values. -/
def multiply : StrictOperator where
  operands := ["values"]
  compute _ operands := Arithmetic.product ((array? operands "values").getD [])

/-- The quotient of two numbers, or what the division leaves. -/
def divide : StrictOperator where
  operands := ["values", "dividend", "divisor", "output"]
  compute _ operands := do
    let pair ← Arithmetic.numericPair (array? operands "values") (value? operands "dividend")
      (value? operands "divisor")
    Arithmetic.quotient (string? operands "output") pair

/-- Whether a text contains a match of a pattern. -/
def regex : StrictOperator where
  operands := ["testString", "pattern"]
  compute _ operands :=
    let text := (string? operands "testString").getD ""
    match Regex.Pattern.ofText? ((string? operands "pattern").getD "") with
    | some p => .ok (.bool (p.matchesIn text))
    | none => .error (.invalidPattern "the pattern is not well formed")

/-- The part of the data at a path. -/
def objectProperties : StrictOperator where
  operands := ["property", "additionalData"]
  compute options operands :=
    let path := (string? operands "property").getD ""
    let data := Dict.extend (options.data.getD []) ((object? operands "additionalData").getD [])
    match Path.extract? (.object data) path with
    | some v => .ok v
    | none => .error (.noSuchProperty path)

/-- A template filled with values. -/
def stringSubstitution : StrictOperator where
  operands :=
    ["string", "substitutions", "trimWhiteSpace", "substitutionCharacter", "numberMapping"]
  compute _ operands :=
    let style : Substitution.Style :=
      ⟨(bool? operands "trimWhiteSpace").getD true, object? operands "numberMapping"⟩
    let marker := (string? operands "substitutionCharacter").getD "%"
    let template := (string? operands "string").getD ""
    .ok (.string (Substitution.fill style marker template (value? operands "substitutions")))

/-- A text cut into pieces. -/
def split : StrictOperator where
  operands := ["value", "delimiter", "trimWhiteSpace", "excludeTrailing"]
  compute _ operands :=
    .ok (Splitting.splitString ((bool? operands "trimWhiteSpace").getD true)
      ((bool? operands "excludeTrailing").getD true) ((string? operands "delimiter").getD " ")
      ((string? operands "value").getD ""))

/-- The number of values. -/
def count : StrictOperator where
  operands := ["values"]
  compute _ operands := .ok (Json.ofNat ((array? operands "values").getD []).length)

/-- The value itself. -/
def passthru : StrictOperator where
  operands := ["value"]
  compute _ operands := .ok (Json.ofOption (value? operands "value"))

end StrictOperator

/-- The ways in which operators compute. -/
inductive Operation where
  /-- From all operands, by a pure function. -/
  | strict (op : StrictOperator)
  /-- Whether no operand is false. -/
  | conjunction
  /-- Whether some operand is true. -/
  | disjunction
  /-- One of two branches. -/
  | conditional
  /-- The branch for a value. -/
  | matching
  /-- An object from its entries. -/
  | buildObject
  /-- A request over HTTP. -/
  | request (method : HttpMethod)
  /-- A GraphQL query. -/
  | graphQL
  /-- A database query. -/
  | sql
  /-- A call of a host function. -/
  | function

/-- How an operator computes. -/
def OperatorKind.operation : OperatorKind → Operation
  | and => .conjunction
  | or => .disjunction
  | equal => .strict .equal
  | notEqual => .strict .notEqual
  | plus => .strict .plus
  | subtract => .strict .subtract
  | multiply => .strict .multiply
  | divide => .strict .divide
  | greaterThan => .strict .greaterThan
  | lessThan => .strict .lessThan
  | conditional => .conditional
  | regex => .strict .regex
  | objectProperties => .strict .objectProperties
  | stringSubstitution => .strict .stringSubstitution
  | split => .strict .split
  | count => .strict .count
  | get => .request .get
  | post => .request .post
  | pgSql => .sql
  | graphQL => .graphQL
  | buildObject => .buildObject
  | matching => .matching
  | customFunctions => .function
  | passthru => .strict .passthru

end JsonExpr
