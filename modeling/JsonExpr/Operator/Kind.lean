/-!
# The operators

The operators form a closed set; what a host adds goes through functions, not through operators of
its own.

Main definitions:

* `JsonExpr.OperatorKind` — the operators;
* `JsonExpr.OperatorKind.all` — all of them, in the order of the metadata;
* `JsonExpr.OperatorKind.name` — the canonical name, as messages show it.
-/

set_option autoImplicit false

namespace JsonExpr

/-- An operator. -/
inductive OperatorKind where
  | and
  | or
  | equal
  | notEqual
  | plus
  | subtract
  | multiply
  | divide
  | greaterThan
  | lessThan
  | conditional
  | regex
  | objectProperties
  | stringSubstitution
  | split
  | count
  | get
  | post
  | pgSql
  | graphQL
  | buildObject
  | matching
  | customFunctions
  | passthru
  deriving DecidableEq, Repr

namespace OperatorKind

/-- Every operator, in the order of the metadata. -/
def all : List OperatorKind :=
  [and, or, equal, notEqual, plus, subtract, multiply, divide, greaterThan, lessThan, conditional,
    regex, objectProperties, stringSubstitution, split, count, get, post, pgSql, graphQL,
    buildObject, matching, customFunctions, passthru]

/-- The canonical name. -/
def name : OperatorKind → String
  | and => "AND"
  | or => "OR"
  | equal => "EQUAL"
  | notEqual => "NOT_EQUAL"
  | plus => "PLUS"
  | subtract => "SUBTRACT"
  | multiply => "MULTIPLY"
  | divide => "DIVIDE"
  | greaterThan => "GREATER_THAN"
  | lessThan => "LESS_THAN"
  | conditional => "CONDITIONAL"
  | regex => "REGEX"
  | objectProperties => "OBJECT_PROPERTIES"
  | stringSubstitution => "STRING_SUBSTITUTION"
  | split => "SPLIT"
  | count => "COUNT"
  | get => "GET"
  | post => "POST"
  | pgSql => "PG_SQL"
  | graphQL => "GRAPHQL"
  | buildObject => "BUILD_OBJECT"
  | matching => "MATCH"
  | customFunctions => "CUSTOM_FUNCTIONS"
  | passthru => "PASSTHRU"

theorem mem_all (k : OperatorKind) : k ∈ all := by cases k <;> decide

end OperatorKind

end JsonExpr
