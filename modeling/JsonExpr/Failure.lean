import JsonExpr.Operator.Kind
import JsonExpr.Text.Ellipsis
import JsonExpr.Text.Pieces

/-!
# What can go wrong

Three layers.  A host client answers a request with a `BackendError`.  An operator fails with an
`OperatorFault`, and a node with a `NodeFault`; both are causes.  What leaves a node is a `Failure`:
a kind and a message, which is cut to a length every time a node without fallback lets it pass.

Main definitions:

* `JsonExpr.ErrorKind` — the kinds of failure;
* `JsonExpr.BackendError`, `JsonExpr.OperatorFault`, `JsonExpr.NodeFault` — the causes;
* `JsonExpr.Failure` — what leaves a node;
* `JsonExpr.NodeFault.failure` — the failure of a cause; a nested failure is passed on unchanged;
* `JsonExpr.Failure.cut` — the failure with its message cut.
-/

set_option autoImplicit false

namespace JsonExpr

/-- The kinds of failure. -/
inductive ErrorKind where
  /-- An operator name that does not resolve. -/
  | invalidOperator
  /-- A property the operator needs is not there. -/
  | missingProperties
  /-- `children` is no array. -/
  | invalidChildrenType
  /-- The name of no fragment. -/
  | fragmentNotDefined
  /-- The name of no conversion. -/
  | invalidOutputType
  /-- The operator could not compute a value. -/
  | operatorRuntimeError
  /-- Operands of the wrong type. -/
  | typeCheckFailure
  deriving DecidableEq, Repr

namespace ErrorKind

/-- The name of a kind. -/
def name : ErrorKind → String
  | invalidOperator => "InvalidOperator"
  | missingProperties => "MissingProperties"
  | invalidChildrenType => "InvalidChildrenType"
  | fragmentNotDefined => "FragmentNotDefined"
  | invalidOutputType => "InvalidOutputType"
  | operatorRuntimeError => "OperatorRuntimeError"
  | typeCheckFailure => "TypeCheckFailure"

end ErrorKind

/-- A failure as it leaves a node. -/
structure Failure where
  /-- What kind of failure it is. -/
  kind : ErrorKind
  /-- The text shown. -/
  message : String
  deriving DecidableEq, Repr

namespace Failure

/-- Messages of this length are cut. -/
def maxLength : Nat := 200

/-- The same failure with its message cut. -/
def cut (f : Failure) : Failure := ⟨f.kind, Text.shortenString maxLength f.message⟩

end Failure

/-! ### Host clients -/

/-- Why a request to a host client gave no answer. -/
inductive BackendError where
  /-- There is no client for HTTP requests. -/
  | noHttpClient
  /-- There is no connection for database queries. -/
  | noSqlConnection
  /-- There is no connection for GraphQL queries. -/
  | noGraphQLConnection
  /-- The server answered with an error status. -/
  | http (status : Nat) (reason : String)
  /-- The server was not reached. -/
  | network (text : String)
  /-- The database refused the query. -/
  | sql (text : String)
  /-- The first error that a GraphQL response reports. -/
  | graphQL (text : String)
  /-- The answer was not understood. -/
  | invalidResponse (text : String)
  deriving DecidableEq, Repr

namespace BackendError

/-- The text of the error. -/
def message : BackendError → String
  | noHttpClient => "No HTTP client provided"
  | noSqlConnection => "No SQL connection provided"
  | noGraphQLConnection => "No GraphQL connection provided"
  | http status reason => "HTTP error: " ++ toString status ++ " " ++ reason
  | network text => "Network error: " ++ text
  | sql text => "SQL error: " ++ text
  | graphQL text => text
  | invalidResponse text => "Invalid response: " ++ text

end BackendError

/-! ### Operators -/

/-- Why an operator computed no value. -/
inductive OperatorFault where
  /-- Operands of the wrong type, one line each. -/
  | typeCheck (lines : String)
  /-- A node inside failed and had no fallback. -/
  | nested (failure : Failure)
  /-- A host client gave no answer. -/
  | backend (error : BackendError)
  /-- A host function failed. -/
  | function (text : String)
  /-- Fewer values than the operator needs. -/
  | notEnoughValues
  /-- A value that is no number. -/
  | notAllNumbers
  /-- A divisor of zero. -/
  | divisionByZero
  /-- A pattern that is not well formed. -/
  | invalidPattern (reason : String)
  /-- No branch for the value. -/
  | noMatch (shown : String)
  /-- A branch without a value among the children. -/
  | oddBranches
  /-- A key without a value among the children. -/
  | oddEntries
  /-- No host function of this path. -/
  | noFunction (path : String)
  /-- The data have nothing at this path. -/
  | noSuchProperty (path : String)
  /-- The response has nothing at this path. -/
  | noReturnProperty (path : String)
  /-- The data of the response have nothing at this path. -/
  | noReturnNode (path : String)
  deriving DecidableEq, Repr

namespace OperatorFault

/-- The kind of failure it leads to. -/
def kind : OperatorFault → ErrorKind
  | typeCheck _ => .typeCheckFailure
  | nested failure => failure.kind
  | _ => .operatorRuntimeError

/-- The text of the fault. -/
def message : OperatorFault → String
  | typeCheck lines => lines
  | nested failure => failure.message
  | backend error => error.message
  | function text => text
  | notEnoughValues => "- Not enough values provided"
  | notAllNumbers => "- Not all values are numbers"
  | divisionByZero => "Division by zero!"
  | invalidPattern reason => "Regex error: " ++ reason
  | noMatch shown => "No match found for " ++ shown
  | oddBranches => "Even number of children required after the match expression"
  | oddEntries => "Even number of children required to make key/value pairs"
  | noFunction path => "No function found: \"" ++ path ++ "\""
  | noSuchProperty path =>
    "Unable to extract object property\nLooking for property: " ++ path
  | noReturnProperty path => "Unable to extract return property: " ++ path
  | noReturnNode path => "Unable to extract return node: " ++ path

end OperatorFault

/-! ### Nodes -/

/-- Why a node has no value of its own. -/
inductive NodeFault where
  /-- The operator name, as shown, does not resolve. -/
  | invalidOperator (shown : String)
  /-- Properties the operator needs are not there. -/
  | missingProperties (operator : OperatorKind) (names : List String)
  /-- `children` did not evaluate to an array. -/
  | childrenNotArray (operator : OperatorKind)
  /-- There is no fragment of this name. -/
  | fragmentNotDefined (name : String)
  /-- There is no conversion of this name. -/
  | invalidOutputType (operator : OperatorKind) (shown : String)
  /-- The operator failed. -/
  | operator (operator : OperatorKind) (fault : OperatorFault)
  deriving DecidableEq, Repr

namespace NodeFault

/-- The failure of a cause.  A failure from inside the node already says where it comes from and is
passed on unchanged. -/
def failure : NodeFault → Failure
  | invalidOperator shown => ⟨.invalidOperator, "Invalid operator: " ++ shown⟩
  | missingProperties k names =>
    ⟨.missingProperties,
      "Operator: " ++ k.name ++ "\n- Missing properties: " ++ Text.joinStrings ", " names⟩
  | childrenNotArray k =>
    ⟨.invalidChildrenType,
      "Operator: " ++ k.name ++ "\n- Property \"children\" is not of type: array"⟩
  | fragmentNotDefined name => ⟨.fragmentNotDefined, "Fragment not defined: " ++ name⟩
  | invalidOutputType k shown =>
    ⟨.invalidOutputType, "Operator: " ++ k.name ++ "\n- Invalid output type: " ++ shown⟩
  | operator _ (.nested failure) => failure
  | operator k fault => ⟨fault.kind, "Operator: " ++ k.name ++ ":\n" ++ fault.message⟩

end NodeFault

end JsonExpr
