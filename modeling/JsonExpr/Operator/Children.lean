import JsonExpr.Coercion
import JsonExpr.Failure
import JsonExpr.Node
import JsonExpr.Operator.Catalog

/-!
# Operands by position

A node may give its operands as a list of children instead of by name.  Each operator says which
child becomes which property.

Main definitions:

* `JsonExpr.Props` — the properties of a node before evaluation;
* `JsonExpr.ownProps` — the properties of a node under their canonical names;
* `JsonExpr.placeChildren` — the properties with children put in their places.
-/

set_option autoImplicit false

namespace JsonExpr

/-- The properties of an operator node under their canonical names, not yet evaluated. -/
abbrev Props := Dict Json

/-! ### The properties of a node -/

/-- Whether a key is read by every node in the same way, and is no property of the operator. -/
def isReserved (key : String) : Bool :=
  key == Key.operator || key == Key.fallback || key == Key.outputType || key == Key.children ||
    isBindingName key

/-- Adds a property of a node.  An alias stands for its canonical name unless that is there; a name
that is no alias replaces what is there. -/
def addProp (schema : OperatorSchema) (props : Props) (key : String) (v : Json) : Props :=
  if isReserved key then props
  else
    match schema.canonicalName? key with
    | some canonical => Dict.insertIfNew props canonical v
    | none => Dict.insert props key v

/-- The properties of a node under their canonical names. -/
def ownProps (schema : OperatorSchema) (node : Dict Json) : Props :=
  node.foldl (fun props entry => addProp schema props entry.1 entry.2) []

/-! ### Children -/

namespace Children

/-- Writes each child to the name at its position. -/
def byNames (names : List String) (children : List Json) (props : Props) : Props :=
  Dict.extend props (names.zip children)

/-- Writes the first child to a name and the list of the others to another. -/
def headAndRest (first rest : String) (children : List Json) (props : Props) : Props :=
  Dict.insert (byNames [first] children props) rest (.array (children.drop 1))

/-- Pairs of children as objects with the given two keys; `none` if a child is left over. -/
def pairs? (first second : String) : List Json → Option (List Json)
  | [] => some []
  | [_] => none
  | a :: b :: rest => (pairs? first second rest).map (.object [(first, a), (second, b)] :: ·)

/-- The names in the first child, if it is an array. -/
def fieldNames : List Json → List String
  | .array names :: _ => names.map Json.toText
  | _ => []

/-- Values for names, in order; a name without a value gets `null`. -/
def zipNames : List String → List Json → List (String × Json)
  | [], _ => []
  | name :: names, [] => (name, .null) :: zipNames names []
  | name :: names, v :: vs => (name, v) :: zipNames names vs

/-- The parameters and the optional last child of a request, from a list of names, their values, and
perhaps one child more. -/
def requestFields (children : List Json) : Dict Json × Option Json :=
  let names := fieldNames children
  let rest := children.drop 1
  (Dict.ofPairs (zipNames names rest), (rest.drop names.length).head?)

/-- Writes the parameters of a request to `fields` and the last child, if there is one, to
`last`. -/
def placeRequest (fields last : String) (children : List Json) (props : Props) : Props :=
  let (parameters, extra) := requestFields children
  let props := Dict.insert props fields (.object parameters)
  match extra with
  | some v => Dict.insert props last v
  | none => props

end Children

open Children in
/-- The properties of a node with its children put in their places. -/
def placeChildren (k : OperatorKind) (children : List Json) (props : Props) :
    Except OperatorFault Props :=
  match k with
  | .and | .or | .equal | .notEqual | .plus | .subtract | .multiply | .divide | .greaterThan
  | .lessThan | .count => .ok (Dict.insert props "values" (.array children))
  | .conditional | .regex | .split | .passthru =>
    .ok (byNames (k.schema.parameters.map (·.name)) children props)
  | .objectProperties => .ok (byNames ["property", Key.fallback] children props)
  | .stringSubstitution => .ok (headAndRest "string" "substitutions" children props)
  | .pgSql => .ok (headAndRest "query" "values" children props)
  | .customFunctions => .ok (headAndRest "functionPath" "args" children props)
  | .get | .post =>
    .ok (placeRequest "parameters" "returnProperty" (children.drop 1)
      (byNames ["url"] children props))
  | .graphQL =>
    .ok (placeRequest "variables" "returnNode" (children.drop 2)
      (byNames ["query", "url"] children props))
  | .buildObject =>
    match pairs? "key" "value" children with
    | some entries => .ok (Dict.insert props "properties" (.array entries))
    | none => .error .oddEntries
  | .matching =>
    match pairs? "match" "value" (children.drop 1) with
    | some branches =>
      .ok (Dict.insert (byNames ["matchExpression"] children props) "branches" (.array branches))
    | none => .error .oddBranches

end JsonExpr
