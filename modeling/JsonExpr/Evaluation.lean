import JsonExpr.Evaluation.Asking
import JsonExpr.Evaluation.Binding
import JsonExpr.Evaluation.Branching
import JsonExpr.Fragment
import JsonExpr.Operator.Strict
import JsonExpr.Shorthand

/-!
# Evaluation

How a node gets its value:

1. a string that holds a node as JSON text is evaluated as that node, if strings are read;
2. an array is evaluated element by element;
3. a fragment node is evaluated as the node it stands for;
4. an operator node declares its bindings, gathers its properties, computes its value and puts it
   through the conversion it asks for;
5. the name of a binding has the value of the binding, and any other leaf is its own value.

Whatever goes wrong inside an operator node is made good by the fallback of the node, which is not
evaluated otherwise.  Without one the failure leaves the node, or becomes its message if failures
are shown.

The rules are written for one node, over an evaluator for the nodes that its evaluation leads to;
`eval` closes the circle with a bound on how deep nodes lead to nodes.

Main definitions:

* `JsonExpr.Evaluation.fallbackOr` — what becomes of a failure;
* `JsonExpr.Evaluation.compute` — what an operator computes from its properties;
* `JsonExpr.Evaluation.operatorNode`, `JsonExpr.Evaluation.fragmentNode` — the two kinds of node;
* `JsonExpr.Evaluation.node` — the rules for one node;
* `JsonExpr.eval` — nodes evaluated to a given depth.
-/

set_option autoImplicit false

namespace JsonExpr

namespace Evaluation

/-! ### Failures -/

/-- What becomes of a failure: the fallback, if there is one, else its message or the failure
itself, cut to length. -/
def fallbackOr (env : Env) (ev : Evaluator Failure) (fallback : Option Json) (failure : Failure) :
    Run Failure Json :=
  match fallback with
  | some f => ev f
  | none =>
    if env.options.showsErrors then .value (.string failure.cut.message) else .fail failure.cut

/-! ### Operators -/

/-- What an operator computes from all its operands. -/
def strict (env : Env) (ev : Evaluator OperatorFault) (k : OperatorKind) (op : StrictOperator)
    (props : Props) : Run OperatorFault Json := do
  let operands ← ev.operands props op.operands
  Run.ofExcept (env.checkOperands k operands)
  Run.ofExcept (op.compute env.options operands)

/-- What an operator computes from its properties. -/
def compute (env : Env) (ev : Evaluator OperatorFault) (k : OperatorKind) (props : Props) :
    Run OperatorFault Json :=
  match k.operation with
  | .strict op => strict env ev k op props
  | .conjunction => Branching.conjunction env ev props
  | .disjunction => Branching.disjunction env ev props
  | .conditional => Branching.conditional env ev props
  | .matching => Branching.matching env ev props
  | .buildObject => Branching.buildObject env ev props
  | .request method => Asking.request env ev k method props
  | .graphQL => Asking.graphQL env ev props
  | .sql => Asking.sql env ev props
  | .function => Asking.function env ev props

/-- The evaluator for the nodes inside an operator; their failures are passed on as they are. -/
def inside (ev : Evaluator Failure) : Evaluator OperatorFault := fun v =>
  (ev v).mapFailure .nested

/-! ### Operator nodes -/

/-- The children of a node: an array as it is written, or the array that a node computes. -/
def childList (ev : Evaluator Failure) (k : OperatorKind) : Json → Run Failure (List Json)
  | .array items => .value items
  | node => do
    match ← ev node with
    | .array items => pure items
    | _ => .fail (NodeFault.childrenNotArray k).failure

/-- The properties of a node with its children, if it has any, put in their places. -/
def gather (ev : Evaluator Failure) (k : OperatorKind) (node : Dict Json) : Run Failure Props :=
  let props := ownProps k.schema node
  match Dict.get? node Key.children with
  | none => .value props
  | some children => do
    let items ← childList ev k children
    Run.ofExcept ((placeChildren k items props).mapError fun fault =>
      (NodeFault.operator k fault).failure)

/-- The fallback of a node: the one among its properties, where children may have put it, or else
its own. -/
def fallbackOf (node : Dict Json) (props : Props) : Option Json :=
  (Dict.get? props Key.fallback).or (Dict.get? node Key.fallback)

/-- The properties without the fallback. -/
def withoutFallback (props : Props) : Props :=
  if Dict.hasKey props Key.fallback then Dict.swapRemove props Key.fallback else props

/-- The properties an operator needs and does not have. -/
def missing (k : OperatorKind) (props : Props) : List String :=
  k.schema.requiredNames.filter fun name => !Dict.hasKey props name

/-- The conversion that a node asks for, not yet evaluated. -/
def conversionOf (node : Dict Json) : Option Json :=
  (Dict.get? node Key.outputType).or (Dict.get? node Key.type)

/-- The result of a node put through the conversion that the node asks for. -/
def convert (env : Env) (ev : Evaluator Failure) (k : OperatorKind) (node : Dict Json)
    (fallback : Option Json) (result : Json) : Run Failure Json :=
  match conversionOf node with
  | none => .value result
  | some conversion => do
    match ← (ev conversion).attempt with
    | .error failure => fallbackOr env ev fallback failure
    | .ok name =>
      match OutputType.ofName? name.toText with
      | some type => pure (type.apply result)
      | none => fallbackOr env ev fallback (NodeFault.invalidOutputType k name.toText).failure

/-- What an operator computes from the properties of a node, or what becomes of its fault. -/
def computeOr (env : Env) (ev : Evaluator Failure) (k : OperatorKind) (fallback : Option Json)
    (props : Props) : Run Failure Json := do
  match ← (compute env (inside ev) k props).attempt with
  | .ok v => pure v
  | .error fault => fallbackOr env ev fallback (NodeFault.operator k fault).failure

/-- The value of an operator node, once its properties are gathered. -/
def apply (env : Env) (ev : Evaluator Failure) (k : OperatorKind) (node : Dict Json)
    (fallback : Option Json) (props : Props) : Run Failure Json :=
  match missing k props with
  | name :: names =>
    fallbackOr env ev fallback (NodeFault.missingProperties k (name :: names)).failure
  | [] => do
    let result ← computeOr env ev k fallback props
    convert env ev k node fallback result

/-- The value of a node with a known operator. -/
def runOperator (env : Env) (ev : Evaluator Failure) (k : OperatorKind) (node : Dict Json) :
    Run Failure Json := do
  match ← (gather ev k node).attempt with
  | .error failure => fallbackOr env ev (Dict.get? node Key.fallback) failure
  | .ok props => apply env ev k node (fallbackOf node props) (withoutFallback props)

/-- The operator that a node names. -/
def operatorOf? (env : Env) (node : Dict Json) : Option OperatorKind :=
  ((Dict.get? node Key.operator).bind Json.asString?).bind env.registry.resolve?

/-- The operator name of a node as it appears in a message. -/
def shownName (node : Dict Json) : String :=
  match Dict.get? node Key.operator with
  | some v => v.display
  | none => ""

/-- The value of an operator node whose bindings are in scope. -/
def operatorBody (env : Env) (ev : Evaluator Failure) (node : Dict Json) : Run Failure Json :=
  match operatorOf? env node with
  | some k => runOperator env ev k node
  | none =>
    fallbackOr env ev (Dict.get? node Key.fallback)
      (NodeFault.invalidOperator (shownName node)).failure

/-- The value of an operator node, inside which its bindings are in scope. -/
def operatorNode (env : Env) (ev : Evaluator Failure) (node : Dict Json) : Run Failure Json :=
  Run.withFrame (Frame.ofNode node) (operatorBody env ev node)

/-! ### Fragment nodes -/

/-- The template of a fragment definition, with shorthand expanded if shorthand is in use. -/
def templateOf (env : Env) (definition : Json) : Json :=
  let template := (FragmentDefinition.ofJson definition).template
  if env.options.expandsShorthand then
    Shorthand.preprocess ⟨env.registry, env.options.fragments⟩ template
  else template

/-- The parameters of a fragment node, evaluated as a whole if a node computes them. -/
def parametersOf (ev : Evaluator Failure) (node : Dict Json) : Run Failure (Option Json) :=
  match Dict.get? node Key.parameters with
  | some p => if isNode p then ev.optional (some p) else .value (some p)
  | none => .value none

/-- The name of the fragment that a node names. -/
def fragmentName (ev : Evaluator Failure) (node : Dict Json) : Run Failure String := do
  let name ← ev.optional (Dict.get? node Key.fragment)
  pure (match name with
    | some v => v.toText
    | none => "")

/-- The value of a fragment node.  A template that is no operator node is the value itself. -/
def fragmentNode (env : Env) (ev : Evaluator Failure) (node : Dict Json) : Run Failure Json := do
  let name ← fragmentName ev node
  match env.options.fragments.bind fun fragments => Dict.get? fragments name with
  | none =>
    fallbackOr env ev (Dict.get? node Key.fallback) (NodeFault.fragmentNotDefined name).failure
  | some definition =>
    let parameters ← parametersOf ev node
    match templateOf env definition with
    | .object template =>
      if Dict.hasKey template Key.operator then
        ev (FragmentDefinition.instantiate node template parameters)
      else pure (.object template)
    | template => pure template

/-! ### Nodes -/

/-- The node that a string holds as JSON text. -/
def nodeInString? (s : String) : Option Json := (Json.parse? s).filter isNode

/-- The value of a leaf. -/
def leaf (env : Env) (ev : Evaluator Failure) : Json → Run Failure Json
  | .string s =>
    if isBindingName s then do
      let v ← ev.reference s
      pure (v.getD (.string s))
    else .value (.string s)
  | .object fields =>
    if env.options.entersObjects then do
      let fields ← ev.fields fields
      pure (.object fields)
    else .value (.object fields)
  | v => .value v

/-- The value of a node, by its kind. -/
def byKind (env : Env) (ev : Evaluator Failure) : Json → Run Failure Json
  | .array items => do
    let items ← ev.all items
    pure (.array items)
  | v =>
    match classify v with
    | .fragment fields => fragmentNode env ev fields
    | .operator fields => operatorNode env ev fields
    | .leaf => leaf env ev v

/-- The rules for one node. -/
def node (env : Env) (ev : Evaluator Failure) (v : Json) : Run Failure Json :=
  match (v.asString?.filter fun _ => env.options.readsStrings).bind nodeInString? with
  | some held => ev held
  | none => byKind env ev v

theorem node_operator (env : Env) (ev : Evaluator Failure) {fields : Dict Json}
    (hfragment : Dict.hasKey fields Key.fragment = false)
    (hoperator : Dict.hasKey fields Key.operator = true) :
    node env ev (.object fields) = operatorNode env ev fields := by
  simp [node, byKind, classify, Json.asString?, hfragment, hoperator]

theorem node_fragment (env : Env) (ev : Evaluator Failure) {fields : Dict Json}
    (hfragment : Dict.hasKey fields Key.fragment = true) :
    node env ev (.object fields) = fragmentNode env ev fields := by
  simp [node, byKind, classify, Json.asString?, hfragment]

end Evaluation

/-- Nodes evaluated where nodes lead to nodes at most `depth` deep. -/
def eval (env : Env) : Nat → Evaluator Failure
  | 0 => fun _ => Run.exhausted
  | depth + 1 => Evaluation.node env (eval env depth)

end JsonExpr
