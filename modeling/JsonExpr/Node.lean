import JsonExpr.Json.Basic

/-!
# Nodes

An object with a `fragment` key is a fragment node, any other object with an `operator` key is an
operator node, and everything else is a leaf.  A string that starts with a dollar sign and goes on
is the name of a binding.

Main definitions:

* `JsonExpr.NodeKind`, `JsonExpr.classify` — the three kinds of node;
* `JsonExpr.isOperatorNode`, `JsonExpr.isFragmentNode` — the two kinds apart;
* `JsonExpr.isBindingName` — names of bindings;
* `JsonExpr.Key.operator` and its companions — the properties with a meaning of their own.
-/

set_option autoImplicit false

namespace JsonExpr

/-! ### Properties with a meaning of their own -/

namespace Key

/-- Names the operator of a node. -/
def operator : String := "operator"

/-- Names the fragment of a node. -/
def fragment : String := "fragment"

/-- Holds the parameters of a fragment. -/
def parameters : String := "parameters"

/-- Holds operands by position. -/
def children : String := "children"

/-- Holds what stands in for a node that fails. -/
def fallback : String := "fallback"

/-- Names the conversion of the result. -/
def outputType : String := "outputType"

/-- Names the conversion of the result when `outputType` is not there. -/
def type : String := "type"

end Key

/-! ### Kinds of node -/

/-- What a node is. -/
inductive NodeKind where
  /-- A fragment node, with its properties. -/
  | fragment (fields : Dict Json)
  /-- An operator node, with its properties. -/
  | operator (fields : Dict Json)
  /-- Anything else. -/
  | leaf

/-- What a value is as a node. -/
def classify : Json → NodeKind
  | .object fields =>
    if Dict.hasKey fields Key.fragment then .fragment fields
    else if Dict.hasKey fields Key.operator then .operator fields
    else .leaf
  | _ => .leaf

/-- Whether a value is an object with an `operator` key. -/
def isOperatorNode (v : Json) : Bool := (v.field? Key.operator).isSome

/-- Whether a value is an object with a `fragment` key. -/
def isFragmentNode (v : Json) : Bool := (v.field? Key.fragment).isSome

/-- Whether a value is an object with either key. -/
def isNode (v : Json) : Bool := isOperatorNode v || isFragmentNode v

/-- Whether a string names a binding. -/
def isBindingName (name : String) : Bool :=
  match name.toList with
  | '$' :: _ :: _ => true
  | _ => false

end JsonExpr
