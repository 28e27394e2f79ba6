import JsonExpr.Operator.Children
import JsonExpr.Operator.Registry
import JsonExpr.Options
import JsonExpr.Run
import JsonExpr.TypeCheck

/-!
# Evaluating operands

An operator is given an evaluator for the nodes inside it and evaluates as many of them as it needs.
Operands are evaluated from left to right, and the first failure ends the evaluation of all.

Main definitions:

* `JsonExpr.Env` — the options and operators in effect;
* `JsonExpr.Evaluator` — how nodes are evaluated;
* `JsonExpr.Evaluator.optional`, `JsonExpr.Evaluator.all`, `JsonExpr.Evaluator.fields` — a node that
  may be absent, the elements of an array, the values of an object;
* `JsonExpr.Evaluator.operands` — the named properties of a node;
* `JsonExpr.Env.check`, `JsonExpr.Env.checkOperands` — the checks of evaluated operands.
-/

set_option autoImplicit false

namespace JsonExpr

/-- What stays the same throughout an evaluation. -/
structure Env where
  /-- The options in effect. -/
  options : Options
  /-- The operators in effect. -/
  registry : Registry

/-- A way to evaluate nodes. -/
abbrev Evaluator (ε : Type) := Json → Run ε Json

namespace Evaluator

variable {ε : Type}

/-- The value of a node that may be absent; what is absent stays absent. -/
def optional (ev : Evaluator ε) : Option Json → Run ε (Option Json)
  | none => .value none
  | some node => .andThen (ev node) fun v => .value (some v)

/-- The values of nodes. -/
def all (ev : Evaluator ε) (nodes : List Json) : Run ε (List Json) := Run.traverse ev nodes

/-- The entries of an object with their values evaluated. -/
def fields (ev : Evaluator ε) (entries : Dict Json) : Run ε (Dict Json) :=
  Run.traverse (fun entry => .andThen (ev entry.2) fun v => .value (entry.1, v)) entries

/-- The named properties, evaluated in the order of the names. -/
def operands (ev : Evaluator ε) (props : Props) (names : List String) : Run ε Operands :=
  Run.traverse (fun name =>
    .andThen (optional ev (Dict.get? props name)) fun v => .value (name, v)) names

end Evaluator

/-! ### Checks -/

namespace Env

/-- Checks evaluated values, unless operands go unchecked. -/
def check (env : Env) (items : List TypeCheck.Item) : Except OperatorFault Unit :=
  if env.options.skipsChecks then .ok () else (TypeCheck.check items).mapError .typeCheck

/-- Checks operands against the parameters of their operator. -/
def checkOperands (env : Env) (k : OperatorKind) (operands : Operands) :
    Except OperatorFault Unit :=
  env.check (Operands.checkItems operands k.schema)

end Env

end JsonExpr
