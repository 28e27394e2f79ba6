import JsonExpr.Coercion
import JsonExpr.Evaluation.Basic

/-!
# Operators that choose what they evaluate

Conjunction and disjunction stop at the operand that decides them, a conditional evaluates one of
its branches, and a match the branch it selects.  When the operands of such an operator are written
out, those that are not reached are not evaluated; when they are computed by a node, that node is
evaluated as a whole.

Main definitions:

* `JsonExpr.Branching.scan`, `JsonExpr.Branching.meets` — whether some operand has a given truth
  value;
* `JsonExpr.Branching.conditional` — one of two branches;
* `JsonExpr.Branching.entryFor`, `JsonExpr.Branching.select` — the branch for a value;
* `JsonExpr.Branching.matching` — the branch for the value of an expression;
* `JsonExpr.Branching.buildObject` — an object from its entries.
-/

set_option autoImplicit false

namespace JsonExpr.Branching

/-! ### Conjunction and disjunction -/

/-- Whether some node has the truth value `wanted`; nodes after the first such are not evaluated. -/
def scan (ev : Evaluator OperatorFault) (wanted : Bool) : List Json → Run OperatorFault Bool
  | [] => .value false
  | node :: rest =>
    .andThen (ev node) fun v => if v.truthy = wanted then .value true else scan ev wanted rest

/-- Whether some operand has the truth value `wanted`. -/
def meets (env : Env) (ev : Evaluator OperatorFault) (k : OperatorKind) (wanted : Bool)
    (props : Props) : Run OperatorFault Bool :=
  match Dict.get? props "values" with
  | some (.array nodes) => scan ev wanted nodes
  | _ => do
    let operands ← ev.operands props ["values"]
    Run.ofExcept (env.checkOperands k operands)
    pure (((Operands.array? operands "values").getD []).any fun v => v.truthy == wanted)

/-- Whether no operand is false. -/
def conjunction (env : Env) (ev : Evaluator OperatorFault) (props : Props) :
    Run OperatorFault Json := do
  let found ← meets env ev .and false props
  pure (.bool !found)

/-- Whether some operand is true. -/
def disjunction (env : Env) (ev : Evaluator OperatorFault) (props : Props) :
    Run OperatorFault Json := do
  let found ← meets env ev .or true props
  pure (.bool found)

/-! ### Conditionals -/

/-- The property that a condition selects. -/
def branchName (condition : Option Json) : String :=
  if condition.any Json.truthy then "valueIfTrue" else "valueIfFalse"

/-- The branch that the condition selects. -/
def conditional (env : Env) (ev : Evaluator OperatorFault) (props : Props) :
    Run OperatorFault Json := do
  let condition ← ev.optional (Dict.get? props "condition")
  Run.ofExcept (env.check [⟨some "condition", condition, .basic .any⟩])
  let v ← ev.optional (Dict.get? props (branchName condition))
  pure (Json.ofOption v)

/-! ### Matches -/

/-- The entry for a value: the first whose `match` evaluates to it.  Values that are no objects, or
have no `match`, are passed over. -/
def entryFor (ev : Evaluator OperatorFault) (value : Json) :
    List Json → Run OperatorFault (Option Json)
  | [] => .value none
  | entry :: rest =>
    match entry.field? "match" with
    | none => entryFor ev value rest
    | some candidate =>
      .andThen (ev candidate) fun c =>
        if c.sameValue value then .value (some entry) else entryFor ev value rest

/-- The branch for a value: in an object under its text, in an array by comparison. -/
def select (ev : Evaluator OperatorFault) (value : Json) :
    Json → Run OperatorFault (Option Json)
  | .object branches => .value (Dict.get? branches value.toText)
  | .array entries =>
    .andThen (entryFor ev value entries) fun entry =>
      .value (entry.bind fun e => e.field? "value")
  | _ => .value none

/-- Whether branches are written out, and not computed by a node. -/
def isLiteral (branches : Json) : Bool :=
  (branches.isObject || branches.isArray) && !isNode branches

/-- The properties that are no branches when the properties of the node are the branches. -/
def isBranchName (key : String) : Bool :=
  key != "matchExpression" && key != "branches" && key != "type" && key != "useCache"

/-- The branches as they are written, or as they are computed. -/
def branches (ev : Evaluator OperatorFault) (props : Props) : Run OperatorFault (Option Json) :=
  match Dict.get? props "branches" with
  | none => .value none
  | some b => if isLiteral b then .value (some b) else ev.optional (some b)

/-- The declared types of the expression and of the branches, as they are checked. -/
def matchingItems (value branches : Option Json) : List TypeCheck.Item :=
  let expected := OperatorKind.matching.schema.parameters.map ParamSchema.effectiveType
  List.zipWith (fun operand type => ⟨some operand.1, operand.2, type⟩)
    [("matchExpression", value), ("branches", branches)] expected

/-- The branch for the value of the expression. -/
def matching (env : Env) (ev : Evaluator OperatorFault) (props : Props) :
    Run OperatorFault Json := do
  let found ← ev.optional (Dict.get? props "matchExpression")
  let given ← branches ev props
  Run.ofExcept (env.check (matchingItems found given))
  let value := Json.ofOption found
  match ← select ev value (given.getD (.object (Dict.filterKeys isBranchName props))) with
  | some branch => ev branch
  | none => Run.fail (.noMatch value.toText)

/-! ### Objects -/

/-- The key and the value of an entry, if it has both. -/
def entry? (v : Json) : Option (Json × Json) :=
  match v.field? "key", v.field? "value" with
  | some key, some value => some (key, value)
  | _, _ => none

/-- An object from keys and values; of a repeated key the last value counts. -/
def collect (entries : List (Json × Json)) : Json :=
  .object (Dict.ofPairs (entries.map fun entry => (entry.1.toText, entry.2)))

/-- The key and then the value of an entry, evaluated. -/
def evalEntry (ev : Evaluator OperatorFault) (entry : Json × Json) :
    Run OperatorFault (Json × Json) := do
  let key ← ev entry.1
  let value ← ev entry.2
  pure (key, value)

/-- The object that the entries describe; what is no entry is passed over. -/
def buildObject (env : Env) (ev : Evaluator OperatorFault) (props : Props) :
    Run OperatorFault Json :=
  match Dict.get? props "properties" with
  | some (.array items) => do
    let entries ← Run.traverse (evalEntry ev) (items.filterMap entry?)
    pure (collect entries)
  | _ => do
    let operands ← ev.operands props ["properties"]
    Run.ofExcept (env.checkOperands .buildObject operands)
    pure (collect (((Operands.array? operands "properties").getD []).filterMap entry?))

end JsonExpr.Branching
