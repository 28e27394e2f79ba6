import JsonExpr.Evaluation

/-!
# The engine

An engine holds options, a result cache and the history of what its host was asked.  Options may be
changed for good, or laid over those of the engine for one evaluation; the cache and the history are
shared by all evaluations.

Main definitions:

* `JsonExpr.Engine` — options, cache and history;
* `JsonExpr.Engine.evaluateWithin` — evaluation to a given depth, with options of its own;
* `JsonExpr.Engine.evaluateWith`, `JsonExpr.Engine.evaluate` — evaluation, with and without options
  of its own;
* `JsonExpr.Engine.update` — options changed for good;
* `JsonExpr.Engine.preprocess` — shorthand expanded without evaluation;
* `JsonExpr.Engine.operators`, `JsonExpr.Engine.fragments`, `JsonExpr.Engine.functions` — what
  expressions can use;
* `JsonExpr.evaluateOnce` — one evaluation by an engine of its own.
-/

set_option autoImplicit false

namespace JsonExpr

/-- An evaluator of expressions. -/
structure Engine where
  /-- The options. -/
  options : Options
  /-- The operators in effect. -/
  registry : Registry
  /-- Results of host calls. -/
  cache : ResultCache
  /-- What the host was asked so far. -/
  history : History

namespace Engine

/-- The version of the expression language. -/
def version : String := "0.1.0"

/-- How deep nodes may lead to nodes. -/
def depthLimit : Nat := 1000000

/-- The operators that options leave in effect. -/
def registryOf (options : Options) : Registry :=
  match options.excludeOperators with
  | some names => Registry.without names
  | none => Registry.full

/-- An engine that has evaluated nothing yet. -/
def new (options : Options) : Engine where
  options := options
  registry := registryOf options
  cache := ResultCache.empty (options.maxCacheSize.getD ResultCache.defaultBound)
  history := []

/-! ### Options -/

/-- The cache with the bound that options ask for. -/
def cacheWith (e : Engine) (overrides : Options) : ResultCache :=
  match overrides.maxCacheSize with
  | some bound => e.cache.setBound bound
  | none => e.cache

/-- The engine with options laid over its own for good. -/
def update (e : Engine) (newer : Options) : Engine :=
  let options := e.options.merge newer
  { e with options := options, registry := registryOf options, cache := e.cacheWith newer }

/-- The options and operators in effect when options are laid over those of the engine.  The
operators change only if the overriding options say which are left out. -/
def envWith (e : Engine) (overrides : Options) : Env :=
  let options := e.options.merge overrides
  ⟨options, if overrides.excludeOperators.isSome then registryOf options else e.registry⟩

/-! ### Evaluation -/

/-- The outcome of an evaluation: `none` if nodes lead to nodes too deep. -/
abbrev Outcome := Option (Except Failure Json)

/-- An expression with shorthand expanded, if shorthand is in use. -/
def prepare (env : Env) (expression : Json) : Json :=
  if env.options.expandsShorthand then
    Shorthand.preprocess ⟨env.registry, env.options.fragments⟩ expression
  else expression

/-- The outcome of an expression, with options laid over those of the engine for this evaluation,
and the engine afterwards, where nodes may lead to nodes at most `depth` deep.  A new bound of the
cache stays. -/
def evaluateWithin (e : Engine) (depth : Nat) (expression : Json) (overrides : Options) :
    Outcome × Engine :=
  let env := e.envWith overrides
  let (outcome, w) :=
    eval env depth (prepare env expression) ⟨[], e.cacheWith overrides, e.history⟩
  (outcome, { e with cache := w.cache, history := w.history })

/-- The outcome of an expression, with options laid over those of the engine for this evaluation,
and the engine afterwards. -/
def evaluateWith (e : Engine) (expression : Json) (overrides : Options) : Outcome × Engine :=
  e.evaluateWithin depthLimit expression overrides

/-- The outcome of an expression and the engine afterwards. -/
def evaluate (e : Engine) (expression : Json) : Outcome × Engine :=
  e.evaluateWith expression Options.empty

/-- The outcomes of expressions, one after the other, and the engine afterwards. -/
def evaluateAll (e : Engine) : List Json → List Outcome × Engine
  | [] => ([], e)
  | expression :: rest =>
    let (outcome, e) := e.evaluate expression
    let (outcomes, e) := e.evaluateAll rest
    (outcome :: outcomes, e)

/-- An expression with shorthand expanded. -/
def preprocess (e : Engine) (expression : Json) : Json :=
  Shorthand.preprocess ⟨e.registry, e.options.fragments⟩ expression

/-! ### What expressions can use -/

/-- The schemas of the operators in effect. -/
def operators (e : Engine) : List OperatorSchema := e.registry.schemas

/-- The names of the fragments, each with its metadata. -/
def fragments (e : Engine) : Dict FragmentMetadata :=
  Dict.mapValues (fun definition =>
    (FragmentDefinition.ofJson definition).metadata.getD FragmentMetadata.none)
    (e.options.fragments.getD [])

/-- The paths of the host functions, each with the number of arguments it declares. -/
def functions (e : Engine) : Dict Nat :=
  Dict.mapValues (·.arity) (e.options.functions.getD [])

end Engine

/-- The outcome of an expression under the given options, by an engine of its own. -/
def evaluateOnce (expression : Json) (options : Options) : Engine.Outcome :=
  ((Engine.new options).evaluate expression).1

end JsonExpr
