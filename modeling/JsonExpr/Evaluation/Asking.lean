import JsonExpr.Evaluation.Basic
import JsonExpr.Operator.Request

/-!
# Operators that ask the host

A request is put together from operands that were evaluated and checked.  What the host is asked
enters the history before the answer is looked at, so that a request which fails is kept as well.  A
result may be cached under a key that stands for the request; then the host is asked only if the
cache has nothing under that key.

Main definitions:

* `JsonExpr.HostFunction.ask` and its companions — asking one part of the host;
* `JsonExpr.Asking.cached` — a computation behind the cache;
* `JsonExpr.Asking.request`, `JsonExpr.Asking.graphQL` — requests over HTTP;
* `JsonExpr.Asking.sql` — database queries;
* `JsonExpr.Asking.function` — calls of host functions.
-/

set_option autoImplicit false

namespace JsonExpr

/-! ### Asking one part of the host -/

/-- Calls a function that is registered under the given path. -/
def HostFunction.ask (f : HostFunction) (path : String) (args : List Json) :
    Run OperatorFault Json := fun w =>
  (some ((f.respond (History.callsOf w.history f.registration) args).mapError .function),
    { w with history := .call f.registration path args :: w.history })

/-- Sends a request. -/
def HttpClient.ask (c : HttpClient) (request : HttpRequest) : Run OperatorFault Json := fun w =>
  (some ((c.respond (History.requestsTo w.history c.client) request).mapError .backend),
    { w with history := .http c.client request :: w.history })

/-- Runs a query. -/
def SqlConnection.ask (c : SqlConnection) (query : SqlQuery) :
    Run OperatorFault (List (Dict Json)) := fun w =>
  (some ((c.respond (History.queriesOf w.history c.connection) query).mapError .backend),
    { w with history := .sql c.connection query :: w.history })

namespace Asking

/-! ### The cache -/

/-- The result that is kept under a key, or else that of the computation, which is then kept. -/
def cached (key : String) (m : Run OperatorFault Json) : Run OperatorFault Json := fun w =>
  match w.cache.hit? key with
  | some (v, cache) => (some (.ok v), { w with cache := cache })
  | none =>
    match m w with
    | (some outcome, w) => (some outcome, { w with cache := w.cache.settle key outcome })
    | (none, w) => (none, w)

/-- A computation behind the cache if results of this node are cached. -/
def cachedIf (env : Env) (operands : Operands) (default : Bool) (key : String)
    (m : Run OperatorFault Json) : Run OperatorFault Json :=
  if env.options.caches (Operands.value? operands "useCache") default then cached key m else m

/-! ### Requests over HTTP -/

/-- An operand that holds named values: written out, its values are evaluated; otherwise it is
computed by a node. -/
def namedValues (ev : Evaluator OperatorFault) : Option Json → Run OperatorFault (Option Json)
  | some (.object entries) =>
    if isNode (.object entries) then ev.optional (some (.object entries))
    else .andThen (ev.fields entries) fun entries => .value (some (.object entries))
  | node => ev.optional node

/-- The operands of a request: those of the given names, then those that hold named values. -/
def requestOperands (ev : Evaluator OperatorFault) (props : Props) (names named : List String) :
    Run OperatorFault Operands := do
  let operands ← ev.operands props names
  let more ← Run.traverse (fun name =>
    .andThen (namedValues ev (Dict.get? props name)) fun v => .value (name, v)) named
  pure (operands ++ more)

/-- What stands behind an option that has to be set. -/
def need {α : Type} (o : Option α) (otherwise : BackendError) : Run OperatorFault α :=
  match o with
  | some a => .value a
  | none => Run.fail (.backend otherwise)

/-- A request over HTTP. -/
def request (env : Env) (ev : Evaluator OperatorFault) (k : OperatorKind) (method : HttpMethod)
    (props : Props) : Run OperatorFault Json := do
  let operands ← requestOperands ev props ["url", "returnProperty", "useCache"]
    ["parameters", "headers"]
  Run.ofExcept (env.checkOperands k operands)
  let client ← need env.options.httpClient .noHttpClient
  let base := env.options.baseEndpoint
  cachedIf env operands true (Request.httpKey method base operands) do
    let response ← client.ask (Request.ofHttp method base env.options.headers operands)
    Run.ofExcept (Request.httpResult (Operands.string? operands "returnProperty") response)

/-- A GraphQL query.  An address of `null` counts as no address. -/
def graphQL (env : Env) (ev : Evaluator OperatorFault) (props : Props) :
    Run OperatorFault Json := do
  let found ← requestOperands ev props ["query", "url", "returnNode", "useCache"]
    ["variables", "headers"]
  let operands := if (Operands.value? found "url").any Json.isNull
    then Dict.insert found "url" none else found
  Run.ofExcept (env.checkOperands .graphQL operands)
  let connection ← need env.options.graphQLConnection .noGraphQLConnection
  let client ← need env.options.httpClient .noHttpClient
  cachedIf env operands true (Request.graphQLKey connection operands) do
    let response ← client.ask (Request.ofGraphQL connection env.options.headers operands)
    Run.ofExcept (Request.graphQLResult (Operands.string? operands "returnNode") response)

/-! ### Database queries -/

/-- A database query. -/
def sql (env : Env) (ev : Evaluator OperatorFault) (props : Props) : Run OperatorFault Json := do
  let operands ← ev.operands props ["query", "values", "single", "flatten", "type", "useCache"]
  Run.ofExcept (env.checkOperands .pgSql operands)
  let connection ← need env.options.sqlConnection .noSqlConnection
  cachedIf env operands true (Request.sqlKey operands) do
    let found ← connection.ask (Request.ofSql operands)
    pure ((RowShape.ofOperands operands).apply found)

/-! ### Host functions -/

/-- The key under which the result of a call is kept. -/
def callKey (path : String) (args : List Json) : String := ResultCache.key (.string path :: args)

/-- A call of a host function. -/
def function (env : Env) (ev : Evaluator OperatorFault) (props : Props) :
    Run OperatorFault Json := do
  let operands ← ev.operands props ["functionPath", "args", "useCache"]
  Run.ofExcept (env.checkOperands .customFunctions operands)
  let path := (Operands.string? operands "functionPath").getD ""
  let args := (Operands.array? operands "args").getD []
  match FunctionMap.find? (env.options.functions.getD []) path with
  | none => Run.fail (.noFunction path)
  | some (registered, f) =>
    cachedIf env operands false (callKey path args) (f.ask registered args)

end Asking

end JsonExpr
