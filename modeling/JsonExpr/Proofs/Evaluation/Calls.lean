import JsonExpr.Engine
import JsonExpr.Host.Stock
import JsonExpr.Proofs.Cache
import Mathlib.Data.List.Forall2

/-!
# Calls behind the cache

The result of a call of a host function may be kept for the calls that follow, under a key that
joins the path and the arguments.  If functions answer by their arguments alone, then whatever the
cache has under a key is the answer to some earlier call with this key; the cache accounts for its
results by calls.  So a call that may use the cache gives the answer to a call with its key.

Calls are made by expressions.  Whatever the form of an expression that does nothing but make a
call, by name or by position, with literal or computed operands, its evaluation comes down to the
call of the function.

Main definitions:

* `JsonExpr.HostCall` — a path with arguments, and the key of the two;
* `JsonExpr.FunctionMap.Pure` — functions that answer by their arguments alone;
* `JsonExpr.FunctionMap.Accounts` — a cache in which every result is the answer to a call made;
* `JsonExpr.CallExpression` — an expression that does nothing but make a call.

Main results:

* `JsonExpr.Asking.function_cached` — **a call behind the cache gives the answer to a call with its
  key**, and the cache still accounts for its results;
* `JsonExpr.CallExpression.eval_eq` — what evaluation of such an expression comes to.
-/

set_option autoImplicit false

namespace JsonExpr

/-! ### Calls -/

/-- A call of a host function. -/
structure HostCall where
  /-- The path that the function is found by. -/
  path : String
  /-- The arguments. -/
  args : List Json

/-- The key under which the result of a call is kept. -/
def HostCall.key (c : HostCall) : String := Asking.callKey c.path c.args

/-- A function that answers by the arguments alone, whatever it was called with before. -/
def HostFunction.Pure (f : HostFunction) : Prop :=
  ∀ earlier args, f.respond earlier args = f.respond [] args

/-- Functions that answer by their arguments alone. -/
def FunctionMap.Pure (functions : FunctionMap) : Prop := ∀ entry ∈ functions, entry.2.Pure

/-- What a call comes to on a host that was not asked anything before. -/
def FunctionMap.answer (functions : FunctionMap) (c : HostCall) : Except OperatorFault Json :=
  match FunctionMap.find? functions c.path with
  | none => .error (.noFunction c.path)
  | some (_, f) => (f.respond [] c.args).mapError .function

/-- Every result in the cache is the answer to a call of the list with its key. -/
def FunctionMap.Accounts (functions : FunctionMap) (calls : List HostCall) (cache : ResultCache) :
    Prop :=
  cache.EachResult fun key v => ∃ c ∈ calls, c.key = key ∧ functions.answer c = .ok v

/-- The function that a path leads to is one of the functions. -/
theorem FunctionMap.mem_of_find? {functions : FunctionMap} {path registered : String}
    {f : HostFunction} (h : find? functions path = some (registered, f)) :
    (registered, f) ∈ functions := by
  unfold find? at h
  split at h
  · next g hg =>
    cases h
    exact Dict.mem_of_get? hg
  · split at h
    · cases h
    · obtain ⟨g, hg, heq⟩ := Option.map_eq_some_iff.mp h
      cases heq
      exact Dict.mem_of_get? hg

/-! ### Operands that were evaluated -/

/-- The operands of a call, evaluated, with the switch that says whether its result may be kept. -/
def HostCall.operands (c : HostCall) (cached : Bool) : Operands :=
  [("functionPath", some (.string c.path)), ("args", some (.array c.args)),
    ("useCache", some (.bool cached))]

/-- The operands of a call have the types that the operator declares. -/
theorem Env.checkOperands_call (env : Env) (c : HostCall) (cached : Bool) :
    env.checkOperands .customFunctions (c.operands cached) = .ok () := by
  unfold Env.checkOperands Env.check
  split
  · rfl
  · rfl

/-! ### Evaluation inside an operator -/

namespace Evaluation

variable {ev : Evaluator Failure} {v u : Json} {w w' : World}

/-- What has a value outside an operator has it inside. -/
theorem inside_of_ok (h : ev v w = (some (.ok u), w')) : inside ev v w = (some (.ok u), w') := by
  rw [inside, Run.mapFailure_apply, h]
  rfl

/-- What has a value inside an operator has it outside. -/
theorem eval_of_inside (h : inside ev v w = (some (.ok u), w')) : ev v w = (some (.ok u), w') := by
  rcases hrun : ev v w with ⟨_ | e | a, w₁⟩ <;> rw [inside, Run.mapFailure_apply, hrun] at h <;>
    cases h
  rfl

end Evaluation

namespace Asking

variable {env : Env} {ev : Evaluator OperatorFault} {props : Props} {w : World} {c : HostCall}
  {cached : Bool}

/-- A check that succeeds lets the evaluation go on. -/
theorem passes {check : Except OperatorFault Unit} (h : check = .ok ()) (w : World) :
    Run.ofExcept check w = (some (.ok ()), w) := by
  rw [h]
  rfl

/-- A call whose operands are at hand is that of the function its path leads to. -/
theorem function_of_operands
    (h : ev.operands props ["functionPath", "args", "useCache"] w =
      (some (.ok (c.operands cached)), w)) :
    function env ev props w =
      match FunctionMap.find? (env.options.functions.getD []) c.path with
      | none => (some (.error (.noFunction c.path)), w)
      | some (registered, f) =>
        if cached then Asking.cached c.key (f.ask registered c.args) w
        else f.ask registered c.args w := by
  have hcheck := passes (env.checkOperands_call c cached) w
  have hpath : (Operands.string? (c.operands cached) "functionPath").getD "" = c.path := rfl
  have hargs : (Operands.array? (c.operands cached) "args").getD [] = c.args := rfl
  have hcached : env.options.caches (Operands.value? (c.operands cached) "useCache") false =
      cached := rfl
  unfold function cachedIf
  rw [Run.bind_of_ok h, Run.bind_of_ok hcheck, hpath, hargs, hcached]
  rcases FunctionMap.find? (env.options.functions.getD []) c.path with _ | ⟨registered, f⟩
  · rfl
  · cases cached <;> rfl

/-- A result that is kept stands in for the computation. -/
theorem cached_of_result {key : String} {m : Run OperatorFault Json} {v : Json}
    (h : w.cache.result? key = some v) :
    Asking.cached key m w = (some (.ok v), { w with cache := w.cache.touch key }) := by
  rw [Asking.cached, ResultCache.hit?, h]
  rfl

/-- Without a result the computation is made, and what it comes to is settled. -/
theorem cached_of_no_result {key : String} {m : Run OperatorFault Json}
    {outcome : Except OperatorFault Json} {w₁ : World} (h : w.cache.result? key = none)
    (hm : m w = (some outcome, w₁)) :
    Asking.cached key m w =
      (some outcome, { w₁ with cache := w₁.cache.settle key outcome }) := by
  rw [Asking.cached, ResultCache.hit?, h, hm]
  rfl

/-- Behind a cache whose results have a property, a computation that leaves the cache alone comes to
a result with this property or to its own; if its own has the property as well, then the results
have it still. -/
theorem cached_eachResult {P : String → Json → Prop} (hw : w.cache.EachResult P) {key : String}
    {m : Run OperatorFault Json} {outcome : Except OperatorFault Json} {w₁ : World}
    (hm : m w = (some outcome, w₁)) (hcache : w₁.cache = w.cache)
    (hP : ∀ v, outcome = .ok v → P key v) :
    ((∃ v, (Asking.cached key m w).1 = some (.ok v) ∧ P key v) ∨
        (Asking.cached key m w).1 = some outcome) ∧
      (Asking.cached key m w).2.cache.EachResult P := by
  cases hmiss : w.cache.result? key with
  | some v =>
      rw [cached_of_result hmiss]
      exact ⟨.inl ⟨v, rfl, hw key v hmiss⟩, hw.touch key⟩
  | none =>
      rw [cached_of_no_result hmiss hm, hcache]
      exact ⟨.inr rfl, hw.settle hmiss hP⟩

/-- A pure function that is asked gives its answer and leaves the cache alone. -/
theorem ask_eq {functions : FunctionMap} (pure : functions.Pure) {registered : String}
    {f : HostFunction} (hf : FunctionMap.find? functions c.path = some (registered, f)) (w : World) :
    ∃ w₁, f.ask registered c.args w = (some (functions.answer c), w₁) ∧ w₁.cache = w.cache := by
  have hpure : f.Pure := pure _ (FunctionMap.mem_of_find? hf)
  refine ⟨(f.ask registered c.args w).2, ?_, rfl⟩
  rw [HostFunction.ask, hpure, FunctionMap.answer, hf]

/-- A call that does not use the cache gives the answer to the call. -/
theorem function_uncached (pure : FunctionMap.Pure (env.options.functions.getD []))
    (h : ev.operands props ["functionPath", "args", "useCache"] w =
      (some (.ok (c.operands false)), w)) :
    (function env ev props w).1 = some (FunctionMap.answer (env.options.functions.getD []) c) ∧
      (function env ev props w).2.cache = w.cache := by
  rw [function_of_operands h]
  split
  · next hf =>
    rw [FunctionMap.answer, hf]
    exact ⟨rfl, rfl⟩
  · next registered f hf =>
    obtain ⟨w₁, hask, hcache⟩ := ask_eq pure hf w
    rw [hask]
    exact ⟨rfl, hcache⟩

/-- A call that uses the cache gives the answer to a call with its key, and the cache still accounts
for its results. -/
theorem function_cached (pure : FunctionMap.Pure (env.options.functions.getD []))
    (h : ev.operands props ["functionPath", "args", "useCache"] w =
      (some (.ok (c.operands true)), w)) {calls : List HostCall} (hc : c ∈ calls)
    (hw : FunctionMap.Accounts (env.options.functions.getD []) calls w.cache) :
    (∃ c' ∈ calls, c'.key = c.key ∧ (function env ev props w).1 =
      some (FunctionMap.answer (env.options.functions.getD []) c')) ∧
      FunctionMap.Accounts (env.options.functions.getD []) calls (function env ev props w).2.cache := by
  rw [function_of_operands h]
  split
  · next hf =>
    refine ⟨⟨c, hc, rfl, ?_⟩, hw⟩
    rw [FunctionMap.answer, hf]
  · next registered f hf =>
    obtain ⟨w₁, hask, hcache⟩ := ask_eq pure hf w
    obtain ⟨hanswer, haccounts⟩ :=
      cached_eachResult hw hask hcache fun v hv => ⟨c, hc, rfl, hv⟩
    rw [if_pos rfl]
    refine ⟨?_, haccounts⟩
    rcases hanswer with ⟨v, h, c', hmem, hkey, hv⟩ | h
    · exact ⟨c', hmem, hkey, by rw [h, hv]⟩
    · exact ⟨c, hc, rfl, h⟩

end Asking

/-! ### Expressions that make a call -/

/-- A node that names an operator has the key of one. -/
theorem Evaluation.hasKey_operator {env : Env} {node : Dict Json} {k : OperatorKind}
    (h : Evaluation.operatorOf? env node = some k) : Dict.hasKey node Key.operator = true := by
  obtain ⟨name, hname, -⟩ := Option.bind_eq_some_iff.mp h
  obtain ⟨v, hv, -⟩ := Option.bind_eq_some_iff.mp hname
  rw [Dict.hasKey, hv]
  rfl

/-- A node without bindings has the value that its operator gives it. -/
theorem eval_of_operator {env : Env} {k : OperatorKind} {node : Dict Json}
    (noFragment : Dict.hasKey node Key.fragment = false)
    (known : Evaluation.operatorOf? env node = some k) (noBindings : Frame.ofNode node = [])
    (depth : Nat) (w : World) :
    eval env (depth + 1) (.object node) w =
      Evaluation.runOperator env (eval env depth) k node w := by
  rw [eval, Evaluation.node_operator env _ noFragment (Evaluation.hasKey_operator known),
    Evaluation.operatorNode, noBindings, Run.withFrame_apply]
  show Evaluation.operatorBody env (eval env depth) node w = _
  rw [Evaluation.operatorBody, known]

/-- What becomes of what a call comes to, in a node that does nothing else. -/
def Env.outcomeOfCall (env : Env) : Except OperatorFault Json → Except Failure Json
  | .ok v => .ok v
  | .error fault =>
    let failure := (NodeFault.operator .customFunctions fault).failure.cut
    if env.options.showsErrors then .ok (.string failure.message) else .error failure

/-- An expression that makes a call and does nothing else: its properties are gathered and its
operands evaluated without a trace, and they come to the call. -/
structure CallExpression (env : Env) (depth : Nat) where
  /-- The expression, as it is written. -/
  expression : Json
  /-- The call that it makes. -/
  call : HostCall
  /-- Whether the result may come from the cache. -/
  cached : Bool
  /-- The node, with shorthand expanded. -/
  node : Dict Json
  /-- The properties of the node, with children in their places. -/
  props : Props
  prepared : Engine.prepare env expression = .object node
  noFragment : Dict.hasKey node Key.fragment = false
  known : Evaluation.operatorOf? env node = some .customFunctions
  noBindings : Frame.ofNode node = []
  noConversion : Evaluation.conversionOf node = none
  noFallback : Evaluation.fallbackOf node props = none
  gathered : ∀ w : World, w.scope = [] →
    Evaluation.gather (eval env depth) .customFunctions node w = (some (.ok props), w)
  operands : ∀ w : World, w.scope = [] →
    (Evaluation.inside (eval env depth)).operands props ["functionPath", "args", "useCache"] w =
      (some (.ok (call.operands cached)), w)

namespace CallExpression

variable {env : Env} {depth : Nat} (x : CallExpression env depth)

/-- No property that the operator needs is missing. -/
theorem missing_eq : Evaluation.missing .customFunctions x.props = [] := by
  have hpath : Dict.hasKey x.props "functionPath" = true := by
    cases hget : Dict.get? x.props "functionPath" with
    | some v => rw [Dict.hasKey, hget]; rfl
    | none =>
        -- An operand that is not there would be evaluated to nothing.
        have h := x.operands ⟨[], .empty 0, []⟩ rfl
        unfold Evaluator.operands Run.traverse at h
        rw [hget] at h
        obtain ⟨e, -, he⟩ | ⟨first, w₁, hfirst, hrest⟩ := Run.andThen_finished h
        · cases he
        · cases hfirst
          obtain ⟨e, -, he⟩ | ⟨rest, w₂, -, hall⟩ := Run.andThen_finished hrest
          · cases he
          · cases hall
  have hneeded : OperatorKind.customFunctions.schema.requiredNames = ["functionPath"] := by decide
  rw [Evaluation.missing, hneeded]
  simp [hpath]

/-- Evaluation of the expression comes down to what the operator computes. -/
theorem eval_eq_computeOr (w : World) (hw : w.scope = []) :
    eval env (depth + 1) (.object x.node) w =
      Evaluation.computeOr env (eval env depth) .customFunctions none x.props w := by
  have hfallback : Evaluation.withoutFallback x.props = x.props := by
    obtain ⟨hprops, -⟩ := Option.or_eq_none_iff.mp x.noFallback
    rw [Evaluation.withoutFallback, Dict.hasKey, hprops]
    rfl
  have happly : Evaluation.runOperator env (eval env depth) .customFunctions x.node w =
      Evaluation.apply env (eval env depth) .customFunctions x.node none x.props w := by
    unfold Evaluation.runOperator
    rw [Run.bind_of_ok (Run.attempt_of_finished (x.gathered w hw))]
    show Evaluation.apply env _ _ _ (Evaluation.fallbackOf x.node x.props)
      (Evaluation.withoutFallback x.props) w = _
    rw [x.noFallback, hfallback]
  rw [eval_of_operator x.noFragment x.known x.noBindings, happly, Evaluation.apply, x.missing_eq]
  show (Evaluation.computeOr env _ _ none x.props >>= fun result =>
    Evaluation.convert env _ _ x.node none result) w = _
  rcases hresult : Evaluation.computeOr env (eval env depth) .customFunctions none x.props w with
    ⟨_ | e | v, w₁⟩
  · exact Run.bind_of_exhausted hresult
  · exact Run.bind_of_error hresult
  · rw [Run.bind_of_ok hresult, Evaluation.convert, x.noConversion]
    rfl

/-- Evaluation of the expression comes down to the call of the function. -/
theorem eval_eq (w : World) (hw : w.scope = []) :
    eval env (depth + 1) (.object x.node) w =
      ((Asking.function env (Evaluation.inside (eval env depth)) x.props w).1.map
          env.outcomeOfCall,
        (Asking.function env (Evaluation.inside (eval env depth)) x.props w).2) := by
  rw [x.eval_eq_computeOr w hw, Evaluation.computeOr]
  have hcompute : Evaluation.compute env (Evaluation.inside (eval env depth)) .customFunctions
      x.props w = Asking.function env (Evaluation.inside (eval env depth)) x.props w := rfl
  rcases hcall : Asking.function env (Evaluation.inside (eval env depth)) x.props w with
    ⟨_ | fault | v, w₁⟩ <;> rw [hcall] at hcompute
  · exact Run.bind_of_exhausted (Run.attempt_of_exhausted hcompute)
  · rw [Run.bind_of_ok (Run.attempt_of_finished hcompute)]
    simp only [Evaluation.fallbackOr, Env.outcomeOfCall, Option.map_some]
    split <;> rfl
  · exact Run.bind_of_ok (Run.attempt_of_finished hcompute)

end CallExpression

/-! ### Calls that are written out -/

/-- The node that makes a call of literal arguments. -/
def HostCall.node (c : HostCall) (cached : Bool) : Dict Json :=
  [("operator", .string "CUSTOM_FUNCTIONS"), ("functionPath", .string c.path),
    ("args", .array c.args), ("useCache", .bool cached)]

/-- The operands of a call, not yet evaluated. -/
def HostCall.props (c : HostCall) (cached : Bool) : Props :=
  [("functionPath", .string c.path), ("args", .array c.args), ("useCache", .bool cached)]

theorem HostCall.ownProps_node (c : HostCall) (cached : Bool) :
    ownProps OperatorKind.customFunctions.schema (c.node cached) = c.props cached := by
  have hcanonical : ∀ name ∈ ["functionPath", "args", "useCache"],
      OperatorKind.customFunctions.schema.canonicalName? name = none := by decide
  have hproperty : ∀ name ∈ ["functionPath", "args", "useCache"], isReserved name = false := by
    decide
  have hoperator : isReserved "operator" = true := by decide
  simp only [List.forall_mem_cons] at hcanonical hproperty
  simp [node, props, ownProps, addProp, hoperator, hcanonical, hproperty, Dict.insert]

theorem HostCall.get?_operator (c : HostCall) (cached : Bool) :
    Dict.get? (c.node cached) Key.operator = some (.string "CUSTOM_FUNCTIONS") := by
  simp [node, Dict.get?, Key.operator]

theorem HostCall.operatorOf?_node {env : Env}
    (known : env.registry.resolve? "CUSTOM_FUNCTIONS" = some .customFunctions) (c : HostCall)
    (cached : Bool) : Evaluation.operatorOf? env (c.node cached) = some .customFunctions := by
  rw [Evaluation.operatorOf?, c.get?_operator, Option.bind_some, Json.asString?, Option.bind_some,
    known]

theorem HostCall.ofNode_node (c : HostCall) (cached : Bool) : Frame.ofNode (c.node cached) = [] := by
  have hnames : ∀ name ∈ ["operator", "functionPath", "args", "useCache"],
      isBindingName name = false := by decide
  simp only [List.forall_mem_cons] at hnames
  simp [node, Frame.ofNode, Dict.filterKeys, hnames, Dict.mapValues]

/-- What leaves the world alone for each element does so for all. -/
theorem Run.traverse_eq {ε α β : Type} {f : α → Run ε β} {w : World} {items : List α}
    {results : List β} (h : List.Forall₂ (fun a b => f a w = (some (.ok b), w)) items results) :
    Run.traverse f items w = (some (.ok results), w) := by
  induction h with
  | nil => rfl
  | cons hfirst _ ih =>
      rw [Run.traverse, Run.andThen_of_ok hfirst, Run.andThen_of_ok ih]
      rfl

/-- A text that names no binding evaluates to itself where strings are not read as nodes. -/
theorem eval_text {env : Env} {s : String} (reads : env.options.readsStrings = false)
    (name : isBindingName s = false) (depth : Nat) (w : World) :
    eval env (depth + 1) (.string s) w = (some (.ok (.string s)), w) := by
  simp [eval, Evaluation.node, Evaluation.byKind, classify, Evaluation.leaf, Json.asString?,
    Option.filter, name, reads]

/-- An array whose elements leave the world alone comes to what they come to. -/
theorem eval_items {env : Env} {depth : Nat} {items values : List Json} {w : World}
    (h : List.Forall₂ (fun e v => eval env depth e w = (some (.ok v), w)) items values) :
    eval env (depth + 1) (.array items) w = (some (.ok (.array values)), w) := by
  have hall : (eval env depth).all items w = (some (.ok values), w) := Run.traverse_eq h
  have hplain : eval env (depth + 1) (.array items) w =
      ((eval env depth).all items >>= fun items => pure (.array items)) w := rfl
  rw [hplain, Run.bind_of_ok hall]
  rfl

/-- An array evaluates to itself if its elements do. -/
theorem eval_array {env : Env} {depth : Nat} {items : List Json} {w : World}
    (h : ∀ v ∈ items, eval env depth v w = (some (.ok v), w)) :
    eval env (depth + 1) (.array items) w = (some (.ok (.array items)), w) :=
  eval_items (List.forall₂_same.mpr h)

/-- An array of one element, in the world that this leaves behind. -/
theorem eval_singleton {env : Env} {depth : Nat} {v u : Json} {w w' : World}
    (h : eval env depth v w = (some (.ok u), w')) :
    eval env (depth + 1) (.array [v]) w = (some (.ok (.array [u])), w') := by
  have hall : (eval env depth).all [v] w = (some (.ok [u]), w') :=
    (Run.andThen_of_ok h).trans rfl
  have hplain : eval env (depth + 1) (.array [v]) w =
      ((eval env depth).all [v] >>= fun items => pure (.array items)) w := rfl
  rw [hplain, Run.bind_of_ok hall]
  rfl

/-- An operand that evaluates to itself. -/
theorem Evaluator.operand_eq {env : Env} {depth : Nat} {w : World} {props : Props} {name : String}
    {v : Json} (hget : Dict.get? props name = some v)
    (heval : eval env depth v w = (some (.ok v), w)) :
    (Run.andThen ((Evaluation.inside (eval env depth)).optional (Dict.get? props name)) fun v =>
      Run.value (name, v)) w = (some (.ok (name, some v)), w) := by
  have hinside : Evaluation.inside (eval env depth) v w = (some (.ok v), w) := by
    rw [Evaluation.inside, Run.mapFailure_apply, heval]
    rfl
  rw [hget, optional, Run.andThen_assoc, Run.andThen_of_ok hinside]
  rfl

/-- A call of arguments that evaluate to themselves, as an expression. -/
def CallExpression.ofLiteral {env : Env} {depth : Nat} (c : HostCall) (cached : Bool)
    (plain : env.options.expandsShorthand = false) (reads : env.options.readsStrings = false)
    (known : env.registry.resolve? "CUSTOM_FUNCTIONS" = some .customFunctions)
    (path : isBindingName c.path = false)
    (args : ∀ v ∈ c.args, ∀ w, eval env depth v w = (some (.ok v), w)) :
    CallExpression env (depth + 1) where
  expression := .object (c.node cached)
  call := c
  cached := cached
  node := c.node cached
  props := c.props cached
  prepared := by
    rw [Engine.prepare, plain]
    rfl
  noFragment := by simp [HostCall.node, Dict.hasKey, Dict.get?, Key.fragment]
  known := c.operatorOf?_node known cached
  noBindings := c.ofNode_node cached
  noConversion := by
    simp [HostCall.node, Evaluation.conversionOf, Dict.get?, Key.outputType, Key.type]
  noFallback := by
    simp [HostCall.node, HostCall.props, Evaluation.fallbackOf, Dict.get?, Key.fallback]
  gathered w _ := by
    rw [Evaluation.gather, c.ownProps_node]
    rfl
  operands w _ := by
    refine Run.traverse_eq (.cons ?_ (.cons ?_ (.cons ?_ .nil)))
    · exact Evaluator.operand_eq (by simp [HostCall.props, Dict.get?]) (eval_text reads path depth w)
    · exact Evaluator.operand_eq (by simp [HostCall.props, Dict.get?])
        (eval_array fun v hv => args v hv w)
    · exact Evaluator.operand_eq (by simp [HostCall.props, Dict.get?]) rfl

/-- A call of a function that always answers alike. -/
theorem CallExpression.eval_of_constant {env : Env} {depth registration arity : Nat}
    (x : CallExpression env depth) (hcached : x.cached = false) {registered : String} {v : Json}
    (hfound : FunctionMap.find? (env.options.functions.getD []) x.call.path =
      some (registered, .constant registration arity v)) {w : World} (hw : w.scope = []) :
    eval env (depth + 1) (.object x.node) w =
      (some (.ok v), { w with history := .call registration registered x.call.args :: w.history }) := by
  rw [x.eval_eq w hw, Asking.function_of_operands (x.operands w hw), hfound, hcached]
  rfl

/-- A call without arguments of a function that always answers alike. -/
theorem eval_constant {env : Env} {path registered : String} {registration arity : Nat} {v : Json}
    (plain : env.options.expandsShorthand = false) (reads : env.options.readsStrings = false)
    (known : env.registry.resolve? "CUSTOM_FUNCTIONS" = some .customFunctions)
    (hpath : isBindingName path = false)
    (hfound : FunctionMap.find? (env.options.functions.getD []) path =
      some (registered, .constant registration arity v)) (depth : Nat) {w : World}
    (hw : w.scope = []) :
    eval env (depth + 2) (.object ((HostCall.mk path []).node false)) w =
      (some (.ok v), { w with history := .call registration registered [] :: w.history }) := by
  let x : CallExpression env (depth + 1) :=
    .ofLiteral ⟨path, []⟩ false plain reads known hpath (by simp)
  exact x.eval_of_constant rfl hfound hw

end JsonExpr
