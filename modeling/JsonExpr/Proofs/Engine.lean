import JsonExpr.Engine
import JsonExpr.Proofs.Evaluation.Exclusion
import JsonExpr.Proofs.Registry

/-!
# The life of an engine

An engine starts from options and goes through evaluations and changes of its options; its cache may
be changed at any time by whoever holds it.  Throughout, its operators are those that its options
leave in effect, and an evaluation with options of its own applies the operators that the two layers
together leave in effect.  So an operator that is left out, by whatever name, never asks the host.

Main definitions:

* `JsonExpr.Engine.SameRun` — evaluations that cannot be told apart;
* `JsonExpr.Engine.Reachable` — what an engine may become;
* `JsonExpr.Options.Excludes` — options that leave an operator out by one of its names.

Main results:

* `JsonExpr.Engine.Reachable.registry_eq` — the operators of an engine are those of its options;
* `JsonExpr.Engine.excluded_operators_ask_nothing` — **operators that are left out never ask the
  host**.
-/

set_option autoImplicit false

namespace JsonExpr

/-- The options leave the operator out by one of its names. -/
def Options.Excludes (o : Options) (k : OperatorKind) : Prop :=
  ∃ name ∈ o.excludeOperators.getD [], Registry.Spells name k

namespace Engine

/-- Evaluations that come to the same outcome, and leave the same history and the same cache. -/
structure SameRun (run run' : Outcome × Engine) : Prop where
  outcome : run'.1 = run.1
  history : run'.2.history = run.2.history
  cache : run'.2.cache = run.2.cache

/-- What an engine may become. -/
inductive Reachable : Engine → Prop where
  /-- A new engine. -/
  | new (options : Options) : Reachable (Engine.new options)
  /-- Options changed for good. -/
  | update {e : Engine} (newer : Options) : Reachable e → Reachable (e.update newer)
  /-- An evaluation, finished or not. -/
  | evaluate {e : Engine} (depth : Nat) (expression : Json) (overrides : Options) :
      Reachable e → Reachable (e.evaluateWithin depth expression overrides).2
  /-- A cache changed from outside. -/
  | recache {e : Engine} (cache : ResultCache) : Reachable e → Reachable { e with cache := cache }

/-- The operators of an engine are those that its options leave in effect. -/
theorem Reachable.registry_eq {e : Engine} (h : e.Reachable) :
    e.registry = registryOf e.options := by
  induction h with
  | new options => rfl
  | update newer _ _ => rfl
  | evaluate depth expression overrides _ ih => exact ih
  | recache cache _ ih => exact ih

/-- The operators of an evaluation are those that the two layers of options leave in effect. -/
theorem registry_envWith {e : Engine} (h : e.registry = registryOf e.options)
    (overrides : Options) :
    (e.envWith overrides).registry = registryOf (e.options.merge overrides) := by
  unfold envWith
  cases hx : overrides.excludeOperators with
  | some names => rfl
  -- Overrides that say nothing about operators leave the engine's registry in effect.
  | none =>
      have hmerge : (e.options.merge overrides).excludeOperators = e.options.excludeOperators := by
        rw [Options.merge, hx]
        rfl
      simp only [registryOf, hmerge, h, Option.isSome_none, Bool.false_eq_true, if_false]

/-- No name resolves to an operator that options leave out. -/
theorem resolve?_registryOf_ne {o : Options} {k : OperatorKind} (h : o.Excludes k)
    (name : String) : (registryOf o).resolve? name ≠ some k := by
  obtain ⟨excluded, hmem, hspells⟩ := h
  unfold registryOf
  cases hx : o.excludeOperators with
  | none =>
      rw [hx] at hmem
      cases hmem
  | some names =>
      rw [hx] at hmem
      exact Registry.resolve?_without_ne hmem hspells name

/-- An operator that the two layers of options leave out is permitted nowhere. -/
theorem Reachable.not_permits {e : Engine} (h : e.Reachable) {overrides : Options}
    {k : OperatorKind} (hx : (e.options.merge overrides).Excludes k) :
    ¬ (e.envWith overrides).Permits k := by
  rintro ⟨name, hname⟩
  rw [registry_envWith h.registry_eq] at hname
  exact resolve?_registryOf_ne hx name hname

/-- **Operators that are left out never ask the host.**  Whatever an engine went through before, and
whatever expression it evaluates with whatever options laid over its own, to the end or not: what
the evaluation asks contains no call of a host function if `CUSTOM_FUNCTIONS` is left out, no
request over HTTP if `GET`, `POST` and `GRAPHQL` are, and no database query if `PG_SQL` is. -/
theorem excluded_operators_ask_nothing {e : Engine} (h : e.Reachable) (overrides : Options)
    (depth : Nat) (expression : Json) :
    ∃ asked, (e.evaluateWithin depth expression overrides).2.history = asked ++ e.history ∧
      ((e.options.merge overrides).Excludes .customFunctions →
        ∀ event ∈ asked, ¬ event.IsCall) ∧
      ((e.options.merge overrides).Excludes .get → (e.options.merge overrides).Excludes .post →
        (e.options.merge overrides).Excludes .graphQL → ∀ event ∈ asked, ¬ event.IsHttp) ∧
      ((e.options.merge overrides).Excludes .pgSql → ∀ event ∈ asked, ¬ event.IsSql) := by
  obtain ⟨asked, hasked, hallowed⟩ := eval_asks (e.envWith overrides) depth
    (prepare (e.envWith overrides) expression) ⟨[], e.cacheWith overrides, e.history⟩
  refine ⟨asked, hasked, fun hx event hmem => ?_, fun hget hpost hgraphQL event hmem => ?_,
    fun hx event hmem => ?_⟩
  · cases event with
    | call _ _ _ => exact absurd (hallowed _ hmem) (h.not_permits hx)
    | http _ _ => exact id
    | sql _ _ => exact id
  · cases event with
    | call _ _ _ => exact id
    | http _ _ =>
        rcases hallowed _ hmem with hp | hp | hp
        · exact absurd hp (h.not_permits hget)
        · exact absurd hp (h.not_permits hpost)
        · exact absurd hp (h.not_permits hgraphQL)
    | sql _ _ => exact id
  · cases event with
    | call _ _ _ => exact id
    | http _ _ => exact id
    | sql _ _ => exact absurd (hallowed _ hmem) (h.not_permits hx)

/-- Nodes that would call a function, send a request and run a query, under names that differ from
those that are left out. -/
theorem nodes_under_other_names_ask_nothing :
    let greet : HostFunction := ⟨0, 0, fun _ _ => .ok (.string "hello")⟩
    let e := Engine.new
      { functions := some [("greet", greet)]
        httpClient := some ⟨0, fun _ _ => .ok .null⟩
        sqlConnection := some ⟨0, fun _ _ => .ok []⟩
        excludeOperators := some ["run-function", "API", "post", "gql", "pg_db"] }
    let nodes : Json := .array [
      .object [("operator", .string "CUSTOM_FUNCTIONS"), ("functionPath", .string "greet")],
      .object [("operator", .string "get"), ("url", .string "http://localhost")],
      .object [("operator", .string "sql"), ("query", .string "SELECT 1")]]
    ∃ asked, (e.evaluateWithin 4 nodes Options.empty).2.history = asked ++ e.history ∧
      (∀ event ∈ asked, ¬ event.IsCall) ∧ (∀ event ∈ asked, ¬ event.IsHttp) ∧
      ∀ event ∈ asked, ¬ event.IsSql := by
  intro greet e nodes
  have reachable : e.Reachable := .new _
  obtain ⟨asked, hasked, hcall, hhttp, hsql⟩ :=
    excluded_operators_ask_nothing reachable Options.empty 4 nodes
  have hfunction : (e.options.merge Options.empty).Excludes .customFunctions :=
    ⟨"run-function", by decide, "runFunction", by decide, by decide +kernel⟩
  have hget : (e.options.merge Options.empty).Excludes .get :=
    ⟨"API", by decide, "api", by decide, by decide +kernel⟩
  have hpost : (e.options.merge Options.empty).Excludes .post :=
    ⟨"post", by decide, "post", by decide, rfl⟩
  have hgraphQL : (e.options.merge Options.empty).Excludes .graphQL :=
    ⟨"gql", by decide, "gql", by decide, rfl⟩
  have hquery : (e.options.merge Options.empty).Excludes .pgSql :=
    ⟨"pg_db", by decide, "pgDb", by decide, by decide +kernel⟩
  exact ⟨asked, hasked, hcall hfunction, hhttp hget hpost hgraphQL, hsql hquery⟩

end Engine

end JsonExpr
