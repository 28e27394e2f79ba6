import JsonExpr.Host.Stock
import JsonExpr.Proofs.Evaluation.Calls
import JsonExpr.Proofs.Merging
import JsonExpr.Proofs.Registry
import Mathlib.Data.Set.Function

/-!
# Sessions of calls

A session on one engine is a row of calls; in between, the cache may get another bound or be
cleared.  If functions answer by their arguments alone, a call that may use the cache ends as some
call of the session with the same key ends without the cache: as itself, as long as no two calls of
the session share a key.

Two calls may share a key, since strings enter it as they are: the number `1` and the string `"1"`
do, and so do the arguments `a_b` and `a`, `b`.  Then one call is answered with the result of the
other.

Main definitions:

* `JsonExpr.Engine.Turn`, `JsonExpr.Engine.play` — what happens in a session.

Main results:

* `JsonExpr.Engine.accounts_session` — sessions leave a cache that accounts for its results;
* `JsonExpr.Engine.cached_call_answers_for_its_key` — **a cached call answers for its key**;
* `JsonExpr.Engine.shared_key_shares_result` — **a call is answered with the result of a call that
  shares its key**.
-/

set_option autoImplicit false

namespace JsonExpr

namespace Engine

/-- What an engine with the given options evaluates in. -/
def envOf (o : Options) : Env := ⟨o, registryOf o⟩

/-- What happens in a session on one engine. -/
inductive Turn (env : Env) (depth : Nat) where
  /-- A call is evaluated. -/
  | evaluate (x : CallExpression env depth)
  /-- The cache gets a new bound. -/
  | setBound (bound : Nat)
  /-- The cache is cleared. -/
  | clear

/-- The engine after a turn. -/
def play {env : Env} {depth : Nat} (e : Engine) : Turn env depth → Engine
  | .evaluate x => (e.evaluateWithin (depth + 1) x.expression Options.empty).2
  | .setBound bound => { e with cache := e.cache.setBound bound }
  | .clear => { e with cache := e.cache.clear }

/-- The outcome of a call. -/
def outcomeOf {env : Env} {depth : Nat} (e : Engine) (x : CallExpression env depth) : Outcome :=
  (e.evaluateWithin (depth + 1) x.expression Options.empty).1

/-- The call of a turn, if it is one. -/
def Turn.call? {env : Env} {depth : Nat} : Turn env depth → Option HostCall
  | .evaluate x => some x.call
  | _ => none

/-- The calls of a session. -/
def callsOf {env : Env} {depth : Nat} (turns : List (Turn env depth)) : List HostCall :=
  turns.filterMap Turn.call?

section Session

variable {o : Options} {depth : Nat} {e : Engine} {calls : List HostCall}

theorem envWith_new (o : Options) : (Engine.new o).envWith Options.empty = envOf o := by
  rw [envWith, new, Options.merge_empty]
  rfl

theorem envWith_play (he : e.envWith Options.empty = envOf o) (turn : Turn (envOf o) depth) :
    (e.play turn).envWith Options.empty = envOf o := by
  cases turn <;> exact he

/-- What evaluation of a call comes to, and the cache that it leaves behind. -/
theorem evaluate_call (he : e.envWith Options.empty = envOf o)
    (x : CallExpression (envOf o) depth) :
    e.outcomeOf x = (Asking.function (envOf o) (Evaluation.inside (eval (envOf o) depth)) x.props
        ⟨[], e.cache, e.history⟩).1.map (envOf o).outcomeOfCall ∧
      (e.play (.evaluate x)).cache = (Asking.function (envOf o)
        (Evaluation.inside (eval (envOf o) depth)) x.props ⟨[], e.cache, e.history⟩).2.cache := by
  unfold outcomeOf play evaluateWithin
  rw [he]
  dsimp only
  have heval := x.eval_eq ⟨[], e.cache, e.history⟩ rfl
  rw [x.prepared]
  exact ⟨congrArg Prod.fst heval, congrArg (·.2.cache) heval⟩

/-- A call that does not use the cache comes to the answer of a host that was asked nothing before,
and leaves the cache alone. -/
theorem evaluate_uncached (pure : FunctionMap.Pure (o.functions.getD []))
    (he : e.envWith Options.empty = envOf o) {x : CallExpression (envOf o) depth}
    (hx : x.cached = false) :
    e.outcomeOf x =
        some ((envOf o).outcomeOfCall (FunctionMap.answer (o.functions.getD []) x.call)) ∧
      (e.play (.evaluate x)).cache = e.cache := by
  obtain ⟨houtcome, hcache⟩ := evaluate_call he x
  have hoperands := x.operands ⟨[], e.cache, e.history⟩ rfl
  rw [hx] at hoperands
  have hpure : FunctionMap.Pure ((envOf o).options.functions.getD []) := pure
  obtain ⟨hanswer, hsame⟩ := Asking.function_uncached hpure hoperands
  rw [houtcome, hcache, hanswer, hsame]
  exact ⟨rfl, rfl⟩

/-- A call that uses the cache comes to the answer to some call with its key. -/
theorem evaluate_cached (pure : FunctionMap.Pure (o.functions.getD []))
    (he : e.envWith Options.empty = envOf o)
    (h : FunctionMap.Accounts (o.functions.getD []) calls e.cache)
    {x : CallExpression (envOf o) depth} (hx : x.cached = true) (hcall : x.call ∈ calls) :
    (∃ c ∈ calls, c.key = x.call.key ∧ e.outcomeOf x =
      some ((envOf o).outcomeOfCall (FunctionMap.answer (o.functions.getD []) c))) ∧
      FunctionMap.Accounts (o.functions.getD []) calls (e.play (.evaluate x)).cache := by
  obtain ⟨houtcome, hcache⟩ := evaluate_call he x
  have hoperands := x.operands ⟨[], e.cache, e.history⟩ rfl
  rw [hx] at hoperands
  have hpure : FunctionMap.Pure ((envOf o).options.functions.getD []) := pure
  obtain ⟨⟨c, hc, hkey, hanswer⟩, haccounts⟩ := Asking.function_cached hpure hoperands hcall h
  rw [houtcome, hcache, hanswer]
  exact ⟨⟨c, hc, hkey, rfl⟩, haccounts⟩

/-- One turn leaves a cache that accounts for its results. -/
theorem accounts_play (pure : FunctionMap.Pure (o.functions.getD []))
    (he : e.envWith Options.empty = envOf o)
    (h : FunctionMap.Accounts (o.functions.getD []) calls e.cache) {turn : Turn (envOf o) depth}
    (hturn : ∀ c, turn.call? = some c → c ∈ calls) :
    FunctionMap.Accounts (o.functions.getD []) calls (e.play turn).cache := by
  cases turn with
  | evaluate x =>
      cases hx : x.cached with
      | true => exact (evaluate_cached pure he h hx (hturn _ rfl)).2
      | false =>
          rw [(evaluate_uncached pure he hx).2]
          exact h
  | setBound bound => exact h.setBound bound
  | clear => exact h.clear

/-- A session leaves a cache that accounts for its results. -/
theorem accounts_session (pure : FunctionMap.Pure (o.functions.getD []))
    (he : e.envWith Options.empty = envOf o)
    (h : FunctionMap.Accounts (o.functions.getD []) calls e.cache)
    (turns : List (Turn (envOf o) depth)) (hturns : ∀ c ∈ callsOf turns, c ∈ calls) :
    FunctionMap.Accounts (o.functions.getD []) calls (turns.foldl play e).cache ∧
      (turns.foldl play e).envWith Options.empty = envOf o := by
  induction turns generalizing e with
  | nil => exact ⟨h, he⟩
  | cons turn turns ih =>
      have hturn : ∀ c, turn.call? = some c → c ∈ calls := fun c hc =>
        hturns c (List.mem_filterMap.mpr ⟨turn, List.mem_cons_self, hc⟩)
      refine ih (envWith_play he turn) (accounts_play pure he h hturn) fun c hc => ?_
      obtain ⟨later, hmem, hlater⟩ := List.mem_filterMap.mp hc
      exact hturns c (List.mem_filterMap.mpr ⟨later, List.mem_cons_of_mem turn hmem, hlater⟩)

end Session

/-- **A cached call answers for its key.**  On an engine whose functions answer by their arguments
alone, after any calls, changes of the bound and clearings of the cache: a call comes to what some
call of the session with its key comes to without a cache.  So as long as the keys tell the calls of
the session apart, a call that may use the cache comes to the same as without it. -/
theorem cached_call_answers_for_its_key {o : Options}
    (pure : FunctionMap.Pure (o.functions.getD [])) {depth : Nat}
    (turns : List (Turn (envOf o) depth)) (x : CallExpression (envOf o) depth) :
    (∃ c ∈ x.call :: callsOf turns, c.key = x.call.key ∧
      (turns.foldl play (Engine.new o)).outcomeOf x =
        some ((envOf o).outcomeOfCall (FunctionMap.answer (o.functions.getD []) c))) ∧
      (Set.InjOn HostCall.key {c | c ∈ x.call :: callsOf turns} →
        ∀ y : CallExpression (envOf o) depth, y.call = x.call → y.cached = false →
          (turns.foldl play (Engine.new o)).outcomeOf x =
            (turns.foldl play (Engine.new o)).outcomeOf y) := by
  obtain ⟨haccounts, he⟩ := accounts_session pure (envWith_new o)
    (ResultCache.eachResult_empty _) turns fun c hc => List.mem_cons_of_mem x.call hc
  have hanswered : ∃ c ∈ x.call :: callsOf turns, c.key = x.call.key ∧
      (turns.foldl play (Engine.new o)).outcomeOf x =
        some ((envOf o).outcomeOfCall (FunctionMap.answer (o.functions.getD []) c)) := by
    cases hx : x.cached with
    | true => exact (evaluate_cached pure he haccounts hx List.mem_cons_self).1
    | false => exact ⟨x.call, List.mem_cons_self, rfl, (evaluate_uncached pure he hx).1⟩
  refine ⟨hanswered, fun hinj y hcall hy => ?_⟩
  obtain ⟨c, hc, hkey, houtcome⟩ := hanswered
  have hsame : c = x.call := hinj hc List.mem_cons_self hkey
  rw [houtcome, hsame, (evaluate_uncached pure he hy).1, hcall]

/-- A host with a function that answers with its arguments. -/
def collecting : Options := { functions := some [("f", .collect 0)] }

theorem collecting_pure : FunctionMap.Pure (collecting.functions.getD []) := by
  simp [collecting, FunctionMap.Pure, HostFunction.Pure, HostFunction.collect]

/-- A call of that function with one argument. -/
def collect (arg : Json) (cached : Bool)
    (literal : ∀ w, eval (envOf collecting) 1 arg w = (some (.ok arg), w)) :
    CallExpression (envOf collecting) 2 :=
  .ofLiteral ⟨"f", [arg]⟩ cached rfl rfl
    (Registry.resolve?_name .customFunctions)
    (show isBindingName "f" = false by decide)
    fun _ hv => by
      cases List.mem_singleton.mp hv
      exact literal

/-- Calls with texts whose keys differ come to the same with the cache as without it. -/
theorem calls_with_other_texts_are_kept_apart :
    let x := collect (.string "a") true (eval_text rfl (by decide) 0)
    let y := collect (.string "b") true (eval_text rfl (by decide) 0)
    FunctionMap.Pure (collecting.functions.getD []) ∧
      Set.InjOn HostCall.key {c | c ∈ x.call :: callsOf [.evaluate x, .evaluate y]} ∧
      ([Turn.evaluate x, .evaluate y].foldl play (Engine.new collecting)).outcomeOf x =
        ([Turn.evaluate x, .evaluate y].foldl play (Engine.new collecting)).outcomeOf
          (collect (.string "a") false (eval_text rfl (by decide) 0)) := by
  intro x y
  have hinj : Set.InjOn HostCall.key {c | c ∈ x.call :: callsOf [.evaluate x, .evaluate y]} := by
    have hkeys : HostCall.key ⟨"f", [.string "a"]⟩ ≠ HostCall.key ⟨"f", [.string "b"]⟩ := by
      decide +kernel
    have hcalls : ∀ c ∈ x.call :: callsOf [.evaluate x, .evaluate y],
        c = ⟨"f", [.string "a"]⟩ ∨ c = ⟨"f", [.string "b"]⟩ := by
      simp [x, y, collect, CallExpression.ofLiteral, callsOf, Turn.call?]
    intro c hc c' hc' h
    rcases hcalls c hc with rfl | rfl <;> rcases hcalls c' hc' with rfl | rfl
    · rfl
    · exact absurd h hkeys
    · exact absurd h.symm hkeys
    · rfl
  exact ⟨collecting_pure, hinj,
    (cached_call_answers_for_its_key collecting_pure [.evaluate x, .evaluate y] x).2 hinj _ rfl rfl⟩

section SharedKey

variable {o : Options} {depth : Nat} {e : Engine} {x : CallExpression (envOf o) depth} {v : Json}

/-- What is kept under the key of a call is its outcome, if its path leads to a function at all. -/
theorem outcomeOf_of_result (he : e.envWith Options.empty = envOf o) (hx : x.cached = true)
    (found : (FunctionMap.find? (o.functions.getD []) x.call.path).isSome)
    (hv : e.cache.result? x.call.key = some v) : e.outcomeOf x = some (.ok v) := by
  have hoperands := x.operands ⟨[], e.cache, e.history⟩ rfl
  rw [hx] at hoperands
  obtain ⟨⟨registered, f⟩, hf⟩ := Option.isSome_iff_exists.mp found
  have hfunctions : FunctionMap.find? ((envOf o).options.functions.getD []) x.call.path =
      some (registered, f) := hf
  rw [(evaluate_call he x).1, Asking.function_of_operands hoperands, hfunctions]
  dsimp only
  rw [if_pos rfl, Asking.cached_of_result hv]
  rfl

/-- A new call leaves its answer behind, if the cache has place for any. -/
theorem result?_play (pure : FunctionMap.Pure (o.functions.getD []))
    (he : e.envWith Options.empty = envOf o) (hx : x.cached = true)
    (hv : FunctionMap.answer (o.functions.getD []) x.call = .ok v) (hcache : e.cache.Paired)
    (hnew : e.cache.contains x.call.key = false) (place : 0 < e.cache.bound) :
    (e.play (.evaluate x)).cache.result? x.call.key = some v := by
  have hoperands := x.operands ⟨[], e.cache, e.history⟩ rfl
  rw [hx] at hoperands
  rw [(evaluate_call he x).2, Asking.function_of_operands hoperands]
  cases hf : FunctionMap.find? ((envOf o).options.functions.getD []) x.call.path with
  | none =>
      rw [FunctionMap.answer, show FunctionMap.find? (o.functions.getD []) x.call.path = none from hf]
        at hv
      cases hv
  | some found =>
      obtain ⟨w₁, hask, hw₁⟩ := Asking.ask_eq pure hf ⟨[], e.cache, e.history⟩
      dsimp only
      rw [if_pos rfl, Asking.cached_of_no_result (ResultCache.result?_eq_none hnew) hask, hw₁, hv]
      exact hcache.result?_settle_ok (ε := OperatorFault) hnew place v

end SharedKey

/-- **A call is answered with the result of a call that shares its key.** -/
theorem shared_key_shares_result {o : Options} (pure : FunctionMap.Pure (o.functions.getD []))
    (place : 0 < o.maxCacheSize.getD ResultCache.defaultBound) {depth : Nat}
    {x₁ x₂ : CallExpression (envOf o) depth} (hkey : x₁.call.key = x₂.call.key)
    (h₁ : x₁.cached = true) (h₂ : x₂.cached = true) {v : Json}
    (hv : FunctionMap.answer (o.functions.getD []) x₁.call = .ok v)
    (found : (FunctionMap.find? (o.functions.getD []) x₂.call.path).isSome) :
    ((Engine.new o).play (.evaluate x₁)).outcomeOf x₂ = some (.ok v) := by
  have hempty := ResultCache.empty_consistent (o.maxCacheSize.getD ResultCache.defaultBound)
  refine outcomeOf_of_result (envWith_play (envWith_new o) _) h₂ found ?_
  rw [← hkey]
  exact result?_play pure (envWith_new o) h₁ hv hempty.toPaired rfl place

/-- The string `1` and the number `1` share a key, so that the second call is answered with the
result of the first. -/
theorem number_is_answered_with_text :
    let x := collect (.string "1") true (eval_text rfl (by decide) 0)
    let y := collect (Json.int 1) true fun _ => rfl
    FunctionMap.Pure (collecting.functions.getD []) ∧
      ((Engine.new collecting).play (.evaluate x)).outcomeOf y =
        some (.ok (.array [.string "1"])) ∧
      ((Engine.new collecting).play (.evaluate x)).outcomeOf
        (collect (Json.int 1) false fun _ => rfl) = some (.ok (.array [Json.int 1])) := by
  intro x y
  have hkey : x.call.key = y.call.key := by decide +kernel
  have he := envWith_play (envWith_new collecting) (.evaluate x)
  refine ⟨collecting_pure, ?_, ?_⟩
  · exact shared_key_shares_result collecting_pure (by decide) hkey rfl rfl rfl rfl
  · exact (evaluate_uncached collecting_pure he rfl).1

end Engine

end JsonExpr
