import JsonExpr.Proofs.Evaluation.Congruence

/-!
# What the host is asked

Only the operators that ask the host do so, and only those that some name resolves to are ever
applied, however a node came into being.  So what an evaluation adds to the history is what the
operators in effect may ask, and the history before it stays as it was.

Main definitions:

* `JsonExpr.Event.IsCall`, `JsonExpr.Event.IsHttp`, `JsonExpr.Event.IsSql` — the kinds of event;
* `JsonExpr.Env.Allows` — what the operators in effect may ask;
* `JsonExpr.Run.Asks` — a computation that asks the host only what is allowed.

Main results:

* `JsonExpr.eval_asks` — **evaluation asks the host only what the operators in effect may ask**.
-/

set_option autoImplicit false

namespace JsonExpr

/-! ### Kinds of event -/

namespace Event

/-- A call of a host function. -/
def IsCall : Event → Prop
  | call .. => True
  | _ => False

/-- A request over HTTP. -/
def IsHttp : Event → Prop
  | http .. => True
  | _ => False

/-- A database query. -/
def IsSql : Event → Prop
  | sql .. => True
  | _ => False

end Event

/-- What the host may be asked when only the operators of an environment are applied. -/
def Env.Allows (env : Env) : Event → Prop
  | .call .. => env.Permits .customFunctions
  | .http .. => env.Permits .get ∨ env.Permits .post ∨ env.Permits .graphQL
  | .sql .. => env.Permits .pgSql

/-! ### Computations that ask only what is allowed -/

/-- A computation that asks the host only what is allowed, on top of what it was asked before. -/
def Run.Asks {ε α : Type} (allowed : Event → Prop) (m : Run ε α) : Prop :=
  ∀ w, ∃ asked, (m w).2.history = asked ++ w.history ∧ ∀ event ∈ asked, allowed event

namespace Run.Asks

variable {ε ε' α β : Type} {allowed : Event → Prop}

theorem nothing {m : Run ε α} (h : ∀ w, (m w).2.history = w.history) : m.Asks allowed :=
  fun w => ⟨[], h w, by simp⟩

theorem one {m : Run ε α} (event : Event) (h : ∀ w, (m w).2.history = event :: w.history)
    (ha : allowed event) : m.Asks allowed :=
  fun w => ⟨[event], h w, by simpa using ha⟩

theorem andThen {m : Run ε α} {f : α → Run ε β} (hm : m.Asks allowed)
    (hf : ∀ a, (f a).Asks allowed) : (Run.andThen m f).Asks allowed := by
  intro w
  obtain ⟨first, hfirst, hallowed⟩ := hm w
  rcases h : m w with ⟨_ | e | a, w₁⟩ <;> rw [h] at hfirst
  · rw [Run.andThen_of_exhausted h]
    exact ⟨first, hfirst, hallowed⟩
  · rw [Run.andThen_of_error h]
    exact ⟨first, hfirst, hallowed⟩
  · rw [Run.andThen_of_ok h]
    obtain ⟨second, hsecond, hallowed'⟩ := hf a w₁
    -- The history grows at the front, so what the second part asks comes first.
    refine ⟨second ++ first, by rw [hsecond, hfirst, List.append_assoc], fun event hmem => ?_⟩
    exact (List.mem_append.mp hmem).elim (hallowed' event) (hallowed event)

theorem withFrame (frame : Frame) {m : Run ε α} (hm : m.Asks allowed) :
    (Run.withFrame frame m).Asks allowed := by
  intro w
  simpa only [Run.withFrame, World.history_leave, World.history_enter] using hm (w.enter frame)

theorem reference {ev : Evaluator ε} (name : String) (h : ∀ v, (ev v).Asks allowed) :
    (ev.reference name).Asks allowed := by
  intro w
  unfold Evaluator.reference
  split
  · exact ⟨[], rfl, by simp⟩
  · next p _ =>
    split
    · exact ⟨[], rfl, by simp⟩
    · exact h p.slot.expression { w with scope := p.outer }

theorem cached (key : String) {m : Run OperatorFault Json} (hm : m.Asks allowed) :
    (Asking.cached key m).Asks allowed := by
  intro w
  unfold Asking.cached
  split
  · exact ⟨[], rfl, by simp⟩
  · obtain ⟨asked, hasked, hallowed⟩ := hm w
    -- Settling the key changes the cache and nothing else.
    refine ⟨asked, ?_, hallowed⟩
    rw [← hasked]
    rcases m w with ⟨_ | outcome, w₁⟩ <;> rfl

/-- Asking only what the operators in effect may ask is respected by all ways of building
computations. -/
theorem congruence (env : Env) : Run.Congruence env (fun m _ => m.Asks env.Allows) where
  ofExcept _ := nothing fun _ => rfl
  andThen := andThen
  attempt hm := hm
  mapFailure _ _ _ hm := hm
  withFrame frame _ _ hm := withFrame frame hm
  reference := reference
  cached key _ _ _ hm := cached key hm
  call permitted f path args := one (.call f.registration path args) (fun _ => rfl) permitted
  http permitted c request := one (.http c.client request) (fun _ => rfl) permitted
  sql permitted c query := one (.sql c.connection query) (fun _ => rfl) permitted

end Run.Asks

/-- **Evaluation asks the host only what the operators in effect may ask**, also when it fails or
runs out of depth. -/
theorem eval_asks (env : Env) (depth : Nat) (v : Json) : (eval env depth v).Asks env.Allows :=
  (Run.Asks.congruence env).eval (Run.Asks.nothing fun _ => rfl) depth v

end JsonExpr
