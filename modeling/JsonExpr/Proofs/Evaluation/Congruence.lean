import JsonExpr.Proofs.Evaluation.Graded

/-!
# Relations that evaluation respects

Evaluation is put together from a few ways of building computations: a value or a failure, one
computation after another, a failure caught or renamed, a node with bindings, a reference to a
binding, a result behind the cache, and a question to the host.  A relation between computations
that each of them respects is respected by the rules for a node, whatever the node is, and so by
evaluation to any depth.  Properties of one computation are the case of a relation that looks at one
side only.

A question to the host is asked only by the operators that ask it, and only if the registry in
effect has such an operator; so a relation may ask for that when it comes to the host.

Main definitions:

* `JsonExpr.Env.Permits` — an operator that some name resolves to;
* `JsonExpr.Run.Compositional`, `JsonExpr.Run.Congruence` — a relation that the ways of building
  computations respect, all but references to bindings, and references as well.

Main results:

* `JsonExpr.Run.Compositional.compute`, `JsonExpr.Run.Compositional.gather` — what an operator
  computes, and the properties it computes from;
* `JsonExpr.Run.Compositional.operatorBody`, `JsonExpr.Run.Compositional.fragmentNode` — the nodes
  that lead to others, over evaluators that are related;
* `JsonExpr.Run.Congruence.node` — **the rules for one node respect the relation**;
* `JsonExpr.Run.Congruence.eval` — evaluation to a given depth is related to itself.
-/

set_option autoImplicit false

namespace JsonExpr

/-- A relation between computations that the ways of building computations respect, in an
environment that limits what the host is asked, as far as they look no binding up. -/
structure Run.Compositional (env : Env) (R : ∀ {ε α : Type}, Run ε α → Run ε α → Prop) : Prop where
  ofExcept : ∀ {ε α : Type} (outcome : Except ε α), R (Run.ofExcept outcome) (Run.ofExcept outcome)
  andThen : ∀ {ε α β : Type} {m m' : Run ε α} {f f' : α → Run ε β},
    R m m' → (∀ a, R (f a) (f' a)) → R (Run.andThen m f) (Run.andThen m' f')
  attempt : ∀ {ε ε' α : Type} {m m' : Run ε α},
    R m m' → R (Run.attempt m : Run ε' (Except ε α)) (Run.attempt m')
  mapFailure : ∀ {ε ε' α : Type} (g : ε → ε') {m m' : Run ε α},
    R m m' → R (Run.mapFailure g m) (Run.mapFailure g m')
  withFrame : ∀ {ε α : Type} (frame : Frame) {m m' : Run ε α},
    R m m' → R (Run.withFrame frame m) (Run.withFrame frame m')
  cached : ∀ (key : String) {m m' : Run OperatorFault Json}, m.AlwaysAsks →
    R m m' → R (Asking.cached key m) (Asking.cached key m')
  call : env.Permits .customFunctions → ∀ (f : HostFunction) (path : String) (args : List Json),
    R (f.ask path args) (f.ask path args)
  http : env.Permits .get ∨ env.Permits .post ∨ env.Permits .graphQL →
    ∀ (c : HttpClient) (request : HttpRequest), R (c.ask request) (c.ask request)
  sql : env.Permits .pgSql → ∀ (c : SqlConnection) (query : SqlQuery), R (c.ask query) (c.ask query)

/-- A relation between computations that all ways of building computations respect. -/
structure Run.Congruence (env : Env) (R : ∀ {ε α : Type}, Run ε α → Run ε α → Prop) : Prop
    extends Run.Compositional env R where
  reference : ∀ {ε : Type} {ev ev' : Evaluator ε} (name : String),
    (∀ v, R (ev v) (ev' v)) → R (ev.reference name) (ev'.reference name)

namespace Run.Compositional

variable {env : Env} {R : ∀ {ε α : Type}, Run ε α → Run ε α → Prop}

/-! ### Plain computations -/

section Plain

variable {ε ε' α β : Type}

theorem value (C : Compositional env R) (a : α) : R (Run.value a : Run ε α) (Run.value a) :=
  C.ofExcept (.ok a)

theorem fail (C : Compositional env R) (e : ε) : R (Run.fail e : Run ε α) (Run.fail e) :=
  C.ofExcept (.error e)

theorem bind (C : Compositional env R) {m m' : Run ε α} {f f' : α → Run ε β} (hm : R m m')
    (hf : ∀ a, R (f a) (f' a)) : R (m >>= f) (m' >>= f') :=
  C.andThen hm hf

theorem pure (C : Compositional env R) (a : α) : R (Pure.pure a : Run ε α) (Pure.pure a) :=
  C.value a

theorem traverse (C : Compositional env R) {f f' : α → Run ε β} (hf : ∀ a, R (f a) (f' a))
    (items : List α) : R (Run.traverse f items) (Run.traverse f' items) := by
  induction items with
  | nil => exact C.value []
  | cons a rest ih => exact C.andThen (hf a) fun b => C.andThen ih fun bs => C.value (b :: bs)

end Plain

/-! ### Parts of a node -/

section Parts

variable {ε : Type} {ev ev' : Evaluator ε}

theorem optional (C : Compositional env R) (h : ∀ v, R (ev v) (ev' v)) (node : Option Json) :
    R (ev.optional node) (ev'.optional node) := by
  cases node with
  | none => exact C.value none
  | some node => exact C.andThen (h node) fun v => C.value (some v)

theorem all (C : Compositional env R) (h : ∀ v, R (ev v) (ev' v)) (nodes : List Json) :
    R (ev.all nodes) (ev'.all nodes) :=
  C.traverse h nodes

theorem fields (C : Compositional env R) (h : ∀ v, R (ev v) (ev' v)) (entries : Dict Json) :
    R (ev.fields entries) (ev'.fields entries) := by
  refine C.traverse (fun entry => ?_) entries
  exact C.andThen (h entry.2) fun v => C.value (entry.1, v)

end Parts

/-! ### Operators -/

/-- A relation is a graded one that does not look at grades. -/
theorem graded (C : Compositional env R) :
    Run.Graded env (fun _ _ => True) (fun _ => 0) (fun _ {_} m m' => R m m') where
  mono _ h := h
  ofExcept := C.ofExcept
  andThen hm hf := C.andThen hm fun x => hf x trivial
  cached := C.cached
  call := C.call
  http := C.http
  sql := C.sql

variable {ev ev' : Evaluator OperatorFault} in
/-- What an operator computes, if some name resolves to it. -/
theorem compute (C : Compositional env R) (h : ∀ v, R (ev v) (ev' v)) {k : OperatorKind}
    (permitted : env.Permits k) (props : Props) :
    R (Evaluation.compute env ev k props) (Evaluation.compute env ev' k props) :=
  C.graded.compute_of_forall h permitted props

/-! ### Nodes -/

section Nodes

variable {ev ev' : Evaluator Failure}

theorem inside (C : Compositional env R) (h : ∀ v, R (ev v) (ev' v)) (v : Json) :
    R (Evaluation.inside ev v) (Evaluation.inside ev' v) :=
  C.mapFailure _ (h v)

theorem fallbackOr (C : Compositional env R) (h : ∀ v, R (ev v) (ev' v)) (fallback : Option Json)
    (failure : Failure) :
    R (Evaluation.fallbackOr env ev fallback failure)
      (Evaluation.fallbackOr env ev' fallback failure) := by
  unfold Evaluation.fallbackOr
  split
  · exact h _
  · split
    · exact C.value _
    · exact C.fail _

theorem gather (C : Compositional env R) (h : ∀ v, R (ev v) (ev' v)) (k : OperatorKind)
    (node : Dict Json) : R (Evaluation.gather ev k node) (Evaluation.gather ev' k node) := by
  unfold Evaluation.gather
  split
  · exact C.value _
  · next children _ =>
    refine C.bind ?_ fun _ => C.ofExcept _
    cases children with
    | array items => exact C.value items
    | _ =>
        refine C.bind (h _) fun v => ?_
        cases v with
        | array items => exact C.pure items
        | _ => exact C.fail _

theorem convert (C : Compositional env R) (h : ∀ v, R (ev v) (ev' v)) (k : OperatorKind)
    (node : Dict Json) (fallback : Option Json) (result : Json) :
    R (Evaluation.convert env ev k node fallback result)
      (Evaluation.convert env ev' k node fallback result) := by
  unfold Evaluation.convert
  split
  · exact C.value _
  · refine C.bind (C.attempt (h _)) fun outcome => ?_
    cases outcome with
    | error failure => exact C.fallbackOr h fallback failure
    | ok name =>
        dsimp only
        split
        · exact C.pure _
        · exact C.fallbackOr h fallback _

theorem computeOr (C : Compositional env R) (h : ∀ v, R (ev v) (ev' v)) {k : OperatorKind}
    (permitted : env.Permits k) (fallback : Option Json) (props : Props) :
    R (Evaluation.computeOr env ev k fallback props)
      (Evaluation.computeOr env ev' k fallback props) := by
  refine C.bind (C.attempt (C.compute (C.inside h) permitted props)) fun outcome => ?_
  cases outcome with
  | ok v => exact C.pure v
  | error fault => exact C.fallbackOr h fallback _

theorem apply (C : Compositional env R) (h : ∀ v, R (ev v) (ev' v)) {k : OperatorKind}
    (permitted : env.Permits k) (node : Dict Json) (fallback : Option Json) (props : Props) :
    R (Evaluation.apply env ev k node fallback props)
      (Evaluation.apply env ev' k node fallback props) := by
  unfold Evaluation.apply
  split
  · exact C.fallbackOr h fallback _
  · exact C.bind (C.computeOr h permitted fallback props) fun result =>
      C.convert h k node fallback result

theorem runOperator (C : Compositional env R) (h : ∀ v, R (ev v) (ev' v)) {k : OperatorKind}
    (permitted : env.Permits k) (node : Dict Json) :
    R (Evaluation.runOperator env ev k node) (Evaluation.runOperator env ev' k node) := by
  refine C.bind (C.attempt (C.gather h k node)) fun outcome => ?_
  cases outcome with
  | error failure => exact C.fallbackOr h _ failure
  | ok props => exact C.apply h permitted node _ _

end Nodes

end Run.Compositional

/-- An operator that a node names is one that some name resolves to. -/
theorem Env.permits_of_operatorOf? {env : Env} {node : Dict Json} {k : OperatorKind}
    (h : Evaluation.operatorOf? env node = some k) : env.Permits k := by
  obtain ⟨name, -, hk⟩ := Option.bind_eq_some_iff.mp h
  exact ⟨name, hk⟩

/-! ### References -/

/-- The name that a node refers to, if it is the name of a binding and not read as JSON text. -/
def Evaluation.referenceOf? (env : Env) (v : Json) : Option String :=
  match (v.asString?.filter fun _ => env.options.readsStrings).bind nodeInString? with
  | some _ => none
  | none => v.asString?.filter isBindingName

/-- A node that refers to a name has the value of the nearest binding, or is its own value. -/
theorem Evaluation.node_of_reference {env : Env} {ev : Evaluator Failure} {v : Json} {name : String}
    (h : referenceOf? env v = some name) :
    node env ev v = (do
      let bound ← ev.reference name
      pure (bound.getD (.string name))) := by
  cases hheld : (v.asString?.filter fun _ => env.options.readsStrings).bind nodeInString? with
  | some held =>
      rw [referenceOf?, hheld] at h
      cases h
  | none =>
      have hleaf : v.asString?.filter isBindingName = some name := by
        rwa [referenceOf?, hheld] at h
      have hnode : node env ev v = byKind env ev v := by rw [node, hheld]
      obtain ⟨hstring, hname⟩ := Option.filter_eq_some_iff.mp hleaf
      rw [hnode]
      cases v with
      | string s =>
          cases hstring
          simp only [byKind, classify, leaf, hname, if_true]
      | _ => cases hstring

namespace Run.Compositional

variable {env : Env} {R : ∀ {ε α : Type}, Run ε α → Run ε α → Prop} {ev ev' : Evaluator Failure}

theorem operatorBody (C : Compositional env R) (h : ∀ v, R (ev v) (ev' v)) (node : Dict Json) :
    R (Evaluation.operatorBody env ev node) (Evaluation.operatorBody env ev' node) := by
  unfold Evaluation.operatorBody
  split
  · next k hk => exact C.runOperator h (Env.permits_of_operatorOf? hk) node
  · exact C.fallbackOr h _ _

theorem fragmentName (C : Compositional env R) (h : ∀ v, R (ev v) (ev' v)) (node : Dict Json) :
    R (Evaluation.fragmentName ev node) (Evaluation.fragmentName ev' node) :=
  C.bind (C.optional h _) fun _ => C.pure _

theorem parametersOf (C : Compositional env R) (h : ∀ v, R (ev v) (ev' v)) (node : Dict Json) :
    R (Evaluation.parametersOf ev node) (Evaluation.parametersOf ev' node) := by
  unfold Evaluation.parametersOf
  split
  · split
    · exact C.optional h _
    · exact C.value _
  · exact C.value none

theorem fragmentNode (C : Compositional env R) (h : ∀ v, R (ev v) (ev' v)) (node : Dict Json) :
    R (Evaluation.fragmentNode env ev node) (Evaluation.fragmentNode env ev' node) := by
  refine C.bind (C.fragmentName h node) fun name => ?_
  split
  · exact C.fallbackOr h _ _
  · refine C.bind (C.parametersOf h node) fun parameters => ?_
    split
    · split
      · exact h _
      · exact C.pure _
    · exact C.pure _

/-- The rules for a node that refers to no binding respect the relation. -/
theorem node (C : Compositional env R) (h : ∀ v, R (ev v) (ev' v)) {v : Json}
    (hv : Evaluation.referenceOf? env v = none) :
    R (Evaluation.node env ev v) (Evaluation.node env ev' v) := by
  unfold Evaluation.referenceOf? at hv
  unfold Evaluation.node
  split
  · exact h _
  · next hheld =>
    rw [hheld] at hv
    unfold Evaluation.byKind
    split
    · exact C.bind (C.all h _) fun _ => C.pure _
    · split
      · exact C.fragmentNode h _
      · exact C.withFrame _ (C.operatorBody h _)
      · unfold Evaluation.leaf
        split
        · next s _ _ =>
          have hname : isBindingName s = false := by simpa [Json.asString?] using hv
          simp only [hname, Bool.false_eq_true, if_false]
          exact C.value _
        · split
          · exact C.bind (C.fields h _) fun _ => C.pure _
          · exact C.value _
        · exact C.value _

end Run.Compositional

namespace Run.Congruence

variable {env : Env} {R : ∀ {ε α : Type}, Run ε α → Run ε α → Prop} {ev ev' : Evaluator Failure}

/-- **The rules for one node respect the relation.** -/
theorem node (C : Congruence env R) (h : ∀ v, R (ev v) (ev' v)) (v : Json) :
    R (Evaluation.node env ev v) (Evaluation.node env ev' v) := by
  cases hv : Evaluation.referenceOf? env v with
  | none => exact C.toCompositional.node h hv
  | some name =>
      rw [Evaluation.node_of_reference hv, Evaluation.node_of_reference hv]
      exact C.bind (C.reference name h) fun _ => C.pure _

/-- Evaluation to a given depth is related to itself, if running out of depth is. -/
theorem eval (C : Congruence env R)
    (exhausted : R (Run.exhausted : Run Failure Json) Run.exhausted) (depth : Nat) (v : Json) :
    R (JsonExpr.eval env depth v) (JsonExpr.eval env depth v) := by
  induction depth generalizing v with
  | zero => exact exhausted
  | succ depth ih => exact C.node ih v

end Run.Congruence

end JsonExpr
