import JsonExpr.Host.Stock
import JsonExpr.Proofs.Evaluation.Calls
import JsonExpr.Proofs.Evaluation.Watch
import JsonExpr.Proofs.Registry

/-!
# Bindings are shared

The expression that a node binds is evaluated when a reference first asks for it, and again by the
next reference as long as it fails.  Once it has a value, all references see that value.  So an
expression that does not fail is evaluated at most once, and all references to it see the same; one
that fails at first may be seen to fail by one reference and to have a value by the next.

Main definitions:

* `JsonExpr.evalWatching` — evaluation that breaks off where a reference to a binding sees anything
  but what it should;
* `JsonExpr.ComesTo` — what evaluation of an expression may come to.

Main results:

* `JsonExpr.eval_watched` — evaluation only tries the expression, and runs the same watched;
* `JsonExpr.bound_expression_is_tried_until_it_has_a_value` — **a bound expression is evaluated until
  it first has a value, and all references share this value**;
* `JsonExpr.references_see_failure_then_value` — **a failure is not shared**.
-/

set_option autoImplicit false

namespace JsonExpr

/-! ### Evaluation -/

/-- Evaluation to a given depth that breaks off as soon as a reference to the binding sees anything
that is not shown by it. -/
noncomputable def evalWatching (env : Env) (b : Watch) : Nat → Evaluator Failure
  | 0 => fun _ => Run.exhausted
  | depth + 1 => fun v =>
    match Evaluation.referenceOf? env v with
    | some name => do
      let bound ← b.reference (eval env depth) (evalWatching env b depth) name
      pure (bound.getD (.string name))
    | none => Evaluation.node env (evalWatching env b depth) v

/-- What evaluation of an expression, to a depth of at most `depth` and where the given names are in
scope, may come to. -/
def ComesTo (env : Env) (depth : Nat) (names : List (List String)) (expression : Json)
    (a : Except Failure Json) : Prop :=
  ∃ d ≤ depth, ∃ u u' : World, u.names = names ∧ eval env d expression u = (some a, u')

theorem evalWatching_of_reference {env : Env} {b : Watch} {depth : Nat} {v : Json} {name : String}
    (h : Evaluation.referenceOf? env v = some name) :
    evalWatching env b (depth + 1) v = (do
      let bound ← b.reference (eval env depth) (evalWatching env b depth) name
      pure (bound.getD (.string name))) := by
  simp only [evalWatching, h]

theorem evalWatching_of_other {env : Env} {b : Watch} {depth : Nat} {v : Json}
    (h : Evaluation.referenceOf? env v = none) :
    evalWatching env b (depth + 1) v = Evaluation.node env (evalWatching env b depth) v := by
  simp only [evalWatching, h]

/-- Evaluation only tries the expression of a binding, and runs the same watched. -/
theorem eval_watched (env : Env) (b : Watch) {depth limit : Nat} (h : depth ≤ limit) (v : Json) :
    (eval env depth v).Watched b (ComesTo env limit b.outside b.final.expression)
      (evalWatching env b depth v) := by
  have C := Run.Watched.compositional env b (ComesTo env limit b.outside b.final.expression)
  induction depth generalizing v with
  | zero => exact Run.Watched.of_scope_eq fun _ => rfl
  | succ depth ih =>
      have hwatched := ih (Nat.le_of_succ_le h)
      rw [eval]
      cases hv : Evaluation.referenceOf? env v with
      | none =>
          rw [evalWatching_of_other hv]
          exact C.node hwatched hv
      | some name =>
          rw [evalWatching_of_reference hv, Evaluation.node_of_reference hv]
          refine C.bind (Run.Watched.reference hwatched (fun hu hrun => ?_) name) fun _ => C.pure _
          exact ⟨depth, Nat.le_of_succ_le h, _, _, hu, hrun⟩

/-- The slot that a node makes for a binding. -/
theorem Frame.get?_ofNode {node : Dict Json} {name : String} {e : Json}
    (hname : isBindingName name = true) (hget : Dict.get? node name = some e) :
    Dict.get? (Frame.ofNode node) name = some ⟨e, none, 0⟩ := by
  rw [ofNode, Dict.get?_mapValues, Dict.get?_filterKeys, if_pos hname, hget]
  rfl

/-- **A bound expression is evaluated until it first has a value, and all references share this
value.**  Let a node declare a binding and come to an end.  Then there is a list of outcomes of its
expression, each in the scope around the node, such that in the end the expression was evaluated
once for each of them and all but the last are failures; the value of the last, if it is one, is
kept.  The node comes to the same end if it is broken off as soon as a reference to the binding
sees another value than the one that is kept, or sees a failure although there was none.  So if the
expression does not fail, it is evaluated at most once and all references see the same value. -/
theorem bound_expression_is_tried_until_it_has_a_value {env : Env} {node : Dict Json}
    (operator : Dict.hasKey node Key.operator = true)
    (noFragment : Dict.hasKey node Key.fragment = false) {name : String} {e : Json}
    (hname : isBindingName name = true) (hbound : Dict.get? node name = some e) {depth : Nat}
    {w w' : World} {outcome : Except Failure Json}
    (h : eval env (depth + 1) (.object node) w = (some outcome, w')) :
    ∃ (attempts : List (Except Failure Json)) (final : Slot),
      final = ⟨e, attempts.getLast?.bind Except.toOption, attempts.length⟩ ∧
      (∀ a ∈ attempts, ComesTo env depth w.names e a) ∧
      (∀ a ∈ attempts.dropLast, ∃ failure, a = .error failure) ∧
      (∃ inside, Evaluation.operatorBody env (eval env depth) node (w.enter (Frame.ofNode node)) =
        (some outcome, inside) ∧ Scope.slot? w.scope.length name inside.scope = some final) ∧
      Run.withFrame (Frame.ofNode node) (Evaluation.operatorBody env
        (evalWatching env ⟨w.names, name, final⟩ depth) node) w = (some outcome, w') ∧
      ((∀ a ∈ attempts, ∃ v, a = .ok v) → attempts.length ≤ 1) := by
  rw [eval, Evaluation.node_operator env _ noFragment operator, Evaluation.operatorNode] at h
  obtain ⟨inside, hbody, rfl⟩ := Run.eq_of_withFrame h
  have hwatched : ∀ final : Slot, (Evaluation.operatorBody env (eval env depth) node).Watched
      ⟨w.names, name, final⟩ (ComesTo env depth w.names final.expression)
      (Evaluation.operatorBody env (evalWatching env ⟨w.names, name, final⟩ depth) node) := by
    intro final
    have C := Run.Watched.compositional env ⟨w.names, name, final⟩
      (ComesTo env depth w.names final.expression)
    exact C.operatorBody (eval_watched env ⟨w.names, name, final⟩ (Nat.le_refl depth)) node
  have hstart : ∀ final : Slot, final.expression = e →
      Watch.Has ⟨w.names, name, final⟩ (w.enter (Frame.ofNode node)) ⟨e, none, 0⟩ := by
    intro final he
    have hget := Frame.get?_ofNode hname hbound
    have hframe : ¬ (Frame.ofNode node).isEmpty = true := by
      intro hempty
      rw [List.isEmpty_iff] at hempty
      rw [hempty] at hget
      cases hget
    have hlength : w.scope.length = w.names.length := by rw [World.names, List.length_map]
    rw [World.enter, if_neg hframe]
    exact ⟨(Scope.slot?_here hlength).trans hget, he.symm, List.suffix_cons _ _⟩
  -- The slot at the end is found first; then the same run is watched with it.
  obtain ⟨final, hfinal, htried, -⟩ := (hwatched ⟨e, none, 0⟩).follows (hstart _ rfl) hbody
  obtain ⟨attempts, hattempts, hall, hfailed⟩ := htried.attempts rfl
  obtain ⟨final', hfinal', -, hsame⟩ :=
    (hwatched final).follows (hstart final htried.expression_eq) hbody
  have hunique : final' = final := Option.some.inj (hfinal'.slot.symm.trans hfinal.slot)
  refine ⟨attempts, final, ?_, hall, hfailed, ⟨inside, hbody, ?_⟩,
    Run.withFrame_of_eq (hsame (hunique ▸ .still _)), fun hok => ?_⟩
  · rw [hattempts, Nat.zero_add]
  · rw [← hfinal.slot, World.names, List.length_map]
  · rcases attempts with _ | ⟨a, _ | ⟨b, rest⟩⟩
    · exact Nat.zero_le 1
    · exact Nat.le_refl 1
    · obtain ⟨failure, ha⟩ := hfailed a List.mem_cons_self
      obtain ⟨v, hv⟩ := hok a List.mem_cons_self
      rw [ha] at hv
      cases hv

/-- A conjunction that refers to its binding twice. -/
theorem conjunction_shares_its_binding :
    let env : Env := ⟨Options.empty, Registry.full⟩
    let node : Dict Json := [("operator", .string "and"), ("$x", .bool true),
      ("values", .array [.string "$x", .string "$x"])]
    let w : World := ⟨[], ResultCache.empty 0, []⟩
    ∃ w', eval env 3 (.object node) w = (some (.ok (.bool true)), w') ∧
      ∃ (attempts : List (Except Failure Json)) (final : Slot),
        final = ⟨.bool true, attempts.getLast?.bind Except.toOption, attempts.length⟩ ∧
        Run.withFrame (Frame.ofNode node) (Evaluation.operatorBody env
          (evalWatching env ⟨[], "$x", final⟩ 2) node) w = (some (.ok (.bool true)), w') ∧
        ((∀ a ∈ attempts, ∃ v, a = .ok v) → attempts.length ≤ 1) := by
  intro env node w
  obtain ⟨w', h⟩ : ∃ w', eval env 3 (.object node) w = (some (.ok (.bool true)), w') := ⟨_, rfl⟩
  obtain ⟨attempts, final, hfinal, -, -, -, hwatched, honce⟩ :=
    bound_expression_is_tried_until_it_has_a_value rfl rfl
      (show isBindingName "$x" = true by decide) rfl h
  exact ⟨w', h, attempts, final, hfinal, hwatched, honce⟩

/-! ### A function that fails at first -/

/-- A reference to a binding without a value, in the frame that declares it, ends as the evaluation
of the expression does. -/
theorem eval_reference {env : Env} {depth : Nat} {name : String} {frame : Frame} {slot : Slot}
    {outer : Scope} {cache : ResultCache} {history : History} {o : Except Failure Json} {w : World}
    (hname : Evaluation.referenceOf? env (.string name) = some name)
    (hget : Dict.get? frame name = some slot) (hv : slot.value = none)
    (heval : eval env depth slot.expression ⟨outer, cache, history⟩ = (some o, w)) :
    eval env (depth + 1) (.string name) ⟨frame :: outer, cache, history⟩ =
      (some o, ⟨Dict.insert frame name ⟨slot.expression, o.toOption, slot.evaluations + 1⟩ :: w.scope,
        w.cache, w.history⟩) := by
  have hfind : Scope.find? (frame :: outer) name = some ⟨[], frame, slot, outer⟩ := by
    rw [Scope.find?, hget]
  have hreference : (eval env depth).reference name ⟨frame :: outer, cache, history⟩ =
      (some (o.map some), ⟨Dict.insert frame name
        ⟨slot.expression, o.toOption, slot.evaluations + 1⟩ :: w.scope, w.cache, w.history⟩) := by
    rw [Evaluator.reference_of_place hfind hv heval]
    cases o <;> rfl
  rw [eval, Evaluation.node_of_reference hname]
  cases o with
  | ok v => exact Run.bind_of_ok hreference
  | error e => exact Run.bind_of_error hreference

/-- A host with a function that fails when it is called for the first time. -/
def Env.withFlaky : Env := ⟨{ functions := some [("flaky", .flaky 0)] }, Registry.full⟩

/-- A call of that function. -/
def flakyCall : CallExpression Env.withFlaky 2 :=
  .ofLiteral ⟨"flaky", []⟩ false rfl rfl (Registry.resolve?_name .customFunctions)
    (show isBindingName "flaky" = false by decide) (by simp)

theorem eval_flakyCall {u : World} (hu : u.scope = []) :
    eval Env.withFlaky 3 (.object flakyCall.node) u =
      (((HostFunction.flaky 0).ask "flaky" [] u).1.map Env.withFlaky.outcomeOfCall,
        ((HostFunction.flaky 0).ask "flaky" [] u).2) := by
  have hfound : FunctionMap.find? (Env.withFlaky.options.functions.getD []) flakyCall.call.path =
      some ("flaky", .flaky 0) := rfl
  rw [flakyCall.eval_eq u hu, Asking.function_of_operands (flakyCall.operands u hu), hfound]
  rfl

/-- Inside a node that binds a call of that function, the first reference sees a failure and the
second one a value; the call is made twice. -/
theorem references_see_failure_then_value :
    let e : Json := .object flakyCall.node
    let inside : World :=
      World.enter ⟨[], ResultCache.empty 0, []⟩ (Frame.ofNode [("operator", .string "+"), ("$x", e)])
    ∃ failure first second,
      eval Env.withFlaky 4 (.string "$x") inside = (some (.error failure), first) ∧
      eval Env.withFlaky 4 (.string "$x") first = (some (.ok (.string "ok")), second) ∧
      Scope.slot? 0 "$x" second.scope = some ⟨e, some (.string "ok"), 2⟩ ∧
      History.callsOf second.history 0 = [[], []] := by
  intro e inside
  have hother : isBindingName "operator" = false := by decide
  have hname : isBindingName "$x" = true := by decide
  have hinside : inside = ⟨[[("$x", ⟨e, none, 0⟩)]], ResultCache.empty 0, []⟩ := by
    simp [inside, World.enter, Frame.ofNode, Dict.filterKeys, hother, hname, Dict.mapValues]
  have href : Evaluation.referenceOf? Env.withFlaky (.string "$x") = some "$x" := rfl
  have hget : ∀ slot : Slot, Dict.get? [("$x", slot)] "$x" = some slot := fun slot => by
    simp [Dict.get?]
  have hinsert : ∀ slot slot' : Slot, Dict.insert [("$x", slot)] "$x" slot' = [("$x", slot')] :=
    fun slot slot' => by simp [Dict.insert]
  have hfails : eval Env.withFlaky 3 e ⟨[], ResultCache.empty 0, []⟩ =
      (some (.error (NodeFault.operator .customFunctions (.function "not yet")).failure.cut),
        ⟨[], ResultCache.empty 0, [.call 0 "flaky" []]⟩) := eval_flakyCall rfl
  have hworks : eval Env.withFlaky 3 e ⟨[], ResultCache.empty 0, [.call 0 "flaky" []]⟩ =
      (some (.ok (.string "ok")),
        ⟨[], ResultCache.empty 0, [.call 0 "flaky" [], .call 0 "flaky" []]⟩) := eval_flakyCall rfl
  have hfirst := eval_reference href (hget ⟨e, none, 0⟩) rfl hfails
  have hsecond := eval_reference href (hget ⟨e, none, 1⟩) rfl hworks
  rw [hinsert] at hfirst hsecond
  rw [hinside]
  exact ⟨_, _, _, hfirst, hsecond, hget _, rfl⟩

end JsonExpr
