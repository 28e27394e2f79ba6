import JsonExpr.Proofs.Evaluation.Calls
import JsonExpr.Proofs.Evaluation.Depth
import JsonExpr.Proofs.Evaluation.Failure
import JsonExpr.Proofs.Evaluation.Scope
import JsonExpr.Proofs.Operator.Children

/-!
# Fallbacks

A fallback added to an operator node catches every failure inside the node and is not touched when
there is none.  It is no property of the operator and no binding, so it changes neither what the
operator computes from nor what is in scope; and wherever a failure of the node is turned into an
outcome, the fallback is at hand.

What comes after a caught failure need not be part of the evaluation without the fallback: when the
operator fails, the fallback still goes through the conversion that the node asks for.  So a node
that finishes also finishes with a fallback if that conversion does.

Main definitions:

* `JsonExpr.Evaluation.withFallback` — a node with a fallback added;
* `JsonExpr.Evaluation.Plain` — operator nodes without a fallback of their own;
* `JsonExpr.SelfEvaluating` — a value that evaluates to itself where certain names are in scope;
* `JsonExpr.Run.Improves`, `JsonExpr.Run.Settles` — a computation that yields the values of another,
  and a family of computations that ends alike from some depth on.

Main results:

* `JsonExpr.Evaluation.operatorBody_improves` — a node yields with a fallback what it yields without;
* `JsonExpr.Evaluation.operatorBody_settles` — a node that finishes also does so with a fallback;
* `JsonExpr.fallback_catches_failures_only` — **a fallback catches all failures and nothing else**.
-/

set_option autoImplicit false

namespace JsonExpr

/-! ### A fallback is added -/

namespace Evaluation

/-- A node with a fallback added. -/
def withFallback (node : Dict Json) (f : Json) : Dict Json := Dict.insert node Key.fallback f

/-- An operator node without a fallback of its own.  The second child of an `OBJECT_PROPERTIES` node
is its fallback, so such a node has no children. -/
structure Plain (env : Env) (node : Dict Json) : Prop where
  operator : Dict.hasKey node Key.operator = true
  noFragment : Dict.hasKey node Key.fragment = false
  noFallback : Dict.hasKey node Key.fallback = false
  noChildren : operatorOf? env node = some .objectProperties →
    Dict.hasKey node Key.children = false

theorem Plain.withFallback_noFragment {env : Env} {node : Dict Json} (plain : Plain env node)
    (f : Json) : Dict.hasKey (withFallback node f) Key.fragment = false := by
  rw [withFallback, Dict.hasKey_insert, plain.noFragment]
  rfl

theorem Plain.withFallback_operator {env : Env} {node : Dict Json} (plain : Plain env node)
    (f : Json) : Dict.hasKey (withFallback node f) Key.operator = true := by
  rw [withFallback, Dict.hasKey_insert, plain.operator]
  rfl

section Reading

variable {env : Env} {ev : Evaluator Failure} {node : Dict Json} {f : Json}

theorem get?_withFallback : Dict.get? (withFallback node f) Key.fallback = some f :=
  Dict.get?_insert_self node Key.fallback f

theorem get?_withFallback_of_ne {key : String} (h : key ≠ Key.fallback) :
    Dict.get? (withFallback node f) key = Dict.get? node key :=
  Dict.get?_insert_of_ne node f h

theorem operatorOf?_withFallback : operatorOf? env (withFallback node f) = operatorOf? env node := by
  rw [operatorOf?, get?_withFallback_of_ne (by decide), operatorOf?]

theorem shownName_withFallback : shownName (withFallback node f) = shownName node := by
  rw [shownName, get?_withFallback_of_ne (by decide), shownName]

theorem conversionOf_withFallback : conversionOf (withFallback node f) = conversionOf node := by
  rw [conversionOf, get?_withFallback_of_ne (by decide), get?_withFallback_of_ne (by decide),
    conversionOf]

theorem ofNode_withFallback (h : Dict.hasKey node Key.fallback = false) :
    Frame.ofNode (withFallback node f) = Frame.ofNode node := by
  have hname : isBindingName Key.fallback = false := by decide
  simp [Frame.ofNode, withFallback, Dict.insert_eq_append h, Dict.filterKeys, hname]

theorem ownProps_withFallback (h : Dict.hasKey node Key.fallback = false) (schema : OperatorSchema) :
    ownProps schema (withFallback node f) = ownProps schema node := by
  have hreserved : isReserved Key.fallback = true := by decide
  simp [ownProps, withFallback, Dict.insert_eq_append h, addProp, hreserved]

theorem gather_withFallback (h : Dict.hasKey node Key.fallback = false) (k : OperatorKind) :
    gather ev k (withFallback node f) = gather ev k node := by
  rw [gather, ownProps_withFallback h, get?_withFallback_of_ne (by decide), gather]

theorem apply_withFallback (k : OperatorKind) (fallback : Option Json) (props : Props) :
    apply env ev k (withFallback node f) fallback props = apply env ev k node fallback props := by
  simp only [apply, convert, conversionOf_withFallback]

end Reading

/-! ### No property is a fallback -/

section Properties

variable {props : Props}

/-- The properties of a node name no fallback, unless the second child of an `OBJECT_PROPERTIES` node
is one. -/
theorem hasKey_of_gather {ev : Evaluator Failure} {k : OperatorKind} {node : Dict Json}
    (hchildren : k = .objectProperties → Dict.hasKey node Key.children = false) {w w' : World}
    (h : gather ev k node w = (some (.ok props), w')) :
    Dict.hasKey props Key.fallback = false := by
  unfold gather at h
  cases hget : Dict.get? node Key.children with
  | none =>
      rw [hget] at h
      cases h
      exact hasKey_ownProps k node
  | some children =>
      rw [hget] at h
      have hk : k ≠ .objectProperties := fun hk => by
        rw [Dict.hasKey, hget] at hchildren
        cases hchildren hk
      obtain ⟨e, -, he⟩ | ⟨items, w₁, -, hplaced⟩ := Run.andThen_finished h
      · cases he
      · rw [Run.ofExcept_apply] at hplaced
        cases hp : placeChildren k items (ownProps k.schema node) with
        | error fault =>
            rw [hp] at hplaced
            cases hplaced
        | ok placed =>
            rw [hp] at hplaced
            cases hplaced
            have hchild := OperatorKind.fallback_not_child hk
            exact hasKey_placeChildren hchild (hasKey_ownProps k node) hp

/-- After the properties are gathered, the fallback added to a node is its fallback. -/
theorem fallbackOf_withFallback {node : Dict Json} {f : Json}
    (h : Dict.hasKey props Key.fallback = false) :
    fallbackOf (withFallback node f) props = some f := by
  rw [fallbackOf, Dict.hasKey_eq_false_iff.mp h, get?_withFallback]
  rfl

/-- Without a fallback among the properties, a node without one has none. -/
theorem fallbackOf_eq_none {node : Dict Json} (hnode : Dict.hasKey node Key.fallback = false)
    (h : Dict.hasKey props Key.fallback = false) : fallbackOf node props = none := by
  rw [fallbackOf, Dict.hasKey_eq_false_iff.mp h, Dict.hasKey_eq_false_iff.mp hnode]
  rfl

end Properties

end Evaluation

/-! ### Values stay as they are -/

/-- The second computation yields every value that the first does, in the same world. -/
def Run.Improves {ε α : Type} (m m' : Run ε α) : Prop :=
  ∀ w a w', m w = (some (.ok a), w') → m' w = (some (.ok a), w')

namespace Run.Improves

variable {ε α β : Type}

theorem refl (m : Run ε α) : m.Improves m := fun _ _ _ h => h

/-- Anything improves a computation that always fails. -/
theorem of_fails {m : Run ε α} {e : ε} (h : ∀ w, m w = (some (.error e), w)) (m' : Run ε α) :
    m.Improves m' := by
  intro w a w' hm
  rw [h w] at hm
  cases hm

/-- What follows is to be improved only where the first part leads to it. -/
theorem bind {m m' : Run ε α} {f f' : α → Run ε β} (hm : m.Improves m')
    (hf : ∀ w a w', m w = (some (.ok a), w') → (f a).Improves (f' a)) :
    (m >>= f).Improves (m' >>= f') := by
  intro w b w' h
  obtain ⟨e, -, he⟩ | ⟨a, w₁, h₁, h₂⟩ := Run.andThen_finished h
  · cases he
  · rw [Run.bind_of_ok (hm w a w₁ h₁)]
    exact hf w a w₁ h₁ w₁ b w' h₂

end Run.Improves

namespace Evaluation

variable {env : Env} {ev : Evaluator Failure} {k : OperatorKind} {node : Dict Json} {f : Json}

theorem fallbackOr_improves (raises : env.options.showsErrors = false) (fallback : Option Json)
    (failure : Failure) :
    (fallbackOr env ev none failure).Improves (fallbackOr env ev fallback failure) :=
  Run.Improves.of_fails (e := failure.cut) (fun w => by simp [fallbackOr, raises]) _

theorem computeOr_improves (raises : env.options.showsErrors = false) (fallback : Option Json)
    (props : Props) :
    (computeOr env ev k none props).Improves (computeOr env ev k fallback props) := by
  refine Run.Improves.bind (Run.Improves.refl _) fun _ outcome _ _ => ?_
  cases outcome with
  | ok v => exact Run.Improves.refl _
  | error fault => exact fallbackOr_improves raises fallback _

theorem convert_improves (raises : env.options.showsErrors = false) (fallback : Option Json)
    (result : Json) :
    (convert env ev k node none result).Improves (convert env ev k node fallback result) := by
  unfold convert
  split
  · exact Run.Improves.refl _
  · refine Run.Improves.bind (Run.Improves.refl _) fun _ outcome _ _ => ?_
    cases outcome with
    | error failure => exact fallbackOr_improves raises fallback failure
    | ok name =>
        dsimp only
        split
        · exact Run.Improves.refl _
        · exact fallbackOr_improves raises fallback _

theorem apply_improves (raises : env.options.showsErrors = false) (fallback : Option Json)
    (props : Props) :
    (apply env ev k node none props).Improves (apply env ev k node fallback props) := by
  unfold apply
  split
  · exact fallbackOr_improves raises fallback _
  · exact Run.Improves.bind (computeOr_improves raises fallback props) fun _ result _ _ =>
      convert_improves raises fallback result

theorem runOperator_improves (raises : env.options.showsErrors = false)
    (hnode : Dict.hasKey node Key.fallback = false)
    (hchildren : k = .objectProperties → Dict.hasKey node Key.children = false) :
    (runOperator env ev k node).Improves (runOperator env ev k (withFallback node f)) := by
  unfold runOperator
  rw [gather_withFallback hnode, Dict.hasKey_eq_false_iff.mp hnode]
  refine Run.Improves.bind (Run.Improves.refl _) fun w outcome w' h => ?_
  cases outcome with
  | error failure => exact fallbackOr_improves raises _ failure
  | ok props =>
      have hprops := hasKey_of_gather hchildren (Run.eq_of_attempt h)
      dsimp only
      rw [fallbackOf_eq_none hnode hprops, apply_withFallback]
      exact apply_improves raises _ _

/-- A node yields with a fallback what it yields without one. -/
theorem operatorBody_improves (raises : env.options.showsErrors = false) (plain : Plain env node) :
    (operatorBody env ev node).Improves (operatorBody env ev (withFallback node f)) := by
  unfold operatorBody
  rw [operatorOf?_withFallback, shownName_withFallback,
    Dict.hasKey_eq_false_iff.mp plain.noFallback]
  cases hk : operatorOf? env node with
  | none => exact fallbackOr_improves raises _ _
  | some k =>
      exact runOperator_improves raises plain.noFallback fun h => plain.noChildren (h ▸ hk)

end Evaluation

/-! ### Failures are caught -/

/-- A value that evaluates to itself, within some depth, wherever the given names are in scope. -/
def SelfEvaluating (env : Env) (names : List (List String)) (f : Json) : Prop :=
  ∃ depth, ∀ w : World, w.names = names → eval env depth f w = (some (.ok f), w)

theorem SelfEvaluating.ok_of_finished {env : Env} {names : List (List String)} {f : Json}
    (h : SelfEvaluating env names f) {depth : Nat} {w w' : World} (hw : w.names = names)
    {outcome : Except Failure Json} (hrun : eval env depth f w = (some outcome, w')) :
    outcome = .ok f ∧ w' = w := by
  obtain ⟨enough, hself⟩ := h
  exact eval_unique hrun (hself w hw)

namespace Evaluation

variable {env : Env} {node : Dict Json} {f : Json} {names : List (List String)}

theorem fallbackOr_safe (h : SelfEvaluating env names f) (depth : Nat) (failure : Failure) :
    (fallbackOr env (eval env depth) (some f) failure).Safe (·.names = names) := by
  intro w hw
  refine ⟨(eval_keepsNames env depth f w).trans hw, fun e he => ?_⟩
  obtain ⟨hout, -⟩ := h.ok_of_finished hw (Prod.ext he rfl)
  cases hout

/-- Nothing that fails inside an operator node with a fallback fails the node, unless its children
put another fallback in place of that. -/
theorem operatorBody_safe (hfallback : Dict.get? node Key.fallback = some f)
    (hchildren : operatorOf? env node = some .objectProperties →
      Dict.hasKey node Key.children = false)
    (h : SelfEvaluating env names f) (depth : Nat) :
    (operatorBody env (eval env depth) node).Safe (·.names = names) := by
  have hev := eval_keepsNames env depth
  have hgather : ∀ k, (gather (eval env depth) k node).KeepsNames :=
    fun k => gather_keepsNames hev _
  refine Run.FailsOnly.safe (operatorBody_failsOnly (fun v w hw => (hev v w).trans hw)
    (fun k _ w hw => (hgather k w).trans hw)
    (fun k props hk w hw =>
      (compute_keepsNames hev (Env.permits_of_operatorOf? hk) props w).trans hw)
    ?_ fun k w props w' hk _ hgather => ?_)
  · rw [hfallback]
    exact fallbackOr_safe h depth
  · have hprops := hasKey_of_gather (fun heq => hchildren (heq ▸ hk)) hgather
    rw [fallbackOf, Dict.hasKey_eq_false_iff.mp hprops, hfallback]
    exact fallbackOr_safe h depth

/-- Nothing that fails inside an operator node with a fallback added fails the node. -/
theorem operatorBody_withFallback_safe (plain : Plain env node) (h : SelfEvaluating env names f)
    (depth : Nat) :
    (operatorBody env (eval env depth) (withFallback node f)).Safe (·.names = names) := by
  refine operatorBody_safe get?_withFallback (fun hk => ?_) h depth
  rw [operatorOf?_withFallback] at hk
  rw [Dict.hasKey, get?_withFallback_of_ne (by decide)]
  exact plain.noChildren hk

end Evaluation

/-! ### A caught failure ends -/

/-- The computations of a family, by depth, end alike from some depth on. -/
def Run.Settles {ε α : Type} (m : Nat → Run ε α) (w : World) : Prop :=
  ∃ depth outcome w', ∀ depth', depth ≤ depth' → m depth' w = (some outcome, w')

namespace Run.Settles

variable {ε α β : Type} {w w₁ : World}

theorem value (a : α) (w : World) : Settles (fun _ => (Run.value a : Run ε α)) w :=
  ⟨0, .ok a, w, fun _ _ => rfl⟩

/-- A sequence settles if its first part comes to a value and its second part settles from there. -/
theorem bind {m : Nat → Run ε α} {f : Nat → α → Run ε β} {depth : Nat} {a : α}
    (hm : ∀ depth', depth ≤ depth' → m depth' w = (some (.ok a), w₁))
    (hf : Settles (fun depth => f depth a) w₁) : Settles (fun depth => m depth >>= f depth) w := by
  obtain ⟨depth₂, outcome, w₂, h₂⟩ := hf
  refine ⟨max depth depth₂, outcome, w₂, fun depth' hd => ?_⟩
  exact (Run.bind_of_ok (hm depth' (by omega))).trans (h₂ depth' (by omega))

end Run.Settles

namespace Evaluation

variable {env : Env} {node : Dict Json} {f : Json} {names : List (List String)} {k : OperatorKind}
  {w : World}

/-- The conversion that a node asks for finishes wherever the given names are in scope. -/
def ConversionFinishes (env : Env) (node : Dict Json) (names : List (List String)) : Prop :=
  ∀ conversion, conversionOf node = some conversion → ∀ w : World, w.names = names →
    ∃ depth outcome w', eval env depth conversion w = (some outcome, w')

theorem fallbackOr_settles (literal : SelfEvaluating env names f) (hw : w.names = names)
    (failure : Failure) :
    Run.Settles (fun depth => fallbackOr env (eval env depth) (some f) failure) w := by
  obtain ⟨enough, hself⟩ := literal
  exact ⟨enough, .ok f, w, fun depth hd => eval_mono hd f w _ _ (hself w hw)⟩

/-- What was attempted to some depth with an end comes to the same end to any greater depth. -/
theorem attempt_of_extends {ε α : Type} {m : Nat → Run ε α} {depth : Nat} {w₁ : World}
    {outcome : Except ε α} (hm : ∀ depth', depth ≤ depth' → (m depth).Extends (m depth'))
    (h : m depth w = (some outcome, w₁)) (depth' : Nat) (hd : depth ≤ depth') :
    (Run.attempt (m depth') : Run Failure _) w = (some (.ok outcome), w₁) := by
  rw [Run.attempt_apply, hm depth' hd w _ _ h]
  rfl

theorem convert_settles (literal : SelfEvaluating env names f) (hw : w.names = names)
    (finishes : ConversionFinishes env node names) (result : Json) :
    Run.Settles (fun depth => convert env (eval env depth) k node (some f) result) w := by
  unfold convert
  cases hc : conversionOf node with
  | none => exact Run.Settles.value result w
  | some conversion =>
      obtain ⟨depth, outcome, w₁, h⟩ := finishes conversion hc w hw
      have hw₁ : w₁.names = names := by
        rw [← hw, ← eval_keepsNames env depth conversion w, h]
      refine Run.Settles.bind (attempt_of_extends (fun _ hd => eval_mono hd conversion) h) ?_
      cases outcome with
      | error failure => exact fallbackOr_settles literal hw₁ failure
      | ok name =>
          dsimp only
          cases OutputType.ofName? name.toText with
          | some type => exact Run.Settles.value _ w₁
          | none => exact fallbackOr_settles literal hw₁ _

/-- What is computed settles with a fallback if the computation itself came to an end. -/
theorem computeOr_settles (literal : SelfEvaluating env names f) (permitted : env.Permits k)
    (hw : w.names = names) {props : Props} {depth : Nat} {outcome : Except OperatorFault Json}
    {w₁ : World} (h : compute env (inside (eval env depth)) k props w = (some outcome, w₁)) :
    ∃ depth result, ∀ depth', depth ≤ depth' →
      computeOr env (eval env depth') k (some f) props w = (some (.ok result), w₁) := by
  have C := Run.Extends.congruence env
  have hattempt := attempt_of_extends
    (m := fun depth => compute env (inside (eval env depth)) k props)
    (fun _ hd => C.compute (C.inside (eval_mono hd)) permitted props) h
  cases outcome with
  | ok v => exact ⟨depth, v, fun depth' hd => Run.bind_of_ok (hattempt depth' hd)⟩
  | error fault =>
      have hw₁ : w₁.names = names := by
        rw [← hw, ← compute_keepsNames (eval_keepsNames env depth) permitted props w, h]
      -- The fallback may take more depth than the operator did.
      obtain ⟨enough, hself⟩ := literal
      refine ⟨max depth enough, f, fun depth' hd => ?_⟩
      exact (Run.bind_of_ok (hattempt depth' (by omega))).trans
        (eval_mono (by omega) f w₁ _ _ (hself w₁ hw₁))

theorem apply_settles (literal : SelfEvaluating env names f) (permitted : env.Permits k)
    (hw : w.names = names) (finishes : ConversionFinishes env node names) {props : Props}
    {depth : Nat} {fallback : Option Json} {outcome : Except Failure Json} {w' : World}
    (h : apply env (eval env depth) k node fallback props w = (some outcome, w')) :
    Run.Settles (fun depth => apply env (eval env depth) k node (some f) props) w := by
  unfold apply at h ⊢
  cases hm : missing k props with
  | cons name names => exact fallbackOr_settles literal hw _
  | nil =>
      rw [hm] at h
      obtain ⟨_, _, hcomputeOr⟩ := Run.first_finished h
      obtain ⟨_, w₁, hattempt⟩ := Run.first_finished hcomputeOr
      obtain ⟨_, hcompute, -⟩ := Run.attempt_finished hattempt
      have hw₁ : w₁.names = names := by
        rw [← hw, ← compute_keepsNames (eval_keepsNames env depth) permitted props w, hcompute]
      obtain ⟨_, result, hresult⟩ := computeOr_settles literal permitted hw hcompute
      exact Run.Settles.bind hresult (convert_settles literal hw₁ finishes result)

theorem runOperator_settles (literal : SelfEvaluating env names f) (permitted : env.Permits k)
    (hnode : Dict.hasKey node Key.fallback = false)
    (hchildren : k = .objectProperties → Dict.hasKey node Key.children = false)
    (hw : w.names = names) (finishes : ConversionFinishes env node names) {depth : Nat}
    {outcome : Except Failure Json} {w' : World}
    (h : runOperator env (eval env depth) k node w = (some outcome, w')) :
    Run.Settles (fun depth => runOperator env (eval env depth) k (withFallback node f)) w := by
  unfold runOperator at h ⊢
  obtain ⟨e, hattempt, -⟩ | ⟨gathered, w₁, hattempt, hrest⟩ := Run.andThen_finished h
  · obtain ⟨_, -, ⟨⟩⟩ := Run.attempt_finished hattempt
  · have hgather := Run.eq_of_attempt hattempt
    have hw₁ : w₁.names = names := by
      rw [← hw, ← gather_keepsNames (eval_keepsNames env depth) node w, hgather]
    -- Properties are gathered alike with a fallback and without, and alike to any greater depth.
    have hsame := attempt_of_extends (m := fun depth => gather (eval env depth) k node)
      (fun _ hd => (Run.Extends.congruence env).gather (eval_mono hd) k node) hgather
    simp only [gather_withFallback hnode, get?_withFallback, apply_withFallback]
    refine Run.Settles.bind hsame ?_
    cases gathered with
    | error failure => exact fallbackOr_settles literal hw₁ failure
    | ok props =>
        simp only [fallbackOf_withFallback (hasKey_of_gather hchildren hgather)]
        exact apply_settles literal permitted hw₁ finishes hrest

/-- A node that finishes without a fallback also does so with one, if the conversion finishes that
it asks for. -/
theorem operatorBody_settles (literal : SelfEvaluating env names f) (plain : Plain env node)
    (hw : w.names = names) (finishes : ConversionFinishes env node names) {depth : Nat}
    {outcome : Except Failure Json} {w' : World}
    (h : operatorBody env (eval env depth) node w = (some outcome, w')) :
    Run.Settles (fun depth => operatorBody env (eval env depth) (withFallback node f)) w := by
  unfold operatorBody at h ⊢
  rw [operatorOf?_withFallback, get?_withFallback]
  cases hk : operatorOf? env node with
  | none => exact fallbackOr_settles literal hw _
  | some k =>
      rw [hk] at h
      exact runOperator_settles literal (Env.permits_of_operatorOf? hk) plain.noFallback
        (fun heq => plain.noChildren (heq ▸ hk)) hw finishes h

end Evaluation

/-- **A fallback catches all failures of its node and nothing else.**  In an environment that raises
failures, let a value that evaluates to itself be added as fallback to an operator node without one.
Then the node yields with it what it yields without it, in the same world and so with the same
questions to the host and the same cache; it never fails; and where it finishes without the
fallback, it yields a value with it, provided the conversion finishes that it asks for. -/
theorem fallback_catches_failures_only {env : Env} {node : Dict Json} {f : Json} {w : World}
    (raises : env.options.showsErrors = false) (plain : Evaluation.Plain env node)
    (literal : SelfEvaluating env (w.enter (Frame.ofNode node)).names f) :
    (∀ depth v w', eval env depth (.object node) w = (some (.ok v), w') →
      eval env depth (.object (Evaluation.withFallback node f)) w = (some (.ok v), w')) ∧
    (∀ depth outcome w', eval env depth (.object (Evaluation.withFallback node f)) w =
      (some outcome, w') → ∃ v, outcome = .ok v) ∧
    (∀ depth outcome w', eval env depth (.object node) w = (some outcome, w') →
      Evaluation.ConversionFinishes env node (w.enter (Frame.ofNode node)).names →
      ∃ depth v w', eval env depth (.object (Evaluation.withFallback node f)) w =
        (some (.ok v), w')) := by
  have hplain : ∀ depth, eval env (depth + 1) (.object node) =
      Run.withFrame (Frame.ofNode node) (Evaluation.operatorBody env (eval env depth) node) :=
    fun depth => Evaluation.node_operator env (eval env depth) plain.noFragment plain.operator
  have hcaught : ∀ depth, eval env (depth + 1) (.object (Evaluation.withFallback node f)) =
      Run.withFrame (Frame.ofNode node)
        (Evaluation.operatorBody env (eval env depth) (Evaluation.withFallback node f)) := by
    intro depth
    rw [eval, Evaluation.node_operator env _ (plain.withFallback_noFragment f)
      (plain.withFallback_operator f), Evaluation.operatorNode,
      Evaluation.ofNode_withFallback plain.noFallback]
  have hsafe : ∀ depth outcome w', eval env depth (.object (Evaluation.withFallback node f)) w =
      (some outcome, w') → ∃ v, outcome = .ok v := by
    intro depth outcome w' h
    cases depth with
    | zero => cases h
    | succ depth =>
        rw [hcaught] at h
        obtain ⟨w₁, hbody, -⟩ := Run.eq_of_withFrame h
        exact (Evaluation.operatorBody_withFallback_safe plain literal depth).ok_of_finished rfl hbody
  refine ⟨fun depth v w' h => ?_, hsafe, fun depth outcome w' h finishes => ?_⟩
  · cases depth with
    | zero => cases h
    | succ depth =>
        rw [hplain] at h
        rw [hcaught]
        obtain ⟨w₁, hbody, rfl⟩ := Run.eq_of_withFrame h
        exact Run.withFrame_of_eq (Evaluation.operatorBody_improves raises plain _ v w₁ hbody)
  · cases depth with
    | zero => cases h
    | succ depth =>
        rw [hplain] at h
        obtain ⟨w₁, hbody, -⟩ := Run.eq_of_withFrame h
        obtain ⟨enough, outcome, w₂, hsettled⟩ :=
          Evaluation.operatorBody_settles literal plain rfl finishes hbody
        have hrun : eval env (enough + 1) (.object (Evaluation.withFallback node f)) w =
            (some outcome, w₂.leave (Frame.ofNode node)) := by
          rw [hcaught]
          exact Run.withFrame_of_eq (hsettled enough (Nat.le_refl enough))
        obtain ⟨v, rfl⟩ := hsafe _ _ _ hrun
        exact ⟨enough + 1, v, _, hrun⟩

/-- A string that is no name of a binding evaluates to itself where strings are not read as nodes. -/
theorem SelfEvaluating.text {env : Env} (names : List (List String)) {s : String}
    (hname : isBindingName s = false) (hread : env.options.readsStrings = false) :
    SelfEvaluating env names (.string s) :=
  ⟨1, fun w _ => eval_text hread hname 0 w⟩

/-- A conjunction of something that is no list, with a text as its fallback. -/
theorem fallback_stands_in_for_conjunction :
    let env : Env := ⟨Options.empty, Registry.full⟩
    let node : Dict Json := [("operator", .string "and"), ("values", .string "x")]
    let w : World := ⟨[], ResultCache.empty 0, []⟩
    (∃ e w', eval env 3 (.object node) w = (some (.error e), w')) ∧
      ∃ depth v w', eval env depth (.object (Evaluation.withFallback node (.string "none"))) w =
        (some (.ok v), w') := by
  intro env node w
  have plain : Evaluation.Plain env node := ⟨rfl, rfl, rfl, fun _ => rfl⟩
  obtain ⟨-, -, hcaught⟩ := fallback_catches_failures_only (f := .string "none") (w := w) rfl plain
    (SelfEvaluating.text _ rfl rfl)
  obtain ⟨e, hfails⟩ : ∃ e, eval env 3 (.object node) w = (some (.error e), w) := ⟨_, rfl⟩
  refine ⟨⟨e, w, hfails⟩, hcaught 3 _ _ hfails ?_⟩
  intro conversion h
  cases h

end JsonExpr
