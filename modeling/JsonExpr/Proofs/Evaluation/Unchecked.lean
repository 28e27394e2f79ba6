import JsonExpr.Proofs.Evaluation.Fallback

/-!
# Operands that go unchecked

A check of operands passes or fails, and does nothing else.  Where failures are raised, a failure
that does not end the evaluation is made good by a fallback.  So if an evaluation comes to a value
and no fallback was evaluated on the way, then all its checks have passed, and without them it comes
to the same value in the same world.

That no fallback is evaluated is said by a second way of evaluating nodes, which stops, as if it had
run out of depth, where the first one would evaluate a fallback.  What it comes to is therefore what
the first one comes to without any fallback.

Main definitions:

* `JsonExpr.Env.unchecked` — the environment in which operands go unchecked;
* `JsonExpr.Evaluation.cleanNode`, `JsonExpr.evalClean` — evaluation that stops at fallbacks.

Main results:

* `JsonExpr.evalClean_extends` — where evaluation that stops at fallbacks finishes, it finishes as
  evaluation does;
* `JsonExpr.Evaluation.compute_unchecked` — an operator computes the same values without checks;
* `JsonExpr.Evaluation.cleanNode_unchecked` — so does a node that evaluates no fallback;
* `JsonExpr.clean_values_need_no_checks` — **skipping the checks never changes a value that was
  reached without a fallback**.
-/

set_option autoImplicit false

namespace JsonExpr

/-- The environment in which operands go unchecked. -/
def Env.unchecked (env : Env) : Env :=
  { env with options := { env.options with skipRuntimeTypeCheck := some true } }

/-! ### Evaluation that stops at fallbacks -/

/-- The same computation, but stopped where it would fail. -/
def Run.orStopped {ε α : Type} (m : Run ε α) : Run ε α := fun w =>
  match m w with
  | (some (.error _), w) => (none, w)
  | result => result

namespace Evaluation

/-- A computation that stops instead of failing if there is a fallback to be evaluated. -/
def stopAt (fallback : Option Json) (m : Run Failure Json) : Run Failure Json :=
  match fallback with
  | some _ => m.orStopped
  | none => m

/-- The value of an operator node whose bindings are in scope, if it needs no fallback. -/
def cleanBody (env : Env) (ev : Evaluator Failure) (node : Dict Json) : Run Failure Json :=
  match operatorOf? env node with
  | some k => do
    match ← (gather ev k node).attempt with
    | .error failure => stopAt (Dict.get? node Key.fallback) (fallbackOr env ev none failure)
    | .ok props => stopAt (fallbackOf node props) (apply env ev k node none (withoutFallback props))
  | none =>
    stopAt (Dict.get? node Key.fallback)
      (fallbackOr env ev none (NodeFault.invalidOperator (shownName node)).failure)

/-- The value of a fragment node, if it needs no fallback. -/
def cleanFragment (env : Env) (ev : Evaluator Failure) (node : Dict Json) : Run Failure Json :=
  fun w =>
    match fragmentName ev node w with
    | (some (.ok name), w₁) =>
      match env.options.fragments.bind fun fragments => Dict.get? fragments name with
      | none => stopAt (Dict.get? node Key.fallback)
          (fallbackOr env ev none (NodeFault.fragmentNotDefined name).failure) w₁
      | some _ => fragmentNode env ev node w
    | _ => fragmentNode env ev node w

/-- The rules for one node, as far as it needs no fallback of its own. -/
def cleanNode (env : Env) (ev : Evaluator Failure) (v : Json) : Run Failure Json :=
  match classify v with
  | .fragment node => cleanFragment env ev node
  | .operator node => Run.withFrame (Frame.ofNode node) (cleanBody env ev node)
  | .leaf => node env ev v

end Evaluation

/-- Evaluation that stops where a fallback is to be evaluated. -/
def evalClean (env : Env) : Nat → Evaluator Failure
  | 0 => fun _ => Run.exhausted
  | depth + 1 => Evaluation.cleanNode env (evalClean env depth)

/-! ### Kinds of node -/

theorem classify_eq_fragment {v : Json} {node : Dict Json} (h : classify v = .fragment node) :
    v = .object node ∧ Dict.hasKey node Key.fragment = true := by
  cases v with
  | object fields =>
      by_cases hfragment : Dict.hasKey fields Key.fragment = true
      · simp only [classify, hfragment, if_true, NodeKind.fragment.injEq] at h
        subst h
        exact ⟨rfl, hfragment⟩
      · by_cases hoperator : Dict.hasKey fields Key.operator = true <;>
          simp only [classify, hfragment, hoperator, if_true] at h <;> cases h
  | _ => cases h

theorem classify_eq_operator {v : Json} {node : Dict Json} (h : classify v = .operator node) :
    v = .object node ∧ Dict.hasKey node Key.fragment = false ∧
      Dict.hasKey node Key.operator = true := by
  cases v with
  | object fields =>
      by_cases hfragment : Dict.hasKey fields Key.fragment = true
      · simp only [classify, hfragment, if_true] at h
        cases h
      · by_cases hoperator : Dict.hasKey fields Key.operator = true
        · simp only [classify, hfragment, hoperator, if_true] at h
          cases h
          exact ⟨rfl, Bool.eq_false_iff.mpr hfragment, hoperator⟩
        · simp only [classify, hfragment, hoperator] at h
          cases h
  | _ => cases h

/-! ### Values stay as they are -/

namespace Run.Improves

variable {ε ε' α β : Type}

theorem trans {m m' m'' : Run ε α} (h : m.Improves m') (h' : m'.Improves m'') : m.Improves m'' :=
  fun w a w' hm => h' w a w' (h w a w' hm)

theorem andThen {m m' : Run ε α} {f f' : α → Run ε β} (hm : m.Improves m')
    (hf : ∀ a, (f a).Improves (f' a)) : (Run.andThen m f).Improves (Run.andThen m' f') :=
  bind hm fun _ a _ _ => hf a

theorem traverse {f f' : α → Run ε β} (hf : ∀ a, (f a).Improves (f' a)) (items : List α) :
    (Run.traverse f items).Improves (Run.traverse f' items) := by
  induction items with
  | nil => exact refl _
  | cons a rest ih => exact andThen (hf a) fun b => andThen ih fun bs => refl _

/-- A failure that is caught must not lead to a value. -/
theorem attempt_bind {m m' : Run ε α} {f f' : Except ε α → Run ε' β} (hm : m.Improves m')
    (hfails : ∀ e w b w', f (.error e) w ≠ (some (.ok b), w'))
    (hf : ∀ a, (f (.ok a)).Improves (f' (.ok a))) :
    (m.attempt >>= f).Improves (m'.attempt >>= f') := by
  intro w b w' h
  obtain ⟨e, -, he⟩ | ⟨outcome, w₁, hattempt, hrest⟩ := Run.andThen_finished h
  · cases he
  · have houtcome := Run.eq_of_attempt hattempt
    cases outcome with
    | error e => exact absurd hrest (hfails e w₁ b w')
    | ok a =>
        rw [Run.bind_of_ok (Run.attempt_of_finished (hm w a w₁ houtcome))]
        exact hf a w₁ b w' hrest

theorem mapFailure (g : ε → ε') {m m' : Run ε α} (hm : m.Improves m') :
    (Run.mapFailure g m).Improves (Run.mapFailure g m') := by
  intro w a w' h
  rcases hrun : m w with ⟨_ | e | b, w₁⟩ <;> rw [Run.mapFailure_apply, hrun] at h <;> cases h
  rw [Run.mapFailure_apply, hm w a w₁ hrun]
  rfl

theorem withFrame (frame : Frame) {m m' : Run ε α} (hm : m.Improves m') :
    (Run.withFrame frame m).Improves (Run.withFrame frame m') := by
  intro w a w' h
  obtain ⟨w₁, hinside, rfl⟩ := Run.eq_of_withFrame h
  exact Run.withFrame_of_eq (hm _ a w₁ hinside)

theorem cached (key : String) {m m' : Run OperatorFault Json} (hm : m.Improves m') :
    (Asking.cached key m).Improves (Asking.cached key m') := by
  intro w a w' h
  unfold Asking.cached at h ⊢
  split at h
  · exact h
  · rcases hrun : m w with ⟨_ | e | b, w₁⟩ <;> rw [hrun] at h <;> cases h
    rw [hm w a w₁ hrun]

theorem reference {ev ev' : Evaluator ε} (h : ∀ v, (ev v).Improves (ev' v)) (name : String) :
    (ev.reference name).Improves (ev'.reference name) := by
  intro w a w' hw
  unfold Evaluator.reference at hw ⊢
  split at hw
  · exact hw
  · next p _ =>
    split at hw
    · exact hw
    · next hvalue =>
      rcases hrun : ev p.slot.expression { w with scope := p.outer } with ⟨_ | e | b, w₁⟩ <;>
        rw [hrun] at hw <;> cases hw
      dsimp only
      rw [h _ _ b w₁ hrun]
      rfl

/-- Keeping values is a graded relation that does not look at grades. -/
theorem graded (env : Env) :
    Run.Graded env (fun _ _ => True) (fun _ => 0) (fun _ {_} m m' => m.Improves m') where
  mono _ h := h
  ofExcept _ := refl _
  andThen hm hf := andThen hm fun a => hf a trivial
  cached key _ _ _ := cached key
  call _ _ _ _ := refl _
  http _ _ _ := refl _
  sql _ _ _ := refl _

theorem orStopped {m m' : Run ε α} (hm : m.Improves m') : m.orStopped.Improves m' := by
  intro w a w' h
  unfold Run.orStopped at h
  rcases hrun : m w with ⟨_ | e | b, w₁⟩ <;> rw [hrun] at h <;> cases h
  exact hm w a w' hrun

end Run.Improves

/-! ### What is reached without a fallback -/

namespace Evaluation

section Stopped

variable {env : Env} {ev ev' : Evaluator Failure}

/-- Where failures are raised, a failure without a fallback leads to no value. -/
theorem fallbackOr_ne_ok (raises : env.options.showsErrors = false) (ev : Evaluator Failure)
    (failure : Failure) (w : World) (v : Json) (w' : World) :
    fallbackOr env ev none failure w ≠ (some (.ok v), w') := by
  simp [fallbackOr, raises]

theorem stopAt_ne_ok (raises : env.options.showsErrors = false) (ev : Evaluator Failure)
    (fallback : Option Json) (failure : Failure) (w : World) (v : Json) (w' : World) :
    stopAt fallback (fallbackOr env ev none failure) w ≠ (some (.ok v), w') := by
  cases fallback <;> simp [stopAt, fallbackOr, raises, Run.orStopped]

/-- What stops in front of a fallback goes on as any computation that has one. -/
theorem stopAt_extends {m : Option Json → Run Failure Json} {m' : Run Failure Json}
    (hm : m'.Extends (m none)) (hvalues : ∀ fallback, (m none).Improves (m fallback))
    (fallback : Option Json) : (stopAt fallback m').Extends (m fallback) := by
  cases fallback with
  | none => exact hm
  | some f =>
      intro w outcome w' h
      simp only [stopAt, Run.orStopped] at h
      rcases hrun : m' w with ⟨_ | e | v, w₁⟩ <;> rw [hrun] at h <;> cases h
      exact hvalues (some f) w v w' (hm w _ w' hrun)

theorem stopAt_fallbackOr_extends (raises : env.options.showsErrors = false)
    (fallback : Option Json) (failure : Failure) :
    (stopAt fallback (fallbackOr env ev none failure)).Extends
      (fallbackOr env ev' fallback failure) :=
  stopAt_extends (m := fun fallback => fallbackOr env ev' fallback failure) (Run.Extends.refl _)
    (fun fallback => fallbackOr_improves raises fallback failure) fallback

variable (raises : env.options.showsErrors = false) (h : ∀ v, (ev v).Extends (ev' v))

include raises h

theorem cleanBody_extends (node : Dict Json) :
    (cleanBody env ev node).Extends (operatorBody env ev' node) := by
  have C := Run.Extends.congruence env
  unfold cleanBody operatorBody
  cases hk : operatorOf? env node with
  | none => exact stopAt_fallbackOr_extends raises _ _
  | some k =>
      refine C.bind (C.attempt (C.gather h k node)) fun gathered => ?_
      cases gathered with
      | error failure => exact stopAt_fallbackOr_extends raises _ _
      | ok props =>
          have happly := C.apply h (Env.permits_of_operatorOf? hk) node none (withoutFallback props)
          exact stopAt_extends (m := fun fallback => apply env ev' k node fallback _) happly
            (fun fallback => apply_improves raises fallback _) (fallbackOf node props)

theorem cleanFragment_extends (node : Dict Json) :
    (cleanFragment env ev node).Extends (fragmentNode env ev' node) := by
  have C := Run.Extends.congruence env
  have hname : (fragmentName ev node).Extends (fragmentName ev' node) :=
    C.bind (C.optional h _) fun _ => C.pure _
  intro w outcome w' hw
  unfold cleanFragment at hw
  rcases hrun : fragmentName ev node w with ⟨_ | e | name, w₁⟩ <;> rw [hrun] at hw
  · exact C.fragmentNode h node w outcome w' hw
  · exact C.fragmentNode h node w outcome w' hw
  · dsimp only at hw
    split at hw
    · next hundefined =>
      rw [fragmentNode, Run.bind_of_ok (hname w _ w₁ hrun), hundefined]
      exact stopAt_fallbackOr_extends raises _ _ w₁ outcome w' hw
    · exact C.fragmentNode h node w outcome w' hw

/-- What a node comes to that needs no fallback is what it comes to. -/
theorem cleanNode_extends (v : Json) : (cleanNode env ev v).Extends (node env ev' v) := by
  unfold cleanNode
  cases hclass : classify v with
  | fragment node =>
      obtain ⟨rfl, hfragment⟩ := classify_eq_fragment hclass
      rw [node_fragment env ev' hfragment]
      exact cleanFragment_extends raises h node
  | operator node =>
      obtain ⟨rfl, hfragment, hoperator⟩ := classify_eq_operator hclass
      rw [node_operator env ev' hfragment hoperator]
      exact Run.Extends.withFrame _ (cleanBody_extends raises h node)
  | leaf => exact (Run.Extends.congruence env).node h v

end Stopped

end Evaluation

/-- **Evaluation that stops at fallbacks finishes as evaluation does**, where it finishes. -/
theorem evalClean_extends {env : Env} (raises : env.options.showsErrors = false) (depth : Nat)
    (v : Json) : (evalClean env depth v).Extends (eval env depth v) := by
  induction depth generalizing v with
  | zero => exact Run.Extends.refl _
  | succ depth ih => exact Evaluation.cleanNode_extends raises ih v

/-! ### Operators -/

section Operators

variable {env : Env} {ev ev' : Evaluator OperatorFault}

/-- Without checks, everything passes that passes with them. -/
theorem Env.check_improves (env : Env) (items : List TypeCheck.Item) :
    (Run.ofExcept (env.check items)).Improves (Run.ofExcept (env.unchecked.check items)) := by
  intro w a w' h
  cases hcheck : env.check items with
  | error fault =>
      rw [hcheck] at h
      cases h
  | ok _ =>
      rw [hcheck] at h
      exact h

/-- A check in front of a computation. -/
theorem Env.check_bind_improves {α : Type} (env : Env) (items : List TypeCheck.Item)
    (f : Unit → Run OperatorFault α) :
    (Run.ofExcept (env.check items) >>= f).Improves
      (Run.ofExcept (env.unchecked.check items) >>= f) :=
  Run.Improves.bind (env.check_improves items) fun _ _ _ _ => Run.Improves.refl _

namespace Evaluation

/-- The pure functions of operators do not look at the option that skips checks. -/
theorem compute_options {k : OperatorKind} {op : StrictOperator} (hop : k.operation = .strict op)
    (env : Env) : op.compute env.options = op.compute env.unchecked.options := by
  cases k <;> cases hop <;> rfl

theorem meets_unchecked (env : Env) (ev : Evaluator OperatorFault) (k : OperatorKind)
    (wanted : Bool) (props : Props) :
    (Branching.meets env ev k wanted props).Improves
      (Branching.meets env.unchecked ev k wanted props) := by
  unfold Branching.meets
  split
  · exact Run.Improves.refl _
  · exact Run.Improves.andThen (Run.Improves.refl _) fun _ => env.check_bind_improves _ _

/-- **An operator computes the same values without checks.** -/
theorem compute_unchecked (env : Env) (ev : Evaluator OperatorFault) (k : OperatorKind)
    (props : Props) :
    (compute env ev k props).Improves (compute env.unchecked ev k props) := by
  have refl : ∀ {α : Type} (m : Run OperatorFault α), m.Improves m := Run.Improves.refl
  unfold compute
  cases hop : k.operation with
  | strict op =>
      dsimp only [strict]
      rw [← compute_options hop]
      exact Run.Improves.andThen (refl _) fun _ => env.check_bind_improves _ _
  | conjunction => exact Run.Improves.andThen (meets_unchecked env ev _ _ _) fun _ => refl _
  | disjunction => exact Run.Improves.andThen (meets_unchecked env ev _ _ _) fun _ => refl _
  | conditional => exact Run.Improves.andThen (refl _) fun _ => env.check_bind_improves _ _
  | matching =>
      exact Run.Improves.andThen (refl _) fun _ => Run.Improves.andThen (refl _) fun _ =>
        env.check_bind_improves _ _
  | buildObject =>
      dsimp only [Branching.buildObject]
      split
      · exact refl _
      · exact Run.Improves.andThen (refl _) fun _ => env.check_bind_improves _ _
  -- What is asked of the host depends on options that are the same.
  | request method => exact Run.Improves.andThen (refl _) fun _ => env.check_bind_improves _ _
  | graphQL => exact Run.Improves.andThen (refl _) fun _ => env.check_bind_improves _ _
  | sql => exact Run.Improves.andThen (refl _) fun _ => env.check_bind_improves _ _
  | function => exact Run.Improves.andThen (refl _) fun _ => env.check_bind_improves _ _

end Evaluation

end Operators

/-! ### Nodes -/

namespace Evaluation

section Nodes

variable {env : Env} {ev ev' : Evaluator Failure} {k : OperatorKind}

theorem stopAt_improves {m m' : Run Failure Json} (h : m.Improves m') (fallback : Option Json) :
    (stopAt fallback m).Improves m' := by
  cases fallback with
  | none => exact h
  | some _ => exact h.orStopped

section Related

variable (h : ∀ v, (ev v).Improves (ev' v))

include h

theorem optional_improves (node : Option Json) :
    (ev.optional node).Improves (ev'.optional node) := by
  cases node with
  | none => exact Run.Improves.refl _
  | some node => exact Run.Improves.andThen (h node) fun _ => Run.Improves.refl _

theorem fields_improves (entries : Dict Json) :
    (ev.fields entries).Improves (ev'.fields entries) := by
  refine Run.Improves.traverse (fun e => ?_) entries
  exact Run.Improves.andThen (h e.2) fun _ => Run.Improves.refl _

theorem inside_compute_improves (permitted : env.Permits k) (props : Props) :
    (compute env (inside ev) k props).Improves (compute env.unchecked (inside ev') k props) := by
  have hcompute : (compute env (inside ev) k props).Improves (compute env (inside ev') k props) :=
    (Run.Improves.graded env).compute_of_forall (fun v => (h v).mapFailure _) permitted props
  exact hcompute.trans (compute_unchecked env _ k props)

theorem gather_improves (node : Dict Json) : (gather ev k node).Improves (gather ev' k node) := by
  unfold gather
  split
  · exact Run.Improves.refl _
  · next children _ =>
    refine Run.Improves.andThen ?_ fun _ => Run.Improves.refl _
    cases children with
    | array items => exact Run.Improves.refl _
    | _ => exact Run.Improves.andThen (h _) fun _ => Run.Improves.refl _

theorem computeOr_unchecked (raises : env.options.showsErrors = false) (permitted : env.Permits k)
    (props : Props) :
    (computeOr env ev k none props).Improves (computeOr env.unchecked ev' k none props) :=
  Run.Improves.attempt_bind (inside_compute_improves h permitted props)
    (fun fault => fallbackOr_ne_ok raises ev (NodeFault.operator k fault).failure)
    fun _ => Run.Improves.refl _

theorem convert_unchecked (raises : env.options.showsErrors = false) (node : Dict Json)
    (result : Json) :
    (convert env ev k node none result).Improves (convert env.unchecked ev' k node none result) := by
  unfold convert
  split
  · exact Run.Improves.refl _
  · refine Run.Improves.attempt_bind (h _) (fallbackOr_ne_ok raises ev) fun name => ?_
    dsimp only
    split
    · exact Run.Improves.refl _
    · exact fun w v w' hw => absurd hw (fallbackOr_ne_ok raises ev _ w v w')

/-- What a node comes to without a fallback, it comes to with one and without checks. -/
theorem apply_unchecked (raises : env.options.showsErrors = false) (permitted : env.Permits k)
    (node : Dict Json) (fallback : Option Json) (props : Props) :
    (apply env ev k node none props).Improves
      (apply env.unchecked ev' k node fallback props) := by
  have hwithout : (apply env ev k node none props).Improves
      (apply env.unchecked ev' k node none props) := by
    unfold apply
    split
    · exact fun w v w' hw => absurd hw (fallbackOr_ne_ok raises ev _ w v w')
    · exact Run.Improves.andThen (computeOr_unchecked h raises permitted props) fun result =>
        convert_unchecked h raises node result
  have hraises : env.unchecked.options.showsErrors = false := raises
  exact hwithout.trans (apply_improves hraises fallback props)

theorem cleanBody_unchecked (raises : env.options.showsErrors = false) (node : Dict Json) :
    (cleanBody env ev node).Improves (operatorBody env.unchecked ev' node) := by
  unfold cleanBody operatorBody
  cases hk : operatorOf? env node with
  | none => exact fun w v w' hw => absurd hw (stopAt_ne_ok raises ev _ _ w v w')
  | some k =>
      have hknown : operatorOf? env.unchecked node = some k := hk
      rw [hknown]
      refine Run.Improves.attempt_bind (gather_improves h node)
        (stopAt_ne_ok raises ev _) fun props => ?_
      exact stopAt_improves (apply_unchecked h raises (Env.permits_of_operatorOf? hk) node _ _) _

theorem fragmentName_improves (node : Dict Json) :
    (fragmentName ev node).Improves (fragmentName ev' node) :=
  Run.Improves.andThen (optional_improves h _) fun _ => Run.Improves.refl _

theorem cleanFragment_unchecked (raises : env.options.showsErrors = false) (node : Dict Json) :
    (cleanFragment env ev node).Improves (fragmentNode env.unchecked ev' node) := by
  -- A fragment that is defined is evaluated without a fallback in any case.
  have hdefined : ∀ {w w₁ w' : World} {name : String} {v definition : Json},
      fragmentName ev node w = (some (.ok name), w₁) →
      (env.options.fragments.bind fun fragments => Dict.get? fragments name) = some definition →
      fragmentNode env ev node w = (some (.ok v), w') →
      fragmentNode env.unchecked ev' node w = (some (.ok v), w') := by
    intro w w₁ w' name v definition hname hdefinition hw
    have hdefinition' : (env.unchecked.options.fragments.bind fun fragments =>
        Dict.get? fragments name) = some definition := hdefinition
    unfold fragmentNode at hw ⊢
    rw [Run.bind_of_ok hname, hdefinition] at hw
    rw [Run.bind_of_ok (fragmentName_improves h node w name w₁ hname), hdefinition']
    dsimp only at hw ⊢
    refine Run.Improves.andThen ?_ (fun parameters => ?_) w₁ v w' hw
    · unfold parametersOf
      split
      · split
        · exact optional_improves h _
        · exact Run.Improves.refl _
      · exact Run.Improves.refl _
    · have htemplate : templateOf env.unchecked definition = templateOf env definition := rfl
      rw [htemplate]
      split
      · split
        · exact h _
        · exact Run.Improves.refl _
      · exact Run.Improves.refl _
  intro w v w' hw
  unfold cleanFragment at hw
  rcases hname : fragmentName ev node w with ⟨_ | e | name, w₁⟩ <;> rw [hname] at hw <;>
    dsimp only at hw
  · rw [fragmentNode, Run.bind_of_exhausted hname] at hw
    cases hw
  · rw [fragmentNode, Run.bind_of_error hname] at hw
    cases hw
  · split at hw
    · exact absurd hw (stopAt_ne_ok raises ev _ _ w₁ v w')
    · next definition hdefinition => exact hdefined hname hdefinition hw

theorem leaf_unchecked (v : Json) : (leaf env ev v).Improves (leaf env.unchecked ev' v) := by
  have henters : env.unchecked.options.entersObjects = env.options.entersObjects := rfl
  unfold leaf
  rw [henters]
  split
  · split
    · exact Run.Improves.andThen (Run.Improves.reference h _) fun _ => Run.Improves.refl _
    · exact Run.Improves.refl _
  · split
    · exact Run.Improves.andThen (fields_improves h _) fun _ => Run.Improves.refl _
    · exact Run.Improves.refl _
  · exact Run.Improves.refl _

/-- **A node that evaluates no fallback has the same value without checks.** -/
theorem cleanNode_unchecked (raises : env.options.showsErrors = false) (v : Json) :
    (cleanNode env ev v).Improves (node env.unchecked ev' v) := by
  unfold cleanNode
  cases hclass : classify v with
  | fragment node =>
      obtain ⟨rfl, hfragment⟩ := classify_eq_fragment hclass
      rw [node_fragment env.unchecked ev' hfragment]
      exact cleanFragment_unchecked h raises node
  | operator node =>
      obtain ⟨rfl, hfragment, hoperator⟩ := classify_eq_operator hclass
      rw [node_operator env.unchecked ev' hfragment hoperator]
      exact (cleanBody_unchecked h raises node).withFrame _
  | leaf =>
      have hreads : env.unchecked.options.readsStrings = env.options.readsStrings := rfl
      show (node env ev v).Improves _
      unfold node byKind
      rw [hreads]
      split
      · exact h _
      · split
        · exact Run.Improves.andThen (Run.Improves.traverse h _) fun _ => Run.Improves.refl _
        · simp only [hclass]
          exact leaf_unchecked h v

end Related

end Nodes

end Evaluation

/-- What is reached without a fallback is reached without checks as well. -/
theorem evalClean_unchecked {env : Env} (raises : env.options.showsErrors = false) (depth : Nat)
    (v : Json) : (evalClean env depth v).Improves (eval env.unchecked depth v) := by
  induction depth generalizing v with
  | zero => exact Run.Improves.refl _
  | succ depth ih => exact Evaluation.cleanNode_unchecked ih raises v

/-- **Skipping the checks never changes a value that was reached without a fallback.**  In an
environment that raises failures, let an evaluation come to a value, and let it be the same if it
has to stop at fallbacks.  Then without checks it comes to the same value in the same world, and so
with the same questions to the host and the same cache. -/
theorem clean_values_need_no_checks {env : Env} (raises : env.options.showsErrors = false)
    {depth : Nat} {expression v : Json} {w w' : World}
    (finishes : eval env depth expression w = (some (.ok v), w'))
    (clean : evalClean env depth expression w = eval env depth expression w) :
    eval env.unchecked depth expression w = (some (.ok v), w') :=
  evalClean_unchecked raises depth expression w v w' (clean.trans finishes)

/-- A conjunction of what is bound to a name is checked, and needs no check. -/
theorem conjunction_of_binding_needs_no_checks :
    let env : Env := ⟨Options.empty, Registry.full⟩
    let node : Json := .object [("operator", .string "and"), ("$x", .array [.bool true]),
      ("values", .string "$x"), ("fallback", .null)]
    let w : World := ⟨[], ResultCache.empty 0, []⟩
    (eval env 4 node w = (some (.ok (.bool true)), w) ∧ evalClean env 4 node w = eval env 4 node w) ∧
      eval env.unchecked 4 node w = (some (.ok (.bool true)), w) := by
  intro env node w
  have hfinishes : eval env 4 node w = (some (.ok (.bool true)), w) := rfl
  have hclean : evalClean env 4 node w = eval env 4 node w := rfl
  exact ⟨⟨hfinishes, hclean⟩, clean_values_need_no_checks rfl hfinishes hclean⟩

end JsonExpr
