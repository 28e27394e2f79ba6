import JsonExpr.Engine
import JsonExpr.Proofs.Evaluation.Congruence

/-!
# Where failures end

A failure ends where something is made of it: at a node with a fallback, or at any node when
failures are shown as their messages.  What operators do with a failure in between does not matter,
since whatever an operator computes is caught by its node before it goes on.

Main definitions:

* `JsonExpr.Run.Keeps` — a computation that keeps a property of worlds;
* `JsonExpr.Run.FailsOnly` — one that keeps it and, starting from it, fails only with what is
  allowed;
* `JsonExpr.Run.Safe` — one that keeps it and, starting from it, does not fail.

Main results:

* `JsonExpr.Evaluation.operatorBody_failsOnly`, `JsonExpr.eval_failsOnly` — operator nodes and
  evaluation fail with nothing but what becomes of failures;
* `JsonExpr.eval_safe_of_showsErrors`, `JsonExpr.shown_failures_never_escape` — **when failures are
  shown, no evaluation fails**.
-/

set_option autoImplicit false

namespace JsonExpr

/-- A computation that keeps a property of worlds, however it ends. -/
def Run.Keeps {ε α : Type} (I : World → Prop) (m : Run ε α) : Prop := ∀ w, I w → I (m w).2

/-- A computation that keeps a property of worlds and, in a world that has it, fails with nothing
but what `E` allows. -/
def Run.FailsOnly {ε α : Type} (I : World → Prop) (E : ε → Prop) (m : Run ε α) : Prop :=
  ∀ w, I w → I (m w).2 ∧ ∀ e, (m w).1 = some (.error e) → E e

/-- A computation that keeps a property of worlds and does not fail in a world that has it. -/
def Run.Safe {ε α : Type} (I : World → Prop) (m : Run ε α) : Prop :=
  ∀ w, I w → I (m w).2 ∧ ∀ e, (m w).1 ≠ some (.error e)

namespace Run.FailsOnly

variable {ε ε' α β : Type} {I : World → Prop} {E : ε → Prop} {E' : ε' → Prop}

theorem keeps {m : Run ε α} (h : m.FailsOnly I E) : m.Keeps I := fun w hw => (h w hw).1

theorem value (a : α) : (Run.value a : Run ε α).FailsOnly I E :=
  fun w hw => ⟨hw, fun e h => by cases h⟩

theorem fail {e : ε} (h : E e) : (Run.fail e : Run ε α).FailsOnly I E :=
  fun w hw => ⟨hw, fun e' he => by cases he; exact h⟩

/-- A sequence fails with what its parts allow; the second part may count on how the first one
ended. -/
theorem andThen_of {m : Run ε α} {f : α → Run ε β} (hm : m.FailsOnly I E)
    (hf : ∀ w a w', I w → m w = (some (.ok a), w') → (f a).FailsOnly I E) :
    (Run.andThen m f).FailsOnly I E := by
  intro w hw
  obtain ⟨hI, hallowed⟩ := hm w hw
  rcases h : m w with ⟨_ | e | a, w₁⟩ <;> rw [h] at hI hallowed
  · rw [Run.andThen_of_exhausted h]
    exact ⟨hI, fun e he => by cases he⟩
  · rw [Run.andThen_of_error h]
    exact ⟨hI, fun e' he => by cases he; exact hallowed e rfl⟩
  · rw [Run.andThen_of_ok h]
    exact hf w a w₁ hw h w₁ hI

theorem andThen {m : Run ε α} {f : α → Run ε β} (hm : m.FailsOnly I E)
    (hf : ∀ a, (f a).FailsOnly I E) : (Run.andThen m f).FailsOnly I E :=
  andThen_of hm fun _ a _ _ _ => hf a

theorem bind {m : Run ε α} {f : α → Run ε β} (hm : m.FailsOnly I E)
    (hf : ∀ a, (f a).FailsOnly I E) : (m >>= f).FailsOnly I E :=
  andThen hm hf

theorem pure (a : α) : (Pure.pure a : Run ε α).FailsOnly I E := value a

/-- Caught failures do not matter. -/
theorem attempt {m : Run ε α} (hm : m.Keeps I) : (Run.attempt m : Run ε' _).FailsOnly I E' := by
  intro w hw
  refine ⟨hm w hw, fun e h => ?_⟩
  obtain ⟨_, _, he⟩ := Option.map_eq_some_iff.mp h
  cases he

theorem traverse {f : α → Run ε β} (hf : ∀ a, (f a).FailsOnly I E) (items : List α) :
    (Run.traverse f items).FailsOnly I E := by
  induction items with
  | nil => exact value []
  | cons a rest ih => exact andThen (hf a) fun b => andThen ih fun bs => value (b :: bs)

theorem optional {ev : Evaluator ε} (h : ∀ v, (ev v).FailsOnly I E) (node : Option Json) :
    (ev.optional node).FailsOnly I E := by
  cases node with
  | none => exact value none
  | some node => exact andThen (h node) fun v => value (some v)

/-- A computation that nothing is allowed to fail is safe. -/
theorem safe {m : Run ε α} (h : m.FailsOnly I fun _ => False) : m.Safe I := h

end Run.FailsOnly

/-! ### Operator nodes -/

namespace Evaluation

variable {env : Env} {ev : Evaluator Failure} {I : World → Prop} {E : Failure → Prop}
  {k : OperatorKind} {node : Dict Json} {fallback : Option Json}

theorem convert_failsOnly (hev : ∀ v, (ev v).Keeps I)
    (hf : ∀ failure, (fallbackOr env ev fallback failure).FailsOnly I E) (result : Json) :
    (convert env ev k node fallback result).FailsOnly I E := by
  unfold convert
  split
  · exact Run.FailsOnly.value _
  · refine Run.FailsOnly.bind (Run.FailsOnly.attempt (hev _)) fun outcome => ?_
    cases outcome with
    | error failure => exact hf failure
    | ok name =>
        dsimp only
        split
        · exact Run.FailsOnly.pure _
        · exact hf _

theorem computeOr_failsOnly {props : Props} (hc : (compute env (inside ev) k props).Keeps I)
    (hf : ∀ failure, (fallbackOr env ev fallback failure).FailsOnly I E) :
    (computeOr env ev k fallback props).FailsOnly I E := by
  refine Run.FailsOnly.bind (Run.FailsOnly.attempt hc) fun outcome => ?_
  cases outcome with
  | ok v => exact Run.FailsOnly.pure v
  | error fault => exact hf _

theorem apply_failsOnly {props : Props} (hev : ∀ v, (ev v).Keeps I)
    (hc : (compute env (inside ev) k props).Keeps I)
    (hf : ∀ failure, (fallbackOr env ev fallback failure).FailsOnly I E) :
    (apply env ev k node fallback props).FailsOnly I E := by
  unfold apply
  split
  · exact hf _
  · exact Run.FailsOnly.bind (computeOr_failsOnly hc hf) fun result =>
      convert_failsOnly hev hf result

theorem runOperator_failsOnly (hev : ∀ v, (ev v).Keeps I) (hg : (gather ev k node).Keeps I)
    (hc : ∀ props, (compute env (inside ev) k props).Keeps I)
    (hf : ∀ failure, (fallbackOr env ev (Dict.get? node Key.fallback) failure).FailsOnly I E)
    (hf' : ∀ w props w', I w → gather ev k node w = (some (.ok props), w') →
      ∀ failure, (fallbackOr env ev (fallbackOf node props) failure).FailsOnly I E) :
    (runOperator env ev k node).FailsOnly I E := by
  refine Run.FailsOnly.andThen_of (Run.FailsOnly.attempt hg) fun w outcome w' hw hout => ?_
  cases outcome with
  | error failure => exact hf failure
  | ok props =>
      exact apply_failsOnly hev (hc _) (hf' w props w' hw (Run.eq_of_attempt hout))

/-- **An operator node fails with nothing but what becomes of its failures**: of those before its
properties are gathered, and of those after. -/
theorem operatorBody_failsOnly (hev : ∀ v, (ev v).Keeps I)
    (hg : ∀ k, operatorOf? env node = some k → (gather ev k node).Keeps I)
    (hc : ∀ k props, operatorOf? env node = some k → (compute env (inside ev) k props).Keeps I)
    (hf : ∀ failure, (fallbackOr env ev (Dict.get? node Key.fallback) failure).FailsOnly I E)
    (hf' : ∀ k w props w', operatorOf? env node = some k → I w →
      gather ev k node w = (some (.ok props), w') →
      ∀ failure, (fallbackOr env ev (fallbackOf node props) failure).FailsOnly I E) :
    (operatorBody env ev node).FailsOnly I E := by
  unfold operatorBody
  split
  · next k hk =>
    exact runOperator_failsOnly hev (hg k hk) (fun props => hc k props hk) hf
      (fun w props w' => hf' k w props w' hk)
  · exact hf _

end Evaluation

/-! ### Nodes -/

namespace Evaluation

variable {env : Env} {ev : Evaluator Failure} {E : Failure → Prop}

/-- Worlds without any restriction. -/
abbrev anyWorld : World → Prop := fun _ => True

theorem keeps_anyWorld {ε α : Type} (m : Run ε α) : m.Keeps anyWorld := fun _ _ => trivial

section Nodes

variable (hf : ∀ fallback failure, (fallbackOr env ev fallback failure).FailsOnly anyWorld E)
  (hev : ∀ v, (ev v).FailsOnly anyWorld E)

include hf in
theorem operatorNode_failsOnly (node : Dict Json) :
    (operatorNode env ev node).FailsOnly anyWorld E := by
  intro w _
  have hbody : (operatorBody env ev node).FailsOnly anyWorld E :=
    operatorBody_failsOnly (fun _ => keeps_anyWorld _) (fun _ _ => keeps_anyWorld _)
      (fun _ _ _ => keeps_anyWorld _) (hf _) (fun _ _ _ _ _ _ _ => hf _)
  exact ⟨trivial, (hbody (w.enter (Frame.ofNode node)) trivial).2⟩

include hf hev in
theorem fragmentNode_failsOnly (node : Dict Json) :
    (fragmentNode env ev node).FailsOnly anyWorld E := by
  refine Run.FailsOnly.bind ?_ fun name => ?_
  · exact Run.FailsOnly.bind (Run.FailsOnly.optional hev _) fun _ => Run.FailsOnly.pure _
  · split
    · exact hf _ _
    · refine Run.FailsOnly.bind ?_ fun parameters => ?_
      · unfold parametersOf
        split
        · split
          · exact Run.FailsOnly.optional hev _
          · exact Run.FailsOnly.value _
        · exact Run.FailsOnly.value none
      · split
        · split
          · exact hev _
          · exact Run.FailsOnly.pure _
        · exact Run.FailsOnly.pure _

include hev in
theorem reference_failsOnly (name : String) : (ev.reference name).FailsOnly anyWorld E := by
  intro w _
  refine ⟨trivial, fun e h => ?_⟩
  unfold Evaluator.reference at h
  split at h
  · cases h
  · next p _ =>
    split at h
    · cases h
    · obtain ⟨o, ho, he⟩ := Option.map_eq_some_iff.mp h
      cases o with
      | error failure =>
          cases he
          exact (hev p.slot.expression _ trivial).2 _ ho
      | ok v => cases he

include hev in
theorem leaf_failsOnly (v : Json) : (leaf env ev v).FailsOnly anyWorld E := by
  unfold leaf
  split
  · split
    · exact Run.FailsOnly.bind (reference_failsOnly hev _) fun _ => Run.FailsOnly.pure _
    · exact Run.FailsOnly.value _
  · split
    · refine Run.FailsOnly.bind (Run.FailsOnly.traverse (fun entry => ?_) _) fun _ =>
        Run.FailsOnly.pure _
      exact Run.FailsOnly.andThen (hev entry.2) fun _ => Run.FailsOnly.value _
    · exact Run.FailsOnly.value _
  · exact Run.FailsOnly.value _

include hf hev in
/-- **A node fails with nothing but what becomes of failures.** -/
theorem node_failsOnly (v : Json) : (node env ev v).FailsOnly anyWorld E := by
  unfold node
  split
  · exact hev _
  · unfold byKind
    split
    · exact Run.FailsOnly.bind (Run.FailsOnly.traverse hev _) fun _ => Run.FailsOnly.pure _
    · split
      · exact fragmentNode_failsOnly hf hev _
      · exact operatorNode_failsOnly hf _
      · exact leaf_failsOnly hev _

end Nodes

end Evaluation

/-- Evaluation to any depth fails with nothing but what becomes of failures. -/
theorem eval_failsOnly {env : Env} {E : Failure → Prop}
    (hf : ∀ ev : Evaluator Failure, (∀ v, (ev v).FailsOnly Evaluation.anyWorld E) →
      ∀ fallback failure,
        (Evaluation.fallbackOr env ev fallback failure).FailsOnly Evaluation.anyWorld E)
    (depth : Nat) (v : Json) : (eval env depth v).FailsOnly Evaluation.anyWorld E := by
  induction depth generalizing v with
  -- Without depth there is no outcome, and so no failure.
  | zero => exact fun w _ => ⟨trivial, fun e h => by cases h⟩
  | succ depth ih => exact Evaluation.node_failsOnly (hf _ ih) ih v

/-! ### Failures shown as their messages -/

/-- When failures are shown, evaluation to any depth is safe. -/
theorem eval_safe_of_showsErrors {env : Env} (shows : env.options.showsErrors = true) (depth : Nat)
    (v : Json) : (eval env depth v).Safe Evaluation.anyWorld := by
  refine Run.FailsOnly.safe (eval_failsOnly (fun ev hev fallback failure => ?_) depth v)
  unfold Evaluation.fallbackOr
  split
  · exact hev _
  · rw [if_pos shows]
    exact Run.FailsOnly.value _

/-- A safe computation that finishes ends with a value. -/
theorem Run.Safe.ok_of_finished {ε α : Type} {I : World → Prop} {m : Run ε α} (h : m.Safe I)
    {w w' : World} (hw : I w) {outcome : Except ε α} (hm : m w = (some outcome, w')) :
    ∃ a, outcome = .ok a := by
  cases outcome with
  | ok a => exact ⟨a, rfl⟩
  | error e => exact absurd (congrArg Prod.fst hm) ((h w hw).2 e)

/-- **When failures are shown as their messages, no evaluation fails**: not that of any node in any
world, and not that of any expression by an engine, whatever its other options, its cache and its
history. -/
theorem shown_failures_never_escape :
    (∀ env : Env, env.options.showsErrors = true → ∀ depth expression w outcome w',
      eval env depth expression w = (some outcome, w') → ∃ v, outcome = .ok v) ∧
    (∀ (e : Engine) (overrides : Options), (e.options.merge overrides).showsErrors = true →
      ∀ depth expression outcome,
        (e.evaluateWithin depth expression overrides).1 = some outcome → ∃ v, outcome = .ok v) := by
  refine ⟨fun env shows depth expression w outcome w' h => ?_,
    fun e overrides shows depth expression outcome h => ?_⟩
  · exact (eval_safe_of_showsErrors shows depth expression).ok_of_finished trivial h
  · have hsafe : (eval (e.envWith overrides) depth
        (Engine.prepare (e.envWith overrides) expression)).Safe Evaluation.anyWorld :=
      eval_safe_of_showsErrors shows depth _
    exact hsafe.ok_of_finished trivial (Prod.ext h rfl)

/-- An operator that does not exist, a fragment that does not exist and operands of the wrong type,
side by side. -/
theorem failing_nodes_show_messages :
    let e := Engine.new { returnErrorAsString := some true }
    let nodes : Json := .array [.object [("operator", .null)], .object [("fragment", .string "f")],
      .object [("operator", .string "and"), ("values", .string "x")]]
    (e.options.merge Options.empty).showsErrors = true ∧
      ∃ outcome, (e.evaluateWithin 3 nodes Options.empty).1 = some outcome ∧
        ∃ v, outcome = .ok v := by
  intro e nodes
  have shown : (e.evaluateWithin 3 nodes Options.empty).1 = some (.ok (.array
      [.string "Invalid operator: null", .string "Fragment not defined: f",
        .string "Operator: AND:\n- Property \"values\" (value: \"x\") is not of type: array"])) :=
    rfl
  exact ⟨rfl, _, shown, shown_failures_never_escape.2 e Options.empty rfl 3 nodes _ shown⟩

end JsonExpr
