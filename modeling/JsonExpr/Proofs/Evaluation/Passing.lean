import JsonExpr.Proofs.Evaluation.Fallback
import JsonExpr.Proofs.Registry
import JsonExpr.Proofs.Text.Ellipsis

/-!
# Failures on their way out

A failure that no node makes good leaves all the nodes that it comes from inside of, and each of
them cuts its message again.  The kind stays the same, and so does the message, with one exception:
a message of just the length at which messages are cut gets one more dot at the first node that it
leaves, and stays the same from there on.

Where a node fails only on account of some operands is a question about another evaluation, in which
these operands have a value in place of their failures.  If the node has a value there, then with
the failures it has the same value, or fails with one of them.

Main definitions:

* `JsonExpr.Failure.WasCut`, `JsonExpr.Failure.surfaced` — failures as they leave nodes, and as they
  look from further outside;
* `JsonExpr.wrapped` — a value inside nodes that do nothing but pass it on;
* `JsonExpr.evalSparing` — evaluation with a value in place of the failures of some nodes;
* `JsonExpr.Run.AgreesUnless` — computations that are the same unless the first fails with what is
  allowed.

Main results:

* `JsonExpr.Failure.WasCut.cut_eq`, `JsonExpr.Failure.WasCut.cut_cut` — what another cut changes;
* `JsonExpr.Evaluation.operatorBody_agreesUnless` — a node without a fallback, with and without the
  failures of its operands;
* `JsonExpr.nested_failure_surfaces` — **a nested failure surfaces from any depth**, with one more
  dot at most.
-/

set_option autoImplicit false

namespace JsonExpr

/-! ### Failures that were cut -/

namespace Failure

/-- A failure whose message was cut before. -/
def WasCut (f : Failure) : Prop := ∃ g : Failure, f = g.cut

/-- A failure as it looks further outside: as it is, unless its message has just the length at which
messages are cut. -/
def surfaced (f : Failure) : Failure :=
  if f.message.length = maxLength then ⟨f.kind, f.message ++ "."⟩ else f

/-- Another cut changes only messages of just the length at which messages are cut. -/
theorem WasCut.cut_eq {f : Failure} (h : f.WasCut) : f.cut = f.surfaced := by
  obtain ⟨g, rfl⟩ := h
  have hlength : g.cut.message.length = (Text.shorten maxLength g.message.toList).length := by
    rw [cut, Text.shortenString, String.length_ofList]
  rw [surfaced, hlength, cut, cut, Text.shortenString, Text.shortenString, String.toList_ofList,
    Text.shorten_shorten (by decide : 3 ≤ maxLength)]
  split
  · rw [String.ofList_append]
  · rfl

/-- Cutting a third time changes nothing. -/
theorem WasCut.cut_cut {f : Failure} (h : f.WasCut) : f.cut.cut = f.cut := by
  obtain ⟨g, rfl⟩ := h
  simp only [cut, Text.shortenString, String.toList_ofList,
    Text.shorten_shorten_shorten (by decide : 3 ≤ maxLength)]

end Failure

/-- **Every failure of an evaluation was cut.** -/
theorem eval_wasCut {env : Env} {depth : Nat} {v : Json} {w w' : World} {f : Failure}
    (h : eval env depth v w = (some (.error f), w')) : f.WasCut := by
  refine (eval_failsOnly (E := Failure.WasCut) (fun ev hev fallback failure => ?_) depth v w
    trivial).2 f (congrArg Prod.fst h)
  unfold Evaluation.fallbackOr
  split
  · exact hev _
  · split
    · exact Run.FailsOnly.value _
    · exact Run.FailsOnly.fail ⟨failure, rfl⟩

/-! ### Nodes that pass a value on -/

/-- A node that does nothing but pass a value on. -/
def passing (e : Json) : Dict Json := [("operator", .string "_"), ("value", e)]

/-- A value inside `n` nodes that pass it on. -/
def wrapped (e : Json) : Nat → Json
  | 0 => e
  | n + 1 => .object (passing (wrapped e n))

section Wrapped

variable {env : Env} {depth : Nat} {e : Json} {w w' : World} {f : Failure}

open Evaluation

/-- A failure leaves a node that passes values on, in the same world. -/
theorem eval_passing (raises : env.options.showsErrors = false)
    (passes : env.registry.resolve? "_" = some .passthru)
    (h : eval env depth e w = (some (.error f), w')) :
    eval env (depth + 1) (.object (passing e)) w = (some (.error f.cut), w') := by
  have hcompute : compute env (inside (eval env depth)) .passthru [("value", e)] w =
      (some (.error (.nested f)), w') := by
    have hinside : inside (eval env depth) e w = (some (.error (.nested f)), w') := by
      rw [inside, Run.mapFailure_apply, h]
      rfl
    exact Run.bind_of_error (Run.andThen_of_error (Run.andThen_of_error
      (Run.andThen_of_error hinside)))
  have hgather : gather (eval env depth) .passthru (passing e) w =
      (some (.ok [("value", e)]), w) := by
    have hprops : ownProps OperatorKind.passthru.schema (passing e) = [("value", e)] := by
      have hplain : ∀ name ∈ ["value"], isReserved name = false ∧
          OperatorKind.passthru.schema.canonicalName? name = none := by decide
      have hnodup : ["value"].Nodup := by decide
      exact ownProps_operator_cons _ hplain hnodup
    rw [gather, hprops]
    rfl
  have hfails : fallbackOr env (eval env depth) none (NodeFault.operator .passthru (.nested f)).failure
      w' = (some (.error f.cut), w') := by
    rw [fallbackOr, raises]
    rfl
  have happly : apply env (eval env depth) .passthru (passing e) none [("value", e)] w =
      (some (.error f.cut), w') := by
    have hcomplete : missing .passthru [("value", e)] = [] := by
      have hrequired : OperatorKind.passthru.schema.requiredNames = ["value"] := by decide
      simp [missing, hrequired, Dict.hasKey, Dict.get?]
    have hor : computeOr env (eval env depth) .passthru none [("value", e)] w =
        (some (.error f.cut), w') := by
      rw [computeOr, Run.bind_of_ok (Run.attempt_of_finished hcompute)]
      exact hfails
    rw [apply, hcomplete]
    exact Run.bind_of_error hor
  have hbody : operatorBody env (eval env depth) (passing e) w = (some (.error f.cut), w') := by
    have hk : operatorOf? env (passing e) = some .passthru := by
      have hget : Dict.get? (passing e) Key.operator = some (.string "_") := by
        simp [passing, Dict.get?, Key.operator]
      rw [operatorOf?, hget, Option.bind_some, Json.asString?, Option.bind_some, passes]
    rw [operatorBody, hk]
    dsimp only
    rw [runOperator, Run.bind_of_ok (Run.attempt_of_finished hgather)]
    exact happly
  have hframe : Frame.ofNode (passing e) = [] := by
    have hoperator : isBindingName "operator" = false := by decide
    have hvalue : isBindingName "value" = false := by decide
    simp [passing, Frame.ofNode, Dict.filterKeys, hoperator, hvalue, Dict.mapValues]
  rw [eval, node_operator env _ rfl rfl, operatorNode, hframe]
  exact Run.withFrame_of_eq hbody

/-- A failure surfaces from any number of nodes that pass values on. -/
theorem eval_wrapped (raises : env.options.showsErrors = false)
    (passes : env.registry.resolve? "_" = some .passthru)
    (h : eval env depth e w = (some (.error f), w')) (n : Nat) :
    eval env (depth + (n + 1)) (wrapped e (n + 1)) w = (some (.error f.surfaced), w') := by
  rw [← (eval_wasCut h).cut_eq]
  induction n with
  | zero => exact eval_passing raises passes h
  | succ n ih =>
      rw [← (eval_wasCut h).cut_cut]
      exact eval_passing raises passes ih

end Wrapped

/-! ### Computations that agree unless one fails -/

/-- The first computation does what the second does, or fails with what `E` allows. -/
def Run.AgreesUnless {ε α : Type} (E : ε → Prop) (m m' : Run ε α) : Prop :=
  ∀ w, m w = m' w ∨ ∃ e w', m w = (some (.error e), w') ∧ E e

namespace Run.AgreesUnless

variable {ε ε' α β : Type} {E : ε → Prop} {E' : ε' → Prop}

theorem refl (m : Run ε α) : m.AgreesUnless E m := fun _ => .inl rfl

theorem andThen {m m' : Run ε α} {f f' : α → Run ε β} (hm : m.AgreesUnless E m')
    (hf : ∀ a, (f a).AgreesUnless E (f' a)) :
    (Run.andThen m f).AgreesUnless E (Run.andThen m' f') := by
  intro w
  rcases hm w with heq | ⟨e, w₁, h, he⟩
  · rcases h : m w with ⟨_ | e | a, w₁⟩ <;> rw [h] at heq
    · rw [Run.andThen_of_exhausted h, Run.andThen_of_exhausted heq.symm]
      exact .inl rfl
    · rw [Run.andThen_of_error h, Run.andThen_of_error heq.symm]
      exact .inl rfl
    · rw [Run.andThen_of_ok h, Run.andThen_of_ok heq.symm]
      exact hf a w₁
  · exact .inr ⟨e, w₁, Run.andThen_of_error h, he⟩

theorem bind {m m' : Run ε α} {f f' : α → Run ε β} (hm : m.AgreesUnless E m')
    (hf : ∀ a, (f a).AgreesUnless E (f' a)) : (m >>= f).AgreesUnless E (m' >>= f') :=
  andThen hm hf

theorem traverse {f f' : α → Run ε β} (hf : ∀ a, (f a).AgreesUnless E (f' a)) (items : List α) :
    (Run.traverse f items).AgreesUnless E (Run.traverse f' items) := by
  induction items with
  | nil => exact refl _
  | cons a rest ih => exact andThen (hf a) fun b => andThen ih fun bs => refl _

/-- What follows an attempt has to fail after an allowed failure, and to agree where the attempt
leads otherwise. -/
theorem attempt_bind {m m' : Run ε α} {f f' : Except ε α → Run ε' β} (hm : m.AgreesUnless E m')
    (hfails : ∀ e, E e → ∀ w, ∃ e', f (.error e) w = (some (.error e'), w) ∧ E' e')
    (hf : ∀ w outcome w', m w = (some outcome, w') → (f outcome).AgreesUnless E' (f' outcome)) :
    (m.attempt >>= f).AgreesUnless E' (m'.attempt >>= f') := by
  intro w
  rcases hm w with heq | ⟨e, w₁, h, he⟩
  · rcases h : m w with ⟨_ | outcome, w₁⟩ <;> rw [h] at heq
    · rw [Run.bind_of_exhausted (Run.attempt_of_exhausted h),
        Run.bind_of_exhausted (Run.attempt_of_exhausted heq.symm)]
      exact .inl rfl
    · rw [Run.bind_of_ok (Run.attempt_of_finished h),
        Run.bind_of_ok (Run.attempt_of_finished heq.symm)]
      exact hf w outcome w₁ h w₁
  · obtain ⟨e', hout, he'⟩ := hfails e he w₁
    exact .inr ⟨e', w₁, (Run.bind_of_ok (Run.attempt_of_finished h)).trans hout, he'⟩

theorem cached (key : String) {E : OperatorFault → Prop} {m m' : Run OperatorFault Json}
    (hm : m.AgreesUnless E m') : (Asking.cached key m).AgreesUnless E (Asking.cached key m') := by
  intro w
  unfold Asking.cached
  split
  · exact .inl rfl
  · rcases hm w with heq | ⟨e, w₁, h, he⟩
    · rw [heq]
      exact .inl rfl
    · rw [h]
      exact .inr ⟨e, _, rfl, he⟩

/-- Agreeing unless one fails is a graded relation that does not look at grades. -/
theorem graded (env : Env) (E : OperatorFault → Prop) :
    Run.Graded env (fun _ _ => True) (fun _ => 0) (fun _ {_} m m' => m.AgreesUnless E m') where
  mono _ h := h
  ofExcept _ := refl _
  andThen hm hf := andThen hm fun a => hf a trivial
  cached key _ _ _ hm := cached key hm
  call _ _ _ _ := refl _
  http _ _ _ := refl _
  sql _ _ _ := refl _

end Run.AgreesUnless

namespace Evaluation

variable {env : Env} {ev ev' : Evaluator Failure} {E : Failure → Prop} {k : OperatorKind}
  {node : Dict Json}

/-- A failure of `E` that was cut on its way out. -/
def Cut (E : Failure → Prop) (f : Failure) : Prop := ∃ g, E g ∧ f = g.cut

/-- A failure of `E` from inside an operator. -/
def Nested (E : Failure → Prop) (fault : OperatorFault) : Prop := ∃ g, E g ∧ fault = .nested g

section Unless

variable (raises : env.options.showsErrors = false) (h : ∀ v, (ev v).AgreesUnless E (ev' v))

include raises in
theorem fallbackOr_fails {g : Failure} (hg : E g) (w : World) :
    ∃ f, fallbackOr env ev none g w = (some (.error f), w) ∧ Cut E f := by
  rw [fallbackOr, raises]
  exact ⟨g.cut, rfl, g, hg, rfl⟩

include h in
/-- What an operator computes. -/
theorem compute_agreesUnless (permitted : env.Permits k) (props : Props) :
    (compute env (inside ev) k props).AgreesUnless (Nested E) (compute env (inside ev') k props) := by
  let W : Weighing := .weightless (fun _ => True) (fun _ _ _ => trivial) fun _ _ _ => trivial
  have covered : W.Covers props := fun _ _ => trivial
  have hinside : ∀ v, (inside ev v).AgreesUnless (Nested E) (inside ev' v) := by
    intro v w
    rw [inside, inside, Run.mapFailure_apply, Run.mapFailure_apply]
    rcases h v w with heq | ⟨g, w₁, hrun, hg⟩
    · rw [heq]
      exact .inl rfl
    · rw [hrun]
      exact .inr ⟨.nested g, w₁, rfl, g, hg, rfl⟩
  exact (Run.AgreesUnless.graded env _).compute (W := W) (fun v _ => hinside v) covered permitted
    (fun _ _ _ _ _ _ => ⟨trivial, rfl⟩) fun _ _ _ _ _ _ => Nat.le_refl 0

include h in
/-- The properties an operator computes from. -/
theorem gather_agreesUnless (k : OperatorKind) (node : Dict Json) :
    (gather ev k node).AgreesUnless E (gather ev' k node) := by
  unfold gather
  split
  · exact Run.AgreesUnless.refl _
  · next children _ =>
    refine Run.AgreesUnless.bind ?_ fun _ => Run.AgreesUnless.refl _
    cases children with
    | array items => exact Run.AgreesUnless.refl _
    | _ => exact Run.AgreesUnless.bind (h _) fun v => Run.AgreesUnless.refl _

include raises h

theorem convert_agreesUnless (result : Json) :
    (convert env ev k node none result).AgreesUnless (Cut E) (convert env ev' k node none result) := by
  unfold convert
  cases conversionOf node with
  | none => exact Run.AgreesUnless.refl _
  | some conversion =>
      refine Run.AgreesUnless.attempt_bind (h conversion)
        (fun g hg w => fallbackOr_fails raises hg w) fun _ outcome _ _ => ?_
      cases outcome <;> exact Run.AgreesUnless.refl _

theorem computeOr_agreesUnless (permitted : env.Permits k) (props : Props) :
    (computeOr env ev k none props).AgreesUnless (Cut E) (computeOr env ev' k none props) := by
  refine Run.AgreesUnless.attempt_bind (compute_agreesUnless h permitted props)
    (fun fault hfault w => ?_) fun _ outcome _ _ => ?_
  · -- What comes from inside is passed on as it is.
    obtain ⟨g, hg, rfl⟩ := hfault
    exact fallbackOr_fails raises hg w
  · cases outcome <;> exact Run.AgreesUnless.refl _

theorem apply_agreesUnless (permitted : env.Permits k) (props : Props) :
    (apply env ev k node none props).AgreesUnless (Cut E) (apply env ev' k node none props) := by
  unfold apply
  split
  · exact Run.AgreesUnless.refl _
  · exact Run.AgreesUnless.bind (computeOr_agreesUnless raises h permitted props) fun result =>
      convert_agreesUnless raises h result

/-- **A node without a fallback** does with failing operands what it does without, unless it fails
with one of their failures. -/
theorem operatorBody_agreesUnless (plain : Plain env node) :
    (operatorBody env ev node).AgreesUnless (Cut E) (operatorBody env ev' node) := by
  have hnone : Dict.get? node Key.fallback = none := Dict.hasKey_eq_false_iff.mp plain.noFallback
  unfold operatorBody
  rw [hnone]
  cases hk : operatorOf? env node with
  | none => exact Run.AgreesUnless.refl _
  | some k =>
      dsimp only
      unfold runOperator
      rw [hnone]
      refine Run.AgreesUnless.attempt_bind (gather_agreesUnless h k node)
        (fun g hg w => fallbackOr_fails raises hg w) fun w outcome w' hgather => ?_
      cases outcome with
      | error failure => exact Run.AgreesUnless.refl _
      | ok props =>
          have hprops := hasKey_of_gather (fun heq => plain.noChildren (heq ▸ hk)) hgather
          dsimp only
          rw [fallbackOf_eq_none plain.noFallback hprops]
          exact apply_agreesUnless raises h (Env.permits_of_operatorOf? hk) _

end Unless

end Evaluation

/-! ### Failures replaced by a value -/

/-- A computation with a value in place of its failures. -/
def Run.orValue {ε α : Type} (x : α) (m : Run ε α) : Run ε α := fun w =>
  match m w with
  | (some (.error _), w') => (some (.ok x), w')
  | ended => ended

/-- Evaluation with a value in place of the failures of some values, and of such elements of
arrays. -/
def evalSparing (env : Env) (spared : Json → Bool) (x : Json) : Nat → Evaluator Failure
  | 0 => fun _ => Run.exhausted
  | depth + 1 => fun v =>
    if spared v then (eval env (depth + 1) v).orValue x
    else match v with
      | .array items => do
        let items ← (evalSparing env spared x depth).all items
        pure (.array items)
      | v => eval env (depth + 1) v

/-- A failure of one of the values whose failures are replaced. -/
def FailureOfSpared (env : Env) (spared : Json → Bool) (f : Failure) : Prop :=
  ∃ depth v w w', spared v = true ∧ eval env depth v w = (some (.error f), w')

/-- Evaluation fails with a failure that is replaced, or does what it does with the value in its
place. -/
theorem eval_agreesUnless (env : Env) (spared : Json → Bool) (x : Json) (depth : Nat) (v : Json) :
    (eval env depth v).AgreesUnless (FailureOfSpared env spared)
      (evalSparing env spared x depth v) := by
  induction depth generalizing v with
  | zero => exact Run.AgreesUnless.refl _
  | succ depth ih =>
      rw [evalSparing]
      dsimp only
      split
      · next hspared =>
        intro w
        rw [Run.orValue]
        rcases h : eval env (depth + 1) v w with ⟨_ | f | u, w'⟩
        · exact .inl rfl
        · exact .inr ⟨f, w', rfl, depth + 1, v, w, w', hspared, h⟩
        · exact .inl rfl
      · cases v with
        | array items =>
            exact Run.AgreesUnless.bind (Run.AgreesUnless.traverse ih items) fun items =>
              Run.AgreesUnless.refl _
        | _ => exact Run.AgreesUnless.refl _

/-- **A nested failure surfaces from any depth.**  Where failures are raised, let an evaluation fail.
Inside any number of nodes that pass values on, it fails in the same world with a failure of the
same kind and, unless its message has just the length at which messages are cut, with the same
message; otherwise the message has one more dot.  Any other operator node without a fallback that
would come to a value if some of its operands had a value in place of their failures comes to that
value, or fails with a failure of one of these operands in the same way. -/
theorem nested_failure_surfaces {env : Env} (raises : env.options.showsErrors = false) :
    (env.registry.resolve? "_" = some .passthru → ∀ depth e w f w',
      eval env depth e w = (some (.error f), w') → ∀ n,
        eval env (depth + (n + 1)) (wrapped e (n + 1)) w = (some (.error f.surfaced), w')) ∧
    (∀ node, Evaluation.Plain env node → ∀ spared x depth w v w',
      Evaluation.operatorNode env (evalSparing env spared x depth) node w = (some (.ok v), w') →
        eval env (depth + 1) (.object node) w = (some (.ok v), w') ∨
          ∃ f w'', FailureOfSpared env spared f ∧
            eval env (depth + 1) (.object node) w = (some (.error f.surfaced), w'')) := by
  refine ⟨fun passes depth e w f w' h n => eval_wrapped raises passes h n,
    fun node plain spared x depth w v w' h => ?_⟩
  rw [eval, Evaluation.node_operator env _ plain.noFragment plain.operator]
  obtain ⟨w₁, hbody, rfl⟩ := Run.eq_of_withFrame h
  rcases Evaluation.operatorBody_agreesUnless raises (eval_agreesUnless env spared x depth) plain
    (w.enter (Frame.ofNode node)) with heq | ⟨f, w₂, hfails, g, hspared, rfl⟩
  · rw [hbody] at heq
    exact .inl (Run.withFrame_of_eq heq)
  · refine .inr ⟨g, w₂.leave (Frame.ofNode node), hspared, ?_⟩
    obtain ⟨_, _, _, _, _, hg⟩ := hspared
    rw [← (eval_wasCut hg).cut_eq]
    exact Run.withFrame_of_eq hfails

/-- A fragment that is not defined. -/
def undefinedFragment : Json := .object [("fragment", .string "f")]

/-- A conjunction that comes to a value but for its operand. -/
def conjunctionOfUndefined : Dict Json :=
  [("operator", .string "and"), ("values", .array [undefinedFragment])]

theorem undefined_fragment_surfaces :
    let env : Env := ⟨Options.empty, Registry.full⟩
    let w : World := ⟨[], ResultCache.empty 0, []⟩
    env.options.showsErrors = false ∧ env.registry.resolve? "_" = some .passthru ∧
      (∃ f, eval env 2 undefinedFragment w = (some (.error f), w) ∧ ∀ n,
        eval env (2 + (n + 1)) (wrapped undefinedFragment (n + 1)) w =
          (some (.error f.surfaced), w)) ∧
      Evaluation.Plain env conjunctionOfUndefined ∧
      ∃ v, Evaluation.operatorNode env (evalSparing env isFragmentNode (.bool true) 2)
          conjunctionOfUndefined w = (some (.ok v), w) ∧
        (eval env 3 (.object conjunctionOfUndefined) w = (some (.ok v), w) ∨
          ∃ f w', FailureOfSpared env isFragmentNode f ∧
            eval env 3 (.object conjunctionOfUndefined) w = (some (.error f.surfaced), w')) := by
  intro env w
  have passes : env.registry.resolve? "_" = some .passthru :=
    Registry.resolve?_full ⟨"_", by decide, rfl⟩
  have plain : Evaluation.Plain env conjunctionOfUndefined := ⟨rfl, rfl, rfl, fun _ => rfl⟩
  obtain ⟨f, hf⟩ : ∃ f, eval env 2 undefinedFragment w = (some (.error f), w) := ⟨_, rfl⟩
  have hv : Evaluation.operatorNode env (evalSparing env isFragmentNode (.bool true) 2)
    conjunctionOfUndefined w = (some (.ok (.bool true)), w) := rfl
  exact ⟨rfl, passes, ⟨f, hf, (nested_failure_surfaces rfl).1 passes 2 _ w f w hf⟩, plain, _, hv,
    (nested_failure_surfaces rfl).2 _ plain isFragmentNode (.bool true) 2 w _ w hv⟩

/-- A fragment of which there is no definition fails its node. -/
theorem eval_undefined {env : Env} {name : String} (hname : isBindingName name = false)
    (hread : env.options.readsStrings = false) (hfragments : env.options.fragments = none)
    (raises : env.options.showsErrors = false) (w : World) :
    eval env 2 (.object [("fragment", .string name)]) w =
      (some (.error (NodeFault.fragmentNotDefined name).failure.cut), w) := by
  have hresolved : Evaluation.fragmentName (eval env 1) [("fragment", .string name)] w =
      (some (.ok name), w) := by
    have hget : Dict.get? [("fragment", Json.string name)] Key.fragment = some (.string name) := by
      simp [Dict.get?, Key.fragment]
    have htext : (eval env 1).optional (some (.string name)) w =
        (some (.ok (some (.string name))), w) :=
      Run.andThen_of_ok (eval_text hread hname 0 w)
    rw [Evaluation.fragmentName, hget]
    exact Run.bind_of_ok htext
  rw [eval, Evaluation.node_fragment _ _ rfl, Evaluation.fragmentNode, Run.bind_of_ok hresolved,
    hfragments]
  show Evaluation.fallbackOr env (eval env 1) none _ w = _
  rw [Evaluation.fallbackOr, raises]
  rfl

/-- The length of the message about a fragment that is not defined. -/
theorem length_message_undefined (name : List Char) :
    (NodeFault.fragmentNotDefined (String.ofList name)).failure.cut.message.length =
      (Text.shorten Failure.maxLength ("Fragment not defined: ".toList ++ name)).length := by
  rw [Failure.cut, Text.shortenString, String.length_ofList, NodeFault.failure,
    String.toList_append]
  simp only [String.toList_ofList]

/-- A name of 178 characters with a blank where the message about it is cut. -/
def spacedName : List Char := 'x' :: (List.replicate 174 'x' ++ [' ', 'y', 'y'])

/-- The message about a fragment of this name is cut, with what is left of it just as long as messages
that are cut; so the first node that passes it on adds a dot. -/
theorem full_message_gets_another_dot :
    let env : Env := ⟨Options.empty, Registry.full⟩
    let w : World := ⟨[], ResultCache.empty 0, []⟩
    let e : Json := .object [("fragment", .string (String.ofList spacedName))]
    ∃ f g, eval env 2 e w = (some (.error f), w) ∧
      eval env 3 (wrapped e 1) w = (some (.error g), w) ∧ g.message ≠ f.message := by
  intro env w e
  have hname : isBindingName (String.ofList spacedName) = false := by
    rw [isBindingName, String.toList_ofList]
    rfl
  have raises : env.options.showsErrors = false := rfl
  have passes : env.registry.resolve? "_" = some .passthru :=
    Registry.resolve?_full ⟨"_", by decide, rfl⟩
  have hfails := eval_undefined hname (rfl : env.options.readsStrings = false) rfl raises w
  have hfull : (Text.shorten Failure.maxLength
      ("Fragment not defined: ".toList ++ spacedName)).length = Failure.maxLength := by
    decide +kernel
  refine ⟨_, _, hfails, eval_wrapped raises passes hfails 0, ?_⟩
  rw [Failure.surfaced, if_pos ((length_message_undefined spacedName).trans hfull)]
  intro heq
  have hlonger := congrArg String.length heq
  rw [String.length_append] at hlonger
  simp at hlonger

end JsonExpr
