import JsonExpr.Proofs.Evaluation.Verbatim

/-!
# Failures raised and failures shown

Where failures are shown, an operator node without a fallback that would fail has a value instead.
If its properties are literals, then nothing inside the node tells the two modes apart, and the
value is the message of the failure: of an operator that does not exist, of children or properties
that are missing or wrong, and of a conversion that does not exist.

The failure of the operator itself is the exception.  Its message takes the place of the result and
goes through the conversion that the node asks for, and comes out as what is converted.

Main definitions:

* `JsonExpr.Env.showing` — the environment with failures shown;
* `JsonExpr.Evaluation.OperatorFails` — the operator of a node fails on its properties;
* `JsonExpr.Evaluation.converted` — a result after a conversion whose name is a literal;
* `JsonExpr.Evaluation.ShownAs` — how a value shows the failure of a node.

Main results:

* `JsonExpr.Evaluation.operatorBody_showing` — one node, with its properties as they are written;
* `JsonExpr.failure_is_shown_as_its_message` — **the two modes agree on the message of a node of
  literals**, up to the conversion of the operator's own failure.
-/

set_option autoImplicit false

namespace JsonExpr

/-- The environment with failures shown as their messages. -/
def Env.showing (env : Env) : Env :=
  ⟨{ env.options with returnErrorAsString := some true }, env.registry⟩

namespace Evaluation

variable {env : Env} {k : OperatorKind} {node : Dict Json} {props : Props} {w w' : World}

/-- The operator of a node has the properties it needs, as they are written, and fails. -/
def OperatorFails (env : Env) (k : OperatorKind) (node : Dict Json) (w : World) : Prop :=
  operatorOf? env node = some k ∧ ∃ props fault w',
    gather Evaluator.verbatim k node w = (some (.ok props), w) ∧
    missing k (withoutFallback props) = [] ∧
    compute env Evaluator.verbatim k (withoutFallback props) w = (some (.error fault), w')

/-- The result of a node after the conversion that it asks for, whose name is a literal.  Without
such a conversion the message says so. -/
def converted (k : OperatorKind) (conversion : Option Json) (result : Json) : Json :=
  match conversion with
  | none => result
  | some name =>
    match OutputType.ofName? name.toText with
    | some type => type.apply result
    | none => .string (NodeFault.invalidOutputType k name.toText).failure.cut.message

/-- A value shows the failure of a node: it is the message, or what becomes of the message if it is
the operator itself that fails. -/
def ShownAs (env : Env) (node : Dict Json) (w : World) (f : Failure) (v : Json) : Prop :=
  (∀ k, OperatorFails env k node w → v = converted k (conversionOf node) (.string f.message)) ∧
    ((∀ k, ¬ OperatorFails env k node w) → v = .string f.message)

/-- As they are written, properties are gathered without a change to the world. -/
theorem gather_verbatim_world (h : gather Evaluator.verbatim k node w = (some (.ok props), w')) :
    w' = w := by
  rcases gather_eq_ok h with ⟨-, -, hw⟩ | ⟨children, items, -, hitems, -⟩
  · exact hw
  · rcases childList_eq_ok hitems with ⟨-, hw⟩ | ⟨-, hcomputed⟩
    · exact hw
    · cases hcomputed
      rfl

/-- A conversion by its name as it is written. -/
theorem convert_verbatim (env : Env) (k : OperatorKind) (node : Dict Json)
    (fallback : Option Json) (result : Json) :
    convert env Evaluator.verbatim k node fallback result =
      match conversionOf node with
      | none => Run.value result
      | some name =>
        match OutputType.ofName? name.toText with
        | some type => Run.value (type.apply result)
        | none => fallbackOr env Evaluator.verbatim fallback
            (NodeFault.invalidOutputType k name.toText).failure := by
  unfold convert
  cases conversionOf node <;> rfl

/-! ### One node -/

/-- Without a fallback a failure is shown as its message. -/
theorem fallbackOr_showing (env : Env) (ev : Evaluator Failure) (failure : Failure) :
    fallbackOr env.showing ev none failure = Run.value (.string failure.cut.message) :=
  rfl

/-- Where failures are shown, a result is converted as far as there is such a conversion. -/
theorem convert_showing (env : Env) (k : OperatorKind) (node : Dict Json) (result : Json) :
    convert env.showing Evaluator.verbatim k node none result =
      Run.value (converted k (conversionOf node) result) := by
  rw [convert_verbatim]
  unfold converted
  cases conversionOf node with
  | none => rfl
  | some name => cases h : OutputType.ofName? name.toText <;> simp only [h, fallbackOr_showing]

section Modes

variable (raises : env.options.showsErrors = false)

include raises

/-- A failure that leaves a node has no fallback. -/
theorem fallbackOr_eq_error {fallback : Option Json} {failure f : Failure}
    (h : fallbackOr env Evaluator.verbatim fallback failure w = (some (.error f), w')) :
    fallback = none ∧ f = failure.cut ∧ w' = w := by
  cases fallback with
  | some _ => cases h
  | none =>
      rw [fallbackOr, raises] at h
      cases h
      exact ⟨rfl, rfl, rfl⟩

/-- The failure of a conversion is shown as its message, whatever the result is. -/
theorem convert_eq_error {fallback : Option Json} {result : Json} {f : Failure}
    (h : convert env Evaluator.verbatim k node fallback result w = (some (.error f), w')) :
    fallback = none ∧ w' = w ∧ converted k (conversionOf node) result = .string f.message := by
  rw [convert_verbatim] at h
  unfold converted
  cases hc : conversionOf node with
  | none =>
      rw [hc] at h
      cases h
  | some name =>
      rw [hc] at h
      dsimp only at h ⊢
      cases htype : OutputType.ofName? name.toText with
      | some type =>
          rw [htype] at h
          cases h
      | none =>
          rw [htype] at h
          obtain ⟨hfallback, hf, hw⟩ := fallbackOr_eq_error raises h
          exact ⟨hfallback, hw, by rw [hf]⟩

/-- What the modes make of a node whose operator is known and whose properties are gathered. -/
theorem apply_showing {fallback : Option Json} {f : Failure}
    (h : apply env Evaluator.verbatim k node fallback props w = (some (.error f), w')) :
    ∃ v, apply env.showing Evaluator.verbatim k node fallback props w = (some (.ok v), w') ∧
      ((missing k props = [] ∧ ∃ fault w₁,
          compute env Evaluator.verbatim k props w = (some (.error fault), w₁)) ∧
        v = converted k (conversionOf node) (.string f.message) ∨
      ¬ (missing k props = [] ∧ ∃ fault w₁,
          compute env Evaluator.verbatim k props w = (some (.error fault), w₁)) ∧
        v = .string f.message) := by
  have hsame : compute env.showing = compute env :=
    compute_of_operatorsAgree ⟨rfl, rfl, rfl, rfl, rfl, rfl, rfl, rfl, rfl⟩
  unfold apply at h ⊢
  cases hmissing : missing k props with
  | cons name names =>
      rw [hmissing] at h
      obtain ⟨rfl, rfl, rfl⟩ := fallbackOr_eq_error raises h
      exact ⟨_, rfl, .inr ⟨fun hnil => (List.cons_ne_nil _ _ hnil.1).elim, rfl⟩⟩
  | nil =>
      rw [hmissing] at h
      dsimp only at h ⊢
      rcases hcompute : compute env Evaluator.verbatim k props w with ⟨_ | fault | result, w₁⟩
      · have hexhausted : computeOr env Evaluator.verbatim k fallback props w = (none, w₁) :=
          Run.bind_of_exhausted (Run.attempt_of_exhausted hcompute)
        rw [Run.bind_of_exhausted hexhausted] at h
        cases h
      · -- What the operator fails with takes the place of its result.
        have hor : ∀ {env' : Env}, compute env' = compute env →
            computeOr env' Evaluator.verbatim k fallback props w =
              fallbackOr env' Evaluator.verbatim fallback (NodeFault.operator k fault).failure w₁ := by
          intro env' heq
          unfold computeOr
          rw [heq]
          exact Run.bind_of_ok (Run.attempt_of_finished hcompute)
        obtain ⟨e, hfails, ⟨⟩⟩ | ⟨result, w₂, hresult, hconvert⟩ := Run.andThen_finished h
        · rw [hor rfl] at hfails
          obtain ⟨rfl, rfl, rfl⟩ := fallbackOr_eq_error raises hfails
          rw [Run.bind_of_ok (hor hsame), convert_showing]
          exact ⟨_, rfl, .inl ⟨⟨rfl, fault, w', rfl⟩, rfl⟩⟩
        · -- A fallback that has a value here is there for the conversion as well.
          obtain ⟨rfl, -, -⟩ := convert_eq_error raises hconvert
          rw [hor rfl, fallbackOr, raises] at hresult
          cases hresult
      · have hor : ∀ {env' : Env}, compute env' = compute env →
            computeOr env' Evaluator.verbatim k fallback props w = (some (.ok result), w₁) := by
          intro env' heq
          unfold computeOr
          rw [heq]
          exact Run.bind_of_ok (Run.attempt_of_finished hcompute)
        rw [Run.bind_of_ok (hor rfl)] at h
        obtain ⟨rfl, rfl, hshown⟩ := convert_eq_error raises h
        rw [Run.bind_of_ok (hor hsame), convert_showing]
        refine ⟨_, rfl, .inr ⟨?_, hshown⟩⟩
        rintro ⟨-, fault, w₁, herror⟩
        cases herror

/-- **One node**: it fails with a message, or it has a value that shows the message. -/
theorem operatorBody_showing {f : Failure}
    (h : operatorBody env Evaluator.verbatim node w = (some (.error f), w')) :
    ∃ v, operatorBody env.showing Evaluator.verbatim node w = (some (.ok v), w') ∧
      ShownAs env node w f v := by
  unfold operatorBody at h ⊢
  have hregistry : operatorOf? env.showing node = operatorOf? env node := rfl
  rw [hregistry]
  cases hk : operatorOf? env node with
  | none =>
      rw [hk] at h
      obtain ⟨hfallback, rfl, rfl⟩ := fallbackOr_eq_error raises h
      rw [hfallback]
      refine ⟨_, rfl, fun k hfails => ?_, fun _ => rfl⟩
      cases hk.symm.trans hfails.1
  | some k =>
      rw [hk] at h
      dsimp only at h ⊢
      unfold runOperator at h ⊢
      rcases hgather : gather Evaluator.verbatim k node w with ⟨_ | failure | props, w₁⟩
      · rw [Run.bind_of_exhausted (Run.attempt_of_exhausted hgather)] at h
        cases h
      · rw [Run.bind_of_ok (Run.attempt_of_finished hgather)] at h ⊢
        obtain ⟨hfallback, rfl, rfl⟩ := fallbackOr_eq_error raises h
        refine ⟨.string failure.cut.message, ?_, fun k' hfails => ?_, fun _ => rfl⟩
        · dsimp only
          rw [hfallback, fallbackOr_showing]
          rfl
        · obtain ⟨hk', props, -, -, hprops, -⟩ := hfails
          cases hk.symm.trans hk'
          cases hgather.symm.trans hprops
      · cases gather_verbatim_world hgather
        rw [Run.bind_of_ok (Run.attempt_of_finished hgather)] at h ⊢
        obtain ⟨v, hv, hcases⟩ := apply_showing raises h
        refine ⟨v, hv, fun k' hfails => ?_, fun hsucceeds => ?_⟩
        · obtain ⟨hk', props', fault, w₂, hprops, hcomplete, herror⟩ := hfails
          cases hk.symm.trans hk'
          cases hgather.symm.trans hprops
          obtain ⟨-, rfl⟩ | ⟨hno, -⟩ := hcases
          · rfl
          · exact (hno ⟨hcomplete, fault, w₂, herror⟩).elim
        · obtain ⟨⟨hcomplete, fault, w₂, herror⟩, -⟩ | ⟨-, rfl⟩ := hcases
          · exact (hsucceeds k ⟨hk, props, fault, w₂, hgather, hcomplete, herror⟩).elim
          · rfl

end Modes

end Evaluation

open Evaluation

/-- **Failures are raised and shown alike.**  Let an operator node without fallback have only
properties that are literals, whether failures are raised or shown.  Where it fails while failures
are raised, it comes to a value while they are shown, in the same world; and the value is the
message of the failure, unless it is the operator itself that fails.  Then the message takes the
place of the result and goes through the conversion that the node asks for. -/
theorem failure_is_shown_as_its_message {env : Env} {node : Dict Json} {w w' : World}
    {depth : Nat} {f : Failure} (raises : env.options.showsErrors = false)
    (hoperator : Dict.hasKey node Key.operator = true)
    (hfragment : Dict.hasKey node Key.fragment = false)
    (raised : OfLiterals env (w.enter (Frame.ofNode node)).names node)
    (shown : OfLiterals env.showing (w.enter (Frame.ofNode node)).names node)
    (h : eval env depth (.object node) w = (some (.error f), w')) :
    ∃ depth v, eval env.showing depth (.object node) w = (some (.ok v), w') ∧
      ShownAs env node (w.enter (Frame.ofNode node)) f v := by
  obtain ⟨n, hn⟩ := raised.exists_literalAt
  obtain ⟨m, hm⟩ := shown.exists_literalAt
  cases depth with
  | zero => cases h
  | succ depth =>
      -- From here on the node is run within a depth that does for its literals.
      have hdeep := eval_mono (Nat.le_add_right (depth + 1) (n + 3)) _ w _ _ h
      rw [show depth + 1 + (n + 3) = depth + n + 3 + 1 by omega, eval,
        node_operator env _ hfragment hoperator] at hdeep
      obtain ⟨w₁, hbody, rfl⟩ := Run.eq_of_withFrame hdeep
      have hraised := operatorBody_verbatim
        (fun e he hkey => (hn e he hkey).mono (Nat.le_add_left n depth)) raised.plain _ rfl
      rw [hraised.1] at hbody
      obtain ⟨v, hv, hshows⟩ := operatorBody_showing raises hbody
      refine ⟨m + 3 + 1, v, ?_, hshows⟩
      rw [eval, node_operator env.showing _ hfragment hoperator]
      refine Run.withFrame_of_eq ?_
      rw [(operatorBody_verbatim hm shown.plain _ rfl).1, hv]

/-- A node whose properties are texts that name no bindings is a node of literals. -/
theorem Evaluation.OfLiterals.texts {env : Env} {node : Dict Json} (names : List (List String))
    (hread : env.options.readsStrings = false)
    (h : ∀ e ∈ node, e.1 ≠ Key.operator → ∃ s, e.2 = .string s ∧ isBindingName s = false) :
    OfLiterals env names node where
  literal e he hkey u hu := by
    obtain ⟨s, hs, hname⟩ := h e he hkey
    rw [hs] at hu
    cases hu
    exact SelfEvaluating.text names hname hread
  plain k items _ hchildren := by
    have hkey : Key.children ≠ Key.operator := by decide
    obtain ⟨s, hs, -⟩ := h _ (Dict.mem_of_get? hchildren) hkey
    cases hs

/-- A conjunction of something that is no list, as an array. -/
def conjunctionAsArray : Dict Json :=
  [("operator", .string "and"), ("values", .string "x"), ("outputType", .string "array")]

theorem conjunctionAsArray_ofLiterals {env : Env} (names : List (List String))
    (hread : env.options.readsStrings = false) :
    Evaluation.OfLiterals env names conjunctionAsArray := by
  refine .texts names hread fun e he hkey => ?_
  simp only [conjunctionAsArray, List.mem_cons, List.not_mem_nil, or_false] at he
  obtain rfl | rfl | rfl := he
  · exact (hkey rfl).elim
  · exact ⟨"x", rfl, rfl⟩
  · exact ⟨"array", rfl, rfl⟩

theorem conjunction_failure_is_shown :
    let env : Env := ⟨Options.empty, Registry.full⟩
    let w : World := ⟨[], ResultCache.empty 0, []⟩
    ∃ f, eval env 3 (.object conjunctionAsArray) w = (some (.error f), w) ∧
      ∃ depth v, eval env.showing depth (.object conjunctionAsArray) w = (some (.ok v), w) ∧
        ShownAs env conjunctionAsArray w f v := by
  intro env w
  obtain ⟨f, hfails⟩ : ∃ f, eval env 3 (.object conjunctionAsArray) w = (some (.error f), w) :=
    ⟨_, rfl⟩
  exact ⟨f, hfails, failure_is_shown_as_its_message rfl rfl rfl
    (conjunctionAsArray_ofLiterals _ rfl) (conjunctionAsArray_ofLiterals _ rfl) hfails⟩

/-- The message of the conjunction is put into an array: with literals only and no fallback, it is
not the value. -/
theorem shown_message_is_converted :
    let env : Env := ⟨Options.empty, Registry.full⟩
    let w : World := ⟨[], ResultCache.empty 0, []⟩
    (∀ names, Evaluation.OfLiterals env names conjunctionAsArray ∧
        Evaluation.OfLiterals env.showing names conjunctionAsArray) ∧
      Dict.get? conjunctionAsArray Key.fallback = none ∧
      ∃ f, eval env 3 (.object conjunctionAsArray) w = (some (.error f), w) ∧
        ∀ depth w', eval env.showing depth (.object conjunctionAsArray) w ≠
          (some (.ok (.string f.message)), w') := by
  intro env w
  refine ⟨fun names => ⟨conjunctionAsArray_ofLiterals names rfl,
    conjunctionAsArray_ofLiterals names rfl⟩, rfl, _, rfl, fun depth w' h => ?_⟩
  obtain ⟨message, harray⟩ : ∃ message, eval env.showing 3 (.object conjunctionAsArray) w =
    (some (.ok (.array [.string message])), w) := ⟨_, rfl⟩
  cases (eval_unique harray h).1

end JsonExpr
