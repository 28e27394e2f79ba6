import JsonExpr.Proofs.Evaluation.Unreached

/-!
# The fallback of a fragment node

A fragment node is evaluated in two parts: the name of the fragment and the parameters, which may
have to be computed, and then the node that it stands for, which has the properties of the fragment
node and so its fallback.  The fallback is there for a fragment that is not defined and for whatever
fails in the second part, unless the template or the parameters bring a fallback of their own.  It
is not there for the first part: what fails while the name or the parameters are computed leaves the
node.

The node that a fragment node stands for may be a fragment node again, since a template may have
both keys.  Then its name and parameters come first, too, so in the end it is the nodes that a
fragment node *unfolds* to which decide how it can fail.

Main definitions:

* `JsonExpr.Evaluation.instanceFields` — the properties of the node that a fragment node stands for;
* `JsonExpr.Evaluation.FailsToExpand` — a fragment node whose name or parameters fail;
* `JsonExpr.Evaluation.WrittenOut` — a fragment node whose name and parameters are not computed;
* `JsonExpr.Evaluation.LeavesFallback` — an expansion that brings no fallback of its own;
* `JsonExpr.Evaluation.Unfolds` — the fragment nodes that a fragment node comes to.

Main results:

* `JsonExpr.Evaluation.fragmentNode_finished` — the ways in which a fragment node comes to an end;
* `JsonExpr.fragment_node_fails_iff_its_expansion_does` — **a fragment node with a fallback fails
  exactly as the name or the parameters fail of a node that it unfolds to**.
-/

set_option autoImplicit false

namespace JsonExpr

namespace Evaluation

variable {env : Env} {ev : Evaluator Failure} {node template : Dict Json} {f : Json}
  {parameters : Option Json} {w w₁ w' : World}

/-! ### The node that a fragment node stands for -/

/-- The properties of the node that a fragment node stands for. -/
def instanceFields (node template : Dict Json) (parameters : Option Json) : Dict Json :=
  Dict.extend (Dict.extend (FragmentDefinition.ownFields node) template)
    ((parameters.bind Json.asObject?).getD [])

theorem instantiate_eq (node template : Dict Json) (parameters : Option Json) :
    FragmentDefinition.instantiate node template parameters =
      .object (instanceFields node template parameters) := rfl

/-- An expansion that brings no fallback of its own: neither the template nor the parameters have
one, and no child is one. -/
structure LeavesFallback (env : Env) (node template : Dict Json) (parameters : Option Json) :
    Prop where
  fromTemplate : Dict.hasKey template Key.fallback = false
  fromParameters : Dict.hasKey ((parameters.bind Json.asObject?).getD []) Key.fallback = false
  fromChildren :
    operatorOf? env (instanceFields node template parameters) = some .objectProperties →
      Dict.hasKey (instanceFields node template parameters) Key.children = false

/-- The node that a fragment node stands for has its fallback. -/
theorem LeavesFallback.get?_eq (h : LeavesFallback env node template parameters) :
    Dict.get? (instanceFields node template parameters) Key.fallback =
      Dict.get? node Key.fallback := by
  have hown : (Key.fallback != Key.fragment && Key.fallback != Key.parameters) = true := by decide
  rw [instanceFields, Dict.get?_extend_of_not_hasKey h.fromParameters,
    Dict.get?_extend_of_not_hasKey h.fromTemplate, FragmentDefinition.ownFields,
    Dict.get?_filterKeys, if_pos hown]

theorem hasKey_instanceFields (operator : Dict.hasKey template Key.operator = true) :
    Dict.hasKey (instanceFields node template parameters) Key.operator = true := by
  rw [instanceFields, Dict.hasKey_extend, Dict.hasKey_extend, operator, Bool.or_true, Bool.true_or]

/-! ### How a fragment node ends -/

/-- The name of the fragment fails, or the fragment is defined and the parameters fail. -/
def FailsToExpand (env : Env) (ev : Evaluator Failure) (node : Dict Json) (w : World) (e : Failure)
    (w' : World) : Prop :=
  fragmentName ev node w = (some (.error e), w') ∨
    ∃ fragment w₀ definition, fragmentName ev node w = (some (.ok fragment), w₀) ∧
      (env.options.fragments.bind fun fragments => Dict.get? fragments fragment) =
        some definition ∧
      parametersOf ev node w₀ = (some (.error e), w')

/-- A fragment node that fails to expand fails. -/
theorem FailsToExpand.fragmentNode_eq {e : Failure} (h : FailsToExpand env ev node w e w') :
    fragmentNode env ev node w = (some (.error e), w') := by
  unfold fragmentNode
  obtain hname | ⟨fragment, w₀, definition, hname, hdefinition, hparameters⟩ := h
  · exact Run.bind_of_error hname
  · rw [Run.bind_of_ok hname, hdefinition]
    exact Run.bind_of_error hparameters

/-- A fragment node that finishes fails to expand, or falls back because the fragment is not
defined, or has a value at once, or comes to what the node does that it stands for. -/
theorem fragmentNode_finished {outcome : Except Failure Json}
    (h : fragmentNode env ev node w = (some outcome, w')) :
    (∃ e, outcome = .error e ∧ FailsToExpand env ev node w e w') ∨
    (∃ failure w₁,
      fallbackOr env ev (Dict.get? node Key.fallback) failure w₁ = (some outcome, w')) ∨
    (∃ v, outcome = .ok v) ∨
    ∃ template parameters w₁, Expands env ev node w template parameters w₁ ∧
      ev (.object (instanceFields node template parameters)) w₁ = (some outcome, w') := by
  obtain ⟨e, hname, rfl⟩ | ⟨fragment, w₀, hname, h⟩ := Run.andThen_finished h
  · exact .inl ⟨e, rfl, .inl hname⟩
  · cases hdefinition :
      env.options.fragments.bind fun fragments => Dict.get? fragments fragment with
    | none =>
        rw [hdefinition] at h
        exact .inr (.inl ⟨_, w₀, h⟩)
    | some definition =>
        rw [hdefinition] at h
        obtain ⟨e, hparameters, rfl⟩ | ⟨parameters, w₁, hparameters, h⟩ := Run.andThen_finished h
        · exact .inl ⟨e, rfl, .inr ⟨fragment, w₀, definition, hname, hdefinition, hparameters⟩⟩
        · cases htemplate : templateOf env definition with
          | object template =>
              rw [htemplate] at h
              dsimp only at h
              split at h
              · next operator =>
                exact .inr (.inr (.inr ⟨template, parameters, w₁,
                  ⟨fragment, w₀, definition, hname, hdefinition, hparameters, htemplate, operator⟩,
                  h⟩))
              · cases h
                exact .inr (.inr (.inl ⟨_, rfl⟩))
          | _ =>
              rw [htemplate] at h
              cases h
              exact .inr (.inr (.inl ⟨_, rfl⟩))

/-- The name of a fragment is a text that stands for itself, and the parameters are no node. -/
structure WrittenOut (env : Env) (node : Dict Json) (name : String) : Prop where
  fragment : Dict.get? node Key.fragment = some (.string name)
  noBinding : isBindingName name = false
  noNode : env.options.readsStrings = false
  parameters : ∀ p, Dict.get? node Key.parameters = some p → isNode p = false

theorem WrittenOut.fragmentName_eq {name : String} (h : WrittenOut env node name) {depth : Nat}
    {outcome : Except Failure String} {w₀ : World}
    (hname : fragmentName (eval env depth) node w = (some outcome, w₀)) :
    outcome = .ok name ∧ w₀ = w := by
  cases depth with
  | zero =>
      rw [fragmentName, h.fragment] at hname
      cases hname
  | succ depth =>
      have htext : (eval env (depth + 1)).optional (some (.string name)) w =
          (some (.ok (some (.string name))), w) :=
        Run.andThen_of_ok (eval_text h.noNode h.noBinding depth w)
      rw [fragmentName, h.fragment, Run.bind_of_ok htext] at hname
      cases hname
      exact ⟨rfl, rfl⟩

theorem WrittenOut.parametersOf_eq {name : String} (h : WrittenOut env node name)
    (ev : Evaluator Failure) (w : World) :
    parametersOf ev node w = (some (.ok (Dict.get? node Key.parameters)), w) := by
  unfold parametersOf
  cases hp : Dict.get? node Key.parameters with
  | none => rfl
  | some p =>
      dsimp only
      rw [if_neg (Bool.eq_false_iff.mp (h.parameters p hp))]
      rfl

/-- What is written out does not fail to expand. -/
theorem WrittenOut.not_failsToExpand {name : String} (h : WrittenOut env node name) (depth : Nat)
    (e : Failure) (w' : World) : ¬ FailsToExpand env (eval env depth) node w e w' := by
  rintro (hname | ⟨fragment, w₀, definition, -, -, hparameters⟩)
  · obtain ⟨hok, -⟩ := h.fragmentName_eq hname
    cases hok
  · rw [h.parametersOf_eq] at hparameters
    cases hparameters

/-! ### Greater depth -/

theorem Expands.mono {depth depth' : Nat} (hle : depth ≤ depth')
    (h : Expands env (eval env depth) node w template parameters w₁) :
    Expands env (eval env depth') node w template parameters w₁ := by
  have C := (Run.Extends.congruence env).toCompositional
  obtain ⟨fragment, w₀, definition, hname, hdefinition, hparameters, htemplate⟩ := h
  exact ⟨fragment, w₀, definition, C.fragmentName (eval_mono hle) node _ _ _ hname, hdefinition,
    C.parametersOf (eval_mono hle) node _ _ _ hparameters, htemplate⟩

/-! ### Unfolding -/

/-- The fragment nodes that a fragment node comes to, one after the other, and the worlds in which
they are evaluated. -/
inductive Unfolds (env : Env) : Dict Json → World → Dict Json → World → Prop where
  /-- The node itself. -/
  | self (node : Dict Json) (w : World) : Unfolds env node w node w
  /-- What the node unfolds to that it stands for, if that is a fragment node. -/
  | step {depth : Nat} {node template last : Dict Json} {parameters : Option Json}
      {w w₁ w₂ : World} :
      Expands env (eval env depth) node w template parameters w₁ →
      Dict.hasKey (instanceFields node template parameters) Key.fragment = true →
      Unfolds env (instanceFields node template parameters) w₁ last w₂ → Unfolds env node w last w₂

/-- What a node that it unfolds to fails with, a fragment node fails with. -/
theorem Unfolds.eval_eq_error {depth : Nat} {last : Dict Json} {e : Failure}
    (h : Unfolds env node w last w₁) (hfragment : Dict.hasKey node Key.fragment = true)
    (hfails : FailsToExpand env (eval env depth) last w₁ e w') :
    ∃ depth, eval env depth (.object node) w = (some (.error e), w') := by
  induction h with
  | self node w =>
      refine ⟨depth + 1, ?_⟩
      rw [eval, node_fragment _ _ hfragment]
      exact hfails.fragmentNode_eq
  | @step depth₁ node template last parameters w w₁ w₂ hexpands hinstance _ ih =>
      obtain ⟨depth₂, herror⟩ := ih hinstance hfails
      refine ⟨max depth₁ depth₂ + 1, ?_⟩
      rw [(hexpands.mono (Nat.le_max_left depth₁ depth₂)).eval_eq hfragment]
      exact eval_mono (Nat.le_max_right depth₁ depth₂) _ _ _ _ herror

/-- An operator node with a fallback that evaluates to itself comes to no failure. -/
theorem eval_operator_ok {depth : Nat} {outcome : Except Failure Json}
    (hfragment : Dict.hasKey node Key.fragment = false)
    (operator : Dict.hasKey node Key.operator = true)
    (hfallback : Dict.get? node Key.fallback = some f)
    (hchildren : operatorOf? env node = some .objectProperties →
      Dict.hasKey node Key.children = false)
    (literal : ∀ names, SelfEvaluating env names f)
    (h : eval env depth (.object node) w = (some outcome, w')) : ∃ v, outcome = .ok v := by
  cases depth with
  | zero => cases h
  | succ depth =>
      rw [eval, node_operator _ _ hfragment operator] at h
      obtain ⟨w₁, hbody, -⟩ := Run.eq_of_withFrame h
      exact (operatorBody_safe hfallback hchildren (literal _) depth).ok_of_finished rfl hbody

/-- A fragment node with a fallback that evaluates to itself fails only as a node that it unfolds
to. -/
theorem exists_unfolds_of_error {depth : Nat} {e : Failure}
    (hfragment : Dict.hasKey node Key.fragment = true)
    (hfallback : Dict.get? node Key.fallback = some f)
    (literal : ∀ names, SelfEvaluating env names f)
    (leaves : ∀ depth last w₁ template parameters w₂, Unfolds env node w last w₁ →
      Expands env (eval env depth) last w₁ template parameters w₂ →
      LeavesFallback env last template parameters)
    (h : eval env depth (.object node) w = (some (.error e), w')) :
    ∃ depth last w₁, Unfolds env node w last w₁ ∧
      FailsToExpand env (eval env depth) last w₁ e w' := by
  induction depth generalizing node w with
  | zero => cases h
  | succ depth ih =>
      rw [eval, node_fragment _ _ hfragment] at h
      obtain ⟨_, ⟨⟩, hfails⟩ | ⟨failure, w₁, hcaught⟩ | ⟨_, ⟨⟩⟩ |
        ⟨template, parameters, w₁, hexpands, h⟩ := fragmentNode_finished h
      · exact ⟨depth, node, w, .self node w, hfails⟩
      · rw [hfallback] at hcaught
        obtain ⟨hvalue, -⟩ := (literal _).ok_of_finished rfl hcaught
        cases hvalue
      · have hleaves := leaves depth node w template parameters w₁ (.self node w) hexpands
        have hsame := hleaves.get?_eq.trans hfallback
        cases hinstance : Dict.hasKey (instanceFields node template parameters) Key.fragment with
        | true =>
            obtain ⟨depth', last, w₂, hunfolds, hfails⟩ := ih hinstance hsame
              (fun depth last w₂ template parameters w₃ hunfolds =>
                leaves depth last w₂ template parameters w₃ (.step hexpands hinstance hunfolds)) h
            exact ⟨depth', last, w₂, .step hexpands hinstance hunfolds, hfails⟩
        | false =>
            obtain ⟨-, -, -, -, -, -, -, operator⟩ := hexpands
            obtain ⟨_, hvalue⟩ := eval_operator_ok hinstance (hasKey_instanceFields operator) hsame
              hleaves.fromChildren literal h
            cases hvalue

end Evaluation

/-- **A fragment node with a fallback fails exactly as the name or the parameters fail of a node
that it unfolds to.**  The fallback is to evaluate to itself, and no expansion is to bring another
one.  Then every other evaluation that finishes has a value, whether failures are raised or shown: if the
fragment is not defined, and whatever fails in the node that the fragment node stands for. -/
theorem fragment_node_fails_iff_its_expansion_does {env : Env} {node : Dict Json} {f : Json}
    {w : World} (hfragment : Dict.hasKey node Key.fragment = true)
    (hfallback : Dict.get? node Key.fallback = some f)
    (literal : ∀ names, SelfEvaluating env names f)
    (leaves : ∀ depth last w₁ template parameters w₂, Evaluation.Unfolds env node w last w₁ →
      Evaluation.Expands env (eval env depth) last w₁ template parameters w₂ →
      Evaluation.LeavesFallback env last template parameters) (e : Failure) (w' : World) :
    (∃ depth, eval env depth (.object node) w = (some (.error e), w')) ↔
      ∃ depth last w₁, Evaluation.Unfolds env node w last w₁ ∧
        Evaluation.FailsToExpand env (eval env depth) last w₁ e w' := by
  constructor
  · rintro ⟨depth, h⟩
    exact Evaluation.exists_unfolds_of_error hfragment hfallback literal leaves h
  · rintro ⟨depth, last, w₁, hunfolds, hfails⟩
    exact hunfolds.eval_eq_error hfragment hfails

/-- An environment whose one fragment is a conjunction of something that is no list. -/
def failingFragment : Env :=
  ⟨{ Options.empty with
      fragments := some [("f", .object [("operator", .string "and"), ("values", .string "x")])] },
    Registry.full⟩

/-- A fragment node stands for a node that fails, and has the value of its own fallback. -/
theorem fallback_stands_in_for_fragment :
    let node : Dict Json := [("fragment", .string "f"), ("fallback", .string "saved")]
    let w : World := ⟨[], ResultCache.empty 0, []⟩
    (∀ depth e w', eval failingFragment depth (.object node) w ≠ (some (.error e), w')) ∧
      eval failingFragment 4 (.object node) w = (some (.ok (.string "saved")), w) := by
  intro node w
  have hwritten : Evaluation.WrittenOut failingFragment node "f" :=
    ⟨rfl, rfl, rfl, fun p hp => by cases hp⟩
  have hexpands : ∀ {depth template parameters w₁},
      Evaluation.Expands failingFragment (eval failingFragment depth) node w template parameters
        w₁ →
      template = [("operator", .string "and"), ("values", .string "x")] ∧ parameters = none := by
    rintro depth template parameters w₁
      ⟨fragment, w₀, definition, hname, hdefinition, hparameters, htemplate, -⟩
    obtain ⟨heq, -⟩ := hwritten.fragmentName_eq hname
    rw [hwritten.parametersOf_eq] at hparameters
    cases heq
    cases hdefinition
    cases hparameters
    cases htemplate
    exact ⟨rfl, rfl⟩
  -- The node that it stands for is no fragment node.
  have hunfolds : ∀ {last w₁}, Evaluation.Unfolds failingFragment node w last w₁ →
      last = node ∧ w₁ = w := by
    intro last w₁ h
    cases h with
    | self => exact ⟨rfl, rfl⟩
    | step h hinstance _ =>
        obtain ⟨rfl, rfl⟩ := hexpands h
        cases hinstance
  have leaves : ∀ depth last w₁ template parameters w₂,
      Evaluation.Unfolds failingFragment node w last w₁ →
      Evaluation.Expands failingFragment (eval failingFragment depth) last w₁ template parameters
        w₂ → Evaluation.LeavesFallback failingFragment last template parameters := by
    intro depth last w₁ template parameters w₂ hlast h
    obtain ⟨rfl, rfl⟩ := hunfolds hlast
    obtain ⟨rfl, rfl⟩ := hexpands h
    exact ⟨rfl, rfl, fun hk => by cases hk⟩
  have hfallback : Dict.get? node Key.fallback = some (.string "saved") := rfl
  have literal : ∀ names, SelfEvaluating failingFragment names (.string "saved") :=
    fun names => SelfEvaluating.text names rfl rfl
  refine ⟨fun depth e w' herror => ?_, rfl⟩
  obtain ⟨depth', last, w₁, hlast, hexpansion⟩ :=
    (fragment_node_fails_iff_its_expansion_does rfl hfallback literal leaves e w').mp
      ⟨depth, herror⟩
  obtain ⟨rfl, rfl⟩ := hunfolds hlast
  exact hwritten.not_failsToExpand depth' e w' hexpansion

/-- The fallback of a fragment node is not there for the name of the fragment, nor for the
parameters. -/
theorem computed_parts_escape_the_fallback :
    let failing : Json := .object [("operator", .string "and"), ("values", .string "x")]
    let byName : Dict Json := [("fragment", failing), ("fallback", .string "saved")]
    let withParameters : Dict Json :=
      [("fragment", .string "f"), ("parameters", failing), ("fallback", .string "saved")]
    let w : World := ⟨[], ResultCache.empty 0, []⟩
    failingFragment.options.showsErrors = false ∧
      (∀ names, SelfEvaluating failingFragment names (.string "saved")) ∧
      (∃ e, eval failingFragment 4 (.object byName) w = (some (.error e), w)) ∧
      ∃ e, eval failingFragment 4 (.object withParameters) w = (some (.error e), w) := by
  intro failing byName withParameters w
  exact ⟨rfl, fun names => SelfEvaluating.text names rfl rfl, ⟨_, rfl⟩, ⟨_, rfl⟩⟩

end JsonExpr
