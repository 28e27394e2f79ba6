import JsonExpr.Proofs.Engine
import JsonExpr.Proofs.Evaluation.KeyOrder
import JsonExpr.Proofs.Evaluation.Unchecked
import JsonExpr.Proofs.Shorthand.Ahead
import JsonExpr.Proofs.Shorthand.Expansion
import Mathlib.Data.Option.Basic

/-!
# The metadata of fragments

The metadata of a fragment take no part in evaluation, but they stand among the entries of its
template, and taking them out moves the last entry into their place.  So with metadata the template
is the one without them up to order, and only as long as the metadata are among the last two entries
the very same.

An operator template in another order stands for nodes in another order.  These do the same, unless
the entry that was moved is now before one that is an alias of the same parameter.  A template that
is no operator node is the value of its fragment node, and shows its order.

Main definitions:

* `JsonExpr.Json.Rearranged` — values that are the same, or operator nodes in another order;
* `JsonExpr.Env.Rearranged` — environments with such templates under the names of their fragments.

Main results:

* `JsonExpr.FragmentDefinition.template_insertIdx` — the template with metadata at some position;
* `JsonExpr.eval_rearranged` — **evaluation does not see the order of operator templates**;
* `JsonExpr.Engine.metadata_take_no_part` — **metadata take no part in evaluation**, unless an entry
  is moved where its place matters.
-/

set_option autoImplicit false

namespace JsonExpr

/-! ### Values in another order -/

/-- The same value, or an operator node in another order in which the aliases of each parameter are
in the same order. -/
inductive Json.Rearranged : Json → Json → Prop where
  /-- The same value. -/
  | refl (v : Json) : Rearranged v v
  /-- An operator node in another order. -/
  | node {node node' : Dict Json} (operator : Dict.hasKey node Key.operator = true)
      (h : JsonExpr.Rearranged (fun _ => True) node node') :
      Rearranged (.object node) (.object node')

/-- Environments that differ in their fragments only, which have the same names and whose templates
are the same or operator nodes in another order. -/
structure Env.Rearranged (env env' : Env) : Prop where
  registry : env'.registry = env.registry
  options : env'.options = { env.options with fragments := env'.options.fragments }
  templates : ∀ name, Option.Rel
    (fun definition definition' => Json.Rearranged (FragmentDefinition.ofJson definition).template
      (FragmentDefinition.ofJson definition').template)
    (env.options.fragments.bind fun fragments => Dict.get? fragments name)
    (env'.options.fragments.bind fun fragments => Dict.get? fragments name)

namespace Env.Rearranged

variable {env env' : Env}

/-- Whatever else is read from the options is the same. -/
theorem read_eq (h : Env.Rearranged env env') {α : Type} (read : Options → α)
    (hread : ∀ fragments, read { env.options with fragments := fragments } = read env.options) :
    read env'.options = read env.options := by
  rw [h.options, hread]

theorem sameRules (h : Env.Rearranged env env') : Env.SameRules env env' where
  registry := h.registry
  operators := by
    rw [h.options]
    exact ⟨rfl, rfl, rfl, rfl, rfl, rfl, rfl, rfl, rfl⟩
  showsErrors := h.read_eq _ fun _ => rfl
  readsStrings := h.read_eq _ fun _ => rfl
  entersObjects := h.read_eq _ fun _ => rfl

/-- What names build does not depend on what the fragments are. -/
theorem build?_eq (h : Env.Rearranged env env') :
    env'.shorthandNames.build? = env.shorthandNames.build? := by
  have hfragment : ∀ name, env'.shorthandNames.hasFragment name =
      env.shorthandNames.hasFragment name := by
    intro name
    have hnames : ∀ env : Env, env.shorthandNames.hasFragment name =
        (env.options.fragments.bind fun fragments => Dict.get? fragments name).isSome := by
      intro env
      unfold Env.shorthandNames Shorthand.Names.hasFragment
      cases env.options.fragments <;> rfl
    have hrel := h.templates name
    rw [hnames, hnames]
    generalize (env.options.fragments.bind fun fragments => Dict.get? fragments name) = o at hrel
    generalize (env'.options.fragments.bind fun fragments => Dict.get? fragments name) = o' at hrel
    cases hrel <;> rfl
  funext name parameters
  unfold Shorthand.Names.build?
  rw [hfragment, Env.shorthandNames, Env.shorthandNames, h.registry]

theorem expandsShorthand_eq (h : Env.Rearranged env env') :
    env'.options.expandsShorthand = env.options.expandsShorthand :=
  h.read_eq _ fun _ => rfl

theorem preprocess_eq (h : Env.Rearranged env env') (v : Json) :
    Shorthand.preprocess ⟨env'.registry, env'.options.fragments⟩ v =
      Shorthand.preprocess ⟨env.registry, env.options.fragments⟩ v :=
  Shorthand.preprocess_congr h.build?_eq v

end Env.Rearranged

namespace Evaluation

variable {env env' : Env} {ev ev' : Evaluator Failure} {node node' : Dict Json}

/-- Templates stay so with shorthand expanded. -/
theorem templateOf_rearranged (h : Env.Rearranged env env') {definition definition' : Json}
    (hdefinition : Json.Rearranged (FragmentDefinition.ofJson definition).template
      (FragmentDefinition.ofJson definition').template) :
    Json.Rearranged (templateOf env definition) (templateOf env' definition') := by
  unfold templateOf
  rw [h.expandsShorthand_eq]
  split
  · rw [h.preprocess_eq]
    generalize (FragmentDefinition.ofJson definition).template = template at hdefinition
    generalize (FragmentDefinition.ofJson definition').template = template' at hdefinition
    cases hdefinition with
    | refl => exact .refl _
    | @node node node' operator h =>
        have hnode : ∀ node : Dict Json, Dict.hasKey node Key.operator = true →
            isNode (.object node) = true := fun node hkey => by
          rw [isNode, Shorthand.isOperatorNode_object, hkey]
          rfl
        have operator' := (h.upToOrder.hasKey_eq Key.operator).symm.trans operator
        rw [Shorthand.preprocess_node (hnode node operator),
          Shorthand.preprocess_node (hnode node' operator')]
        exact .node ((Dict.hasKey_map _ _ _).trans operator) (h.map _)
  · exact hdefinition

/-- Fragment nodes in another order stand for nodes in another order. -/
theorem instantiate_rearranged (h : JsonExpr.Rearranged (fun _ => True) node node')
    {template template' : Dict Json} (operator : Dict.hasKey template Key.operator = true)
    (htemplate : JsonExpr.Rearranged (fun _ => True) template template')
    (parameters : Option Json) :
    Json.Rearranged (FragmentDefinition.instantiate node template parameters)
      (FragmentDefinition.instantiate node' template' parameters) := by
  refine .node ?_ (((h.filterKeys _).extend htemplate).extend (.refl _ _))
  rw [Dict.hasKey_extend, Dict.hasKey_extend, operator, Bool.or_true, Bool.true_or]

theorem fragmentNode_rearranged (henv : Env.Rearranged env env')
    (hev : ∀ v v', Json.Rearranged v v' → Run.UpToOrder (ev v) (ev' v'))
    (h : JsonExpr.Rearranged (fun _ => True) node node') :
    Run.UpToOrder (fragmentNode env ev node) (fragmentNode env' ev' node') := by
  have C := (Run.UpToOrder.congruence env).toCompositional
  have hsame : ∀ v, Run.UpToOrder (ev v) (ev' v) := fun v => hev v v (.refl v)
  have hget : ∀ key, Dict.get? node' key = Dict.get? node key := fun key => (h.upToOrder key).symm
  have hfallbackOr := fallbackOr_of_sameRules henv.sameRules
  unfold fragmentNode fragmentName parametersOf
  rw [hget, hget, hget]
  refine C.bind (C.bind (C.optional hsame _) fun _ => C.pure _) fun name => ?_
  have hrel := henv.templates name
  generalize (env.options.fragments.bind fun fragments => Dict.get? fragments name) = o at hrel
  generalize (env'.options.fragments.bind fun fragments => Dict.get? fragments name) = o' at hrel
  cases hrel with
  | none =>
      rw [hfallbackOr]
      exact C.fallbackOr hsame _ _
  | some hdefinition =>
      refine C.bind ?_ fun parameters => ?_
      · split
        · split
          · exact C.optional hsame _
          · exact C.value _
        · exact C.value none
      · have htemplate := templateOf_rearranged henv hdefinition
        generalize templateOf env _ = template at htemplate
        generalize templateOf env' _ = template' at htemplate
        cases htemplate with
        | refl =>
            cases template with
            | object template =>
                dsimp only
                split
                · next operator =>
                  exact hev _ _ (instantiate_rearranged h operator (.refl _ _) parameters)
                · exact C.pure _
            | _ => exact C.pure _
        | node operator htemplate =>
            dsimp only
            rw [← htemplate.upToOrder.hasKey_eq, operator]
            exact hev _ _ (instantiate_rearranged h operator htemplate parameters)

end Evaluation

/-- **Evaluation does not see the order of operator templates.** -/
theorem eval_rearranged {env env' : Env} (henv : Env.Rearranged env env') (depth : Nat)
    {v v' : Json} (h : Json.Rearranged v v') :
    Run.UpToOrder (eval env depth v) (eval env' depth v') := by
  induction depth generalizing v v' with
  | zero => exact .exhausted
  | succ depth ih =>
      have C := Run.UpToOrder.congruence env
      have hsame : ∀ v, Run.UpToOrder (eval env depth v) (eval env' depth v) :=
        fun v => ih (.refl v)
      rw [eval, eval]
      cases h with
      | refl =>
          cases hv : classify v with
          | fragment fields =>
              obtain ⟨rfl, hfragment⟩ := classify_eq_fragment hv
              rw [Evaluation.node_fragment _ _ hfragment, Evaluation.node_fragment _ _ hfragment]
              exact Evaluation.fragmentNode_rearranged henv (fun _ _ => ih) (.refl _ _)
          | _ =>
              rw [Evaluation.node_of_sameRules henv.sameRules fun fields hfields => by
                rw [hv] at hfields
                cases hfields]
              exact C.node hsame v
      | @node node node' operator h =>
          have hkeys := h.upToOrder.hasKey_eq
          have operator' := (hkeys _).symm.trans operator
          cases hfragment : Dict.hasKey node Key.fragment with
          | true =>
              rw [Evaluation.node_fragment _ _ hfragment,
                Evaluation.node_fragment _ _ ((hkeys _).symm.trans hfragment)]
              exact Evaluation.fragmentNode_rearranged henv (fun _ _ => ih) h
          | false =>
              rw [Evaluation.node_operator _ _ hfragment operator,
                Evaluation.node_operator _ _ ((hkeys _).symm.trans hfragment) operator',
                Evaluation.operatorNode_of_sameRules henv.sameRules]
              exact Evaluation.operatorNode_upToOrder (h.mono fun _ _ => trivial) hsame

/-! ### Metadata -/

namespace FragmentDefinition

/-- The template of an object is what is left without the metadata. -/
theorem template_object (fields : Dict Json) :
    (ofJson (.object fields)).template = .object (Dict.swapRemove fields metadataKey) := by
  cases hget : Dict.get? fields metadataKey with
  | some m => rw [ofJson, hget]
  | none =>
      have hnone : Dict.hasKey fields metadataKey = false := Dict.hasKey_eq_false_iff.mpr hget
      rw [ofJson, hget, Dict.swapRemove_eq_self hnone]

/-- A template with metadata among its last two entries is the template without them; an operator
template with metadata further ahead is that template in another order, in which an entry behind
them may have passed others, but no alias of the same parameter. -/
theorem template_insertIdx {template : Dict Json}
    (noMetadata : Dict.hasKey template metadataKey = false) (hnodup : Dict.KeysNodup template)
    (m : Json) {i : Nat}
    (h : template.length ≤ i + 1 ∨ Dict.hasKey template Key.operator = true ∧
      ∀ k : OperatorKind, k.schema.SpelledOnce (template.drop i)) :
    Json.Rearranged (ofJson (.object template)).template
      (ofJson (.object (template.insertIdx i (metadataKey, m)))).template := by
  obtain ⟨behind, hperm, hshort, hremove⟩ := Dict.swapRemove_insertIdx noMetadata m i
  have hbehind : Dict.KeysNodup (template.drop i) :=
    hnodup.sublist ((List.drop_sublist i template).map Prod.fst)
  rw [template_object, template_object, Dict.swapRemove_eq_self noMetadata, hremove]
  rcases h with hlast | ⟨operator, once⟩
  · rw [hshort (by rw [List.length_drop]; omega), List.take_append_drop]
    exact .refl _
  · have hrearranged := (Rearranged.of_perm hbehind hperm fun k (_ : True) => once k).append_left
      (template.take i)
    rw [List.take_append_drop] at hrearranged
    exact .node operator hrearranged

end FragmentDefinition

theorem Env.Rearranged.refl (env : Env) : Env.Rearranged env env where
  registry := rfl
  options := rfl
  templates name := by
    cases env.options.fragments.bind fun fragments => Dict.get? fragments name with
    | none => exact .none
    | some definition => exact .some (.refl _)

/-- Options with a fragment under the same name, whose templates are the same or operator nodes in
another order. -/
theorem Env.Rearranged.of_withFragment {o : Options} (registry : Registry) (f : String)
    {definition definition' : Json}
    (h : Json.Rearranged (FragmentDefinition.ofJson definition).template
      (FragmentDefinition.ofJson definition').template) :
    Env.Rearranged ⟨o.withFragment f definition, registry⟩
      ⟨o.withFragment f definition', registry⟩ where
  registry := rfl
  options := rfl
  templates name := by
    simp only [Options.withFragment, Option.bind_some, Dict.get?_insert]
    split
    · exact .some h
    · cases Dict.get? (o.fragments.getD []) name with
      | none => exact .none
      | some d => exact .some (.refl _)

namespace Engine

/-- Engines with the same cache and history do the same in environments that differ in the order of
operator templates. -/
theorem evaluateWithin_rearranged {e e' : Engine} {overrides overrides' : Options}
    (henv : Env.Rearranged (e.envWith overrides) (e'.envWith overrides'))
    (hcache : e'.cacheWith overrides' = e.cacheWith overrides) (hhistory : e'.history = e.history)
    (depth : Nat) (expression : Json) :
    SameRun (e.evaluateWithin depth expression overrides)
      (e'.evaluateWithin depth expression overrides') := by
  have hprepare : Json.Rearranged (prepare (e.envWith overrides) expression)
      (prepare (e'.envWith overrides') expression) := by
    unfold prepare
    rw [henv.expandsShorthand_eq, henv.preprocess_eq]
    exact .refl _
  obtain ⟨houtcome, hafter⟩ := eval_rearranged henv depth hprepare
    ⟨[], e.cacheWith overrides, e.history⟩ ⟨[], e'.cacheWith overrides', e'.history⟩
    ⟨.nil, hcache, hhistory⟩
  exact ⟨houtcome, hafter.history, hafter.cache⟩

section Definitions

variable (e : Engine) (overrides : Options) (f : String) {definition definition' : Json}

/-- A fragment that comes with an evaluation. -/
theorem envWith_fragment_rearranged
    (h : Json.Rearranged (FragmentDefinition.ofJson definition).template
      (FragmentDefinition.ofJson definition').template) :
    Env.Rearranged (e.envWith (overrides.withFragment f definition))
      (e.envWith (overrides.withFragment f definition')) :=
  @Env.Rearranged.of_withFragment
    { e.options.merge overrides with fragments := overrides.fragments } _ f _ _ h

/-- A fragment of an engine, unless the evaluation brings fragments of its own. -/
theorem fragment_envWith_rearranged
    (h : Json.Rearranged (FragmentDefinition.ofJson definition).template
      (FragmentDefinition.ofJson definition').template) :
    Env.Rearranged ({ e with options := e.options.withFragment f definition }.envWith overrides)
      ({ e with options := e.options.withFragment f definition' }.envWith overrides) := by
  cases hfragments : overrides.fragments with
  | none =>
      have hmerge : ∀ definition, (e.options.withFragment f definition).merge overrides =
          (e.options.merge overrides).withFragment f definition := by
        intro definition
        simp only [Options.merge, Options.withFragment, hfragments]
        cases e.options.fragments <;> rfl
      unfold envWith
      simp only [hmerge]
      exact .of_withFragment _ f h
  | some fragments =>
      have hmerge : ∀ definition, (e.options.withFragment f definition).merge overrides =
          e.options.merge overrides := by
        intro definition
        simp only [Options.merge, Options.withFragment, hfragments]
        cases e.options.fragments <;> rfl
      unfold envWith
      simp only [hmerge]
      exact .refl _

end Definitions

/-- **Metadata take no part in evaluation.**  Let a fragment be defined as a template, or as the
template with metadata put in at some position, whatever they are; let either at most one entry be
behind them, or let the template be an operator node and no two of the entries behind them be
aliases of the same parameter of any operator.  Then every expression comes to the same outcome,
asks the host the same and leaves the same cache, whatever the other options are, and whether the
fragment is one of the engine or comes with the evaluation. -/
theorem metadata_take_no_part {template : Dict Json}
    (noMetadata : Dict.hasKey template FragmentDefinition.metadataKey = false)
    (hnodup : Dict.KeysNodup template) (m : Json) {i : Nat}
    (h : template.length ≤ i + 1 ∨ Dict.hasKey template Key.operator = true ∧
      ∀ k : OperatorKind, k.schema.SpelledOnce (template.drop i))
    (f : String) (e : Engine) (overrides : Options) (depth : Nat) (expression : Json) :
    let annotated : Json := .object (template.insertIdx i (FragmentDefinition.metadataKey, m))
    let ofEngine := fun definition =>
      { e with options := e.options.withFragment f definition }.evaluateWithin depth expression
        overrides
    let ofCall := fun definition =>
      e.evaluateWithin depth expression (overrides.withFragment f definition)
    SameRun (ofEngine (.object template)) (ofEngine annotated) ∧
      SameRun (ofCall (.object template)) (ofCall annotated) := by
  intro annotated ofEngine ofCall
  have hrearranged := FragmentDefinition.template_insertIdx noMetadata hnodup m h
  exact ⟨evaluateWithin_rearranged (fragment_envWith_rearranged e overrides f hrearranged) rfl rfl
      depth expression,
    evaluateWithin_rearranged (envWith_fragment_rearranged e overrides f hrearranged) rfl rfl depth
      expression⟩

/-- What a node comes to that names a fragment and nothing else, if the template gives its operator
the full name. -/
theorem evaluate_fragment {definition : Json} {template : Dict Json} {k : OperatorKind}
    (htemplate : (FragmentDefinition.ofJson definition).template = .object template)
    (hnodup : Dict.KeysNodup template) (noFragment : Dict.hasKey template Key.fragment = false)
    (hk : Dict.get? template Key.operator = some (.string k.name)) (depth : Nat) :
    let e := Engine.new (Options.empty.withFragment "f" definition)
    let env := e.envWith Options.empty
    (e.evaluateWithin (depth + 2) (.object [("fragment", .string "f")]) Options.empty).1 =
      (Run.withFrame (Frame.ofNode template)
        (Evaluation.runOperator env (eval env depth) k template) ⟨[], e.cache, []⟩).1 := by
  intro e env
  have operator : Dict.hasKey template Key.operator = true := by
    rw [Dict.hasKey, hk]
    rfl
  have hexpands : Evaluation.Expands env (eval env (depth + 1)) [("fragment", .string "f")]
      ⟨[], e.cache, []⟩ template none ⟨[], e.cache, []⟩ :=
    ⟨"f", _, definition, rfl, rfl, rfl, htemplate, operator⟩
  have hinstance : FragmentDefinition.instantiate [("fragment", .string "f")] template none =
      .object template := congrArg Json.object (Dict.ofPairs_eq_self hnodup)
  have hnode : Evaluation.operatorOf? env template = some k := Evaluation.operatorOf?_name hk
  have hrun : eval env (depth + 1) (.object template) = Run.withFrame (Frame.ofNode template)
      (Evaluation.runOperator env (eval env depth) k template) := by
    rw [eval, Evaluation.node_of_operatorOf? noFragment hnode]
  have heval := hexpands.eval_eq rfl
  rw [hinstance, hrun] at heval
  exact congrArg Prod.fst heval

/-- A fragment whose metadata stand before all entries of its template but two. -/
theorem metadata_of_conditional_take_no_part :
    let template : Dict Json := [("operator", .string "CONDITIONAL"), ("condition", .bool false),
      ("ifTrue", .string "yes"), ("ifNot", .string "no")]
    let run := fun definition =>
      (Engine.new (Options.empty.withFragment "f" definition)).evaluateWithin 4
        (.object [("fragment", .string "f")]) Options.empty
    let annotated : Json :=
      .object (template.insertIdx 2 ("metadata", .object [("description", .string "d")]))
    (run (.object template)).1.map (·.map Json.toText) = some (.ok "no") ∧
      SameRun (run (.object template)) (run annotated) := by
  have once : ∀ k : OperatorKind,
      k.schema.SpelledOnce [("ifTrue", .string "yes"), ("ifNot", .string "no")] := by
    intro k
    cases k <;> decide +kernel
  intro template run annotated
  have hvalue : (run (.object template)).1.map (·.map Json.toText) = some (.ok "no") := by
    have hrun : run (.object template) =
        (Engine.new (Options.empty.withFragment "f" (.object template))).evaluateWithin 4
          (.object [("fragment", .string "f")]) Options.empty := rfl
    rw [hrun, evaluate_fragment (k := .conditional) rfl (by decide) rfl rfl 2]
    rfl
  exact ⟨hvalue, (@metadata_take_no_part template rfl (by decide) _ 2 (.inr ⟨rfl, once⟩) "f"
    (Engine.new Options.empty) Options.empty 4 _).1⟩

/-- An alias that passes another one of the same parameter, into the place of the metadata. -/
theorem metadata_let_an_alias_pass :
    let template : Dict Json := [("operator", .string "CONDITIONAL"), ("condition", .bool false),
      ("ifTrue", .string "yes"), ("ifFalse", .string "a"), ("ifNot", .string "b")]
    let value := fun definition =>
      ((Engine.new (Options.empty.withFragment "f" definition)).evaluateWithin 4
        (.object [("fragment", .string "f")]) Options.empty).1.map (·.map Json.toText)
    Dict.hasKey template FragmentDefinition.metadataKey = false ∧
      value (.object template) = some (.ok "a") ∧
      value (.object (template.insertIdx 0 ("metadata", .object []))) = some (.ok "b") := by
  intro template value
  have hplain : value (.object template) = some (.ok "a") := by
    dsimp only [value]
    rw [evaluate_fragment (k := .conditional) rfl (by decide) rfl rfl 2]
    rfl
  have hannotated : value (.object (template.insertIdx 0 ("metadata", .object []))) =
      some (.ok "b") := by
    dsimp only [value]
    rw [evaluate_fragment (k := .conditional) rfl (by decide) rfl rfl 2]
    rfl
  exact ⟨rfl, hplain, hannotated⟩

end Engine

end JsonExpr
