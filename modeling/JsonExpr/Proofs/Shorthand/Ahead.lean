import JsonExpr.Proofs.Evaluation.Graded
import JsonExpr.Proofs.Session

/-!
# Shorthand expanded ahead of time

An expression is expanded once, before it is evaluated, and the template of a fragment each time a
node uses it.  Nothing is lost if both are expanded beforehand and shorthand is then left alone: the
templates meet at every fragment node that evaluation reaches, however deep fragments lead to
fragments, and apart from the templates no rule looks at the fragments or at the switch.

The metadata of a definition go with its expansion, so an expanded template that has an entry
`metadata` of its own would lose it when it is taken for a definition.

Main definitions:

* `JsonExpr.Env.SameRules` — environments that differ in what fragment nodes stand for;
* `JsonExpr.Env.expansion` — the expanded template of a definition;
* `JsonExpr.Options.withExpansions` — options with fragments that are expanded already;
* `JsonExpr.Env.ahead` — an environment with all its fragments expanded;
* `JsonExpr.Env.TemplatesSurvive` — no expanded template is taken for one with metadata.

Main results:

* `JsonExpr.Evaluation.node_of_sameRules` — apart from fragment nodes no rule looks at fragments;
* `JsonExpr.Evaluation.templateOf_ahead` — the template of a definition is its expansion;
* `JsonExpr.Evaluation.node_ahead`, `JsonExpr.eval_ahead` — one node, and evaluation to any depth;
* `JsonExpr.Engine.expanding_ahead_of_time` — **an engine does the same with shorthand that is
  expanded ahead of time**.
-/

set_option autoImplicit false

namespace JsonExpr

/-! ### All rules but one -/

/-- Environments in which all rules are the same but that for fragment nodes. -/
structure Env.SameRules (env env' : Env) : Prop where
  registry : env'.registry = env.registry
  operators : env'.options.OperatorsAgree env.options
  showsErrors : env'.options.showsErrors = env.options.showsErrors
  readsStrings : env'.options.readsStrings = env.options.readsStrings
  entersObjects : env'.options.entersObjects = env.options.entersObjects

namespace Evaluation

variable {env env' : Env} {ev : Evaluator Failure}

theorem fallbackOr_of_sameRules (h : Env.SameRules env env') :
    fallbackOr env' = fallbackOr env := by
  funext ev fallback failure
  unfold fallbackOr
  rw [h.showsErrors]

theorem operatorNode_of_sameRules (h : Env.SameRules env env') (node : Dict Json) :
    operatorNode env' ev node = operatorNode env ev node := by
  have hfallbackOr := fallbackOr_of_sameRules h
  have hcompute : compute env' = compute env := compute_of_operatorsAgree h.operators
  have hconvert : convert env' = convert env := by
    funext ev k node fallback result
    unfold convert
    rw [hfallbackOr]
  have hrun : runOperator env' = runOperator env := by
    funext ev k node
    unfold runOperator apply computeOr
    rw [hfallbackOr, hcompute, hconvert]
  unfold operatorNode operatorBody operatorOf?
  rw [hfallbackOr, hrun, h.registry]

/-- The rules for a node are the same if that for fragment nodes is, where it applies. -/
theorem node_of_sameRules (h : Env.SameRules env env') {v : Json}
    (hfragment : ∀ fields, classify v = .fragment fields →
      fragmentNode env' ev fields = fragmentNode env ev fields) :
    node env' ev v = node env ev v := by
  have hkind : byKind env' ev v = byKind env ev v := by
    unfold byKind
    split
    · rfl
    · cases hv : classify v with
      | fragment fields => exact hfragment fields hv
      | operator fields => exact operatorNode_of_sameRules h fields
      | leaf =>
          dsimp only
          unfold leaf
          rw [h.entersObjects]
  unfold node
  rw [hkind, h.readsStrings]

end Evaluation

/-! ### Fragments that are expanded already -/

/-- The names that shorthand may use. -/
def Env.shorthandNames (env : Env) : Shorthand.Names := ⟨env.registry, env.options.fragments⟩

/-- The template of a definition, without metadata and with shorthand expanded. -/
def Env.expansion (env : Env) (definition : Json) : Json :=
  Shorthand.preprocess env.shorthandNames (FragmentDefinition.ofJson definition).template

/-- The fragments under the same names, each as its expanded template. -/
def Env.expansions (env : Env) : Option (Dict Json) :=
  env.options.fragments.map (Dict.mapValues env.expansion)

/-- Options that leave shorthand alone, with the given fragments. -/
def Options.withExpansions (o : Options) (fragments : Option (Dict Json)) : Options :=
  { o with useShorthand := some false, fragments := fragments }

/-- The environment in which shorthand is left alone and all fragments are expanded. -/
def Env.ahead (env : Env) : Env := ⟨env.options.withExpansions env.expansions, env.registry⟩

/-- No expanded template has an entry that would be taken for metadata. -/
def Env.TemplatesSurvive (env : Env) : Prop :=
  ∀ fragments, env.options.fragments = some fragments → ∀ entry ∈ fragments,
    (env.expansion entry.2).field? FragmentDefinition.metadataKey = none

theorem Env.expansions_of_some {env : Env} {fragments : Dict Json}
    (h : env.options.fragments = some fragments) :
    env.expansions = some (Dict.mapValues env.expansion fragments) := by
  rw [Env.expansions, h, Option.map_some]

/-- A definition without metadata is its own template. -/
theorem FragmentDefinition.template_ofJson {v : Json}
    (h : v.field? FragmentDefinition.metadataKey = none) :
    (FragmentDefinition.ofJson v).template = v := by
  cases v with
  | object fields =>
      have hget : Dict.get? fields FragmentDefinition.metadataKey = none := h
      rw [FragmentDefinition.ofJson, hget]
  | _ => rfl

/-! ### Evaluation -/

namespace Evaluation

variable {env : Env} {ev : Evaluator Failure}

/-- Where shorthand is expanded, the template of a definition is its expansion; where it is expanded
already, the same. -/
theorem templateOf_ahead (expands : env.options.expandsShorthand = true) {definition : Json}
    (h : (env.expansion definition).field? FragmentDefinition.metadataKey = none) :
    templateOf env.ahead (env.expansion definition) = templateOf env definition := by
  have hnow : templateOf env definition = env.expansion definition := by
    unfold templateOf
    rw [if_pos expands]
    rfl
  have hthen : templateOf env.ahead (env.expansion definition) =
      (FragmentDefinition.ofJson (env.expansion definition)).template := rfl
  rw [hthen, hnow, FragmentDefinition.template_ofJson h]

theorem fragmentNode_ahead (expands : env.options.expandsShorthand = true)
    (survive : env.TemplatesSurvive) (node : Dict Json) :
    fragmentNode env.ahead ev node = fragmentNode env ev node := by
  unfold fragmentNode
  congr 1
  funext name
  cases hfragments : env.options.fragments with
  | none =>
      have hahead : env.ahead.options.fragments = none := by
        show env.expansions = none
        rw [Env.expansions, hfragments, Option.map_none]
      rw [hahead]
      rfl
  | some fragments =>
      have hahead : env.ahead.options.fragments = some (Dict.mapValues env.expansion fragments) :=
        Env.expansions_of_some hfragments
      rw [hahead, Option.bind_some, Option.bind_some, Dict.get?_mapValues]
      cases hget : Dict.get? fragments name with
      | none => rfl
      | some definition =>
          have hsurvives := survive fragments hfragments _ (Dict.mem_of_get? hget)
          have htemplate := templateOf_ahead expands hsurvives
          simp only [Option.map_some, htemplate]

/-- The rules for one node are the same where its fragments are expanded already. -/
theorem node_ahead (expands : env.options.expandsShorthand = true)
    (survive : env.TemplatesSurvive) : node env.ahead ev = node env ev := by
  have hrules : Env.SameRules env env.ahead :=
    ⟨rfl, ⟨rfl, rfl, rfl, rfl, rfl, rfl, rfl, rfl, rfl⟩, rfl, rfl, rfl⟩
  funext v
  exact node_of_sameRules hrules fun fields _ => fragmentNode_ahead expands survive fields

end Evaluation

/-- Evaluation to any depth is the same where its fragments are expanded already. -/
theorem eval_ahead {env : Env} (expands : env.options.expandsShorthand = true)
    (survive : env.TemplatesSurvive) (depth : Nat) : eval env.ahead depth = eval env depth := by
  induction depth with
  | zero => rfl
  | succ depth ih => rw [eval, ih, Evaluation.node_ahead expands survive, ← eval]

/-! ### Engines -/

namespace Engine

/-- Two engines with the same cache and history do the same with an expression, if the one expands
shorthand for it and the other finds everything expanded. -/
theorem evaluateWithin_ahead {e e' : Engine} {overrides overrides' : Options}
    (henv : e'.envWith overrides' = (e.envWith overrides).ahead)
    (hcache : e'.cacheWith overrides' = e.cacheWith overrides) (hhistory : e'.history = e.history)
    (expands : (e.envWith overrides).options.expandsShorthand = true)
    (survive : (e.envWith overrides).TemplatesSurvive) (depth : Nat) (expression : Json) :
    let given := e.evaluateWithin depth expression overrides
    let ahead := e'.evaluateWithin depth
      (Shorthand.preprocess (e.envWith overrides).shorthandNames expression) overrides'
    ahead.1 = given.1 ∧ ahead.2.cache = given.2.cache ∧ ahead.2.history = given.2.history := by
  intro given ahead
  have hgiven : prepare (e.envWith overrides) expression =
      Shorthand.preprocess (e.envWith overrides).shorthandNames expression := if_pos expands
  have hahead : ∀ v, prepare (e.envWith overrides).ahead v = v := fun _ => rfl
  have hrun := eval_ahead expands survive depth
  have hsame : eval (e'.envWith overrides') depth
      (prepare (e'.envWith overrides')
        (Shorthand.preprocess (e.envWith overrides).shorthandNames expression))
        ⟨[], e'.cacheWith overrides', e'.history⟩ =
      eval (e.envWith overrides) depth (prepare (e.envWith overrides) expression)
        ⟨[], e.cacheWith overrides, e.history⟩ := by
    rw [henv, hahead, hrun, hgiven, hcache, hhistory]
  simp only [ahead, given, evaluateWithin, hsame, and_self]

/-- Overrides that leave shorthand alone and bring the expanded fragments put an engine ahead. -/
theorem envWith_withExpansions (e : Engine) (overrides : Options) :
    e.envWith (overrides.withExpansions (e.envWith overrides).expansions) =
      (e.envWith overrides).ahead := by
  -- Without fragments in either layer there are none to bring.
  have hfragments : Options.layer e.options.fragments (e.envWith overrides).expansions =
      (e.envWith overrides).expansions := by
    cases hmap : (e.envWith overrides).expansions with
    | some _ => rfl
    | none =>
        have hmerged : Options.layer e.options.fragments overrides.fragments = none :=
          Option.map_eq_none_iff.mp hmap
        exact (Option.or_eq_none_iff.mp hmerged).2
  have hoptions : e.options.merge (overrides.withExpansions (e.envWith overrides).expansions) =
      (e.options.merge overrides).withExpansions (e.envWith overrides).expansions := by
    simp only [Options.merge, Options.withExpansions, hfragments]
    rfl
  unfold envWith at hoptions ⊢
  rw [hoptions]
  rfl

/-- **Expanding shorthand on the fly equals expanding it ahead of time.**  In an environment that
expands shorthand, let every fragment be replaced by its template, without metadata and with
shorthand expanded, and let no such template have an entry `metadata`.  Then an engine does the same
with an expression as it does with the expanded expression where the fragments are those and
shorthand is left alone: the same outcome, the same cache and the same questions to the host.  This
holds if the fragments come with one evaluation, whatever options the engine has, and if they are
options of a new engine. -/
theorem expanding_ahead_of_time :
    (∀ (e : Engine) (overrides : Options),
      (e.options.merge overrides).expandsShorthand = true →
      (e.envWith overrides).TemplatesSurvive → ∀ depth expression,
        e.evaluateWithin depth
            (Shorthand.preprocess (e.envWith overrides).shorthandNames expression)
            (overrides.withExpansions (e.envWith overrides).expansions) =
          e.evaluateWithin depth expression overrides) ∧
    ∀ o : Options, o.expandsShorthand = true → (envOf o).TemplatesSurvive →
      ∀ depth expression,
        let given := (Engine.new o).evaluateWithin depth expression Options.empty
        let ahead := (Engine.new (o.withExpansions (envOf o).expansions)
          ).evaluateWithin depth ((Engine.new o).preprocess expression) Options.empty
        ahead.1 = given.1 ∧ ahead.2.cache = given.2.cache ∧
          ahead.2.history = given.2.history := by
  refine ⟨fun e overrides expands survive depth expression => ?_,
    fun o expands survive depth expression => ?_⟩
  · obtain ⟨houtcome, hcache, hhistory⟩ := evaluateWithin_ahead (envWith_withExpansions e overrides)
      rfl rfl expands survive depth expression
    have hengine : ∀ {e₁ e₂ : Engine}, e₁.cache = e₂.cache → e₁.history = e₂.history →
        ({ e with cache := e₁.cache, history := e₁.history } : Engine) =
          { e with cache := e₂.cache, history := e₂.history } :=
      fun hc hh => by rw [hc, hh]
    exact Prod.ext houtcome (hengine hcache hhistory)
  · have henv : (Engine.new (o.withExpansions (envOf o).expansions)).envWith Options.empty =
        ((Engine.new o).envWith Options.empty).ahead := by
      rw [envWith_new, envWith_new]
      rfl
    rw [← envWith_new o] at survive
    have hsame := evaluateWithin_ahead henv rfl rfl (by rwa [envWith_new]) survive depth expression
    rwa [envWith_new] at hsame

/-- Shorthand around a fragment whose template is shorthand once its metadata are taken away. -/
theorem sum_is_expanded_ahead :
    let template : Json := .object
      [("metadata", .object []), ("$plus", .array [.string "a", .string "b"])]
    let o : Options := { useShorthand := some true, fragments := some [("sum", template)] }
    let plus : List Json → Json := fun children =>
      .object [("operator", .string "PLUS"), ("children", .array children)]
    let use : Json := .object [("fragment", .string "sum")]
    let given := (Engine.new o).evaluateWithin 8
      (.object [("$plus", .array [use, .string "c"])]) Options.empty
    let ahead := (Engine.new (o.withExpansions (some
        [("sum", plus [.string "a", .string "b"])]))).evaluateWithin 8
      (plus [use, .string "c"]) Options.empty
    o.expandsShorthand = true ∧ (envOf o).TemplatesSurvive ∧
      ahead.1.map (·.map Json.toText) = some (.ok "abc") ∧ ahead.1 = given.1 ∧
      ahead.2.cache = given.2.cache ∧ ahead.2.history = given.2.history := by
  intro template o plus use given ahead
  have hexpansion : (envOf o).expansion template = plus [.string "a", .string "b"] := rfl
  have hfragments : (envOf o).options.fragments = some [("sum", template)] := rfl
  have hmapped : Dict.mapValues (envOf o).expansion [("sum", template)] =
      [("sum", (envOf o).expansion template)] := rfl
  have hexpansions :
      (envOf o).expansions = some [("sum", plus [.string "a", .string "b"])] := by
    rw [Env.expansions_of_some hfragments, hmapped, hexpansion]
  have hexpression : (Engine.new o).preprocess (.object [("$plus", .array [use, .string "c"])]) =
      plus [use, .string "c"] := rfl
  have survive : (envOf o).TemplatesSurvive := by
    intro fragments h entry hentry
    cases h
    cases List.mem_singleton.mp hentry
    rw [hexpansion]
    rfl
  have hsame := expanding_ahead_of_time.2 o rfl survive 8
    (.object [("$plus", .array [use, .string "c"])])
  rw [hexpansions, hexpression] at hsame
  have hvalue : ahead.1.map (·.map Json.toText) = some (.ok "abc") := by decide +kernel
  exact ⟨rfl, survive, hvalue, hsame⟩

end Engine

end JsonExpr
