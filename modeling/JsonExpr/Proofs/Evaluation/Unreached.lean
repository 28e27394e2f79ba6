import JsonExpr.Proofs.Evaluation.Fallback
import JsonExpr.Proofs.Evaluation.Lookup
import JsonExpr.Proofs.Evaluation.Unread

/-!
# Places that an evaluation does not reach

Two nodes that differ only at a place which the evaluation of the first does not reach evaluate
alike: with the same outcome, the same questions to the host and the same cache.  What stands there
in the second may fail, ask the host or never end.

A place is not reached if it goes to a property that the operator of the node does not read, if it
lies in the expression of a binding that is never looked up inside the node, or if it goes to such a
place in the node that a fragment node stands for.  Whatever looks at the node on the way there
looks at its keys and at other places: the properties of the two nodes have the same keys, the same
ones are missing, and their children, where they are written out, come in the same number.

Main definitions:

* `JsonExpr.Run.AlikeAt` — two computations that end alike in a world, with related values;
* `JsonExpr.Evaluation.Expands` — the template and the parameters that a fragment node evaluates;
* `JsonExpr.Unreached` — a place that the evaluation of a node does not reach.

Main results:

* `JsonExpr.Evaluation.gather_alikeAt` — nodes that differ at a spot gather properties that do;
* `JsonExpr.eval_eq_of_unreached` — **what is not reached has no influence**.
-/

set_option autoImplicit false

namespace JsonExpr

/-! ### Ending alike -/

/-- Two computations that end alike in a world: without an end, with the same failure, or with
related values, and in the same world. -/
def Run.AlikeAt {ε α β : Type} (S : α → β → Prop) (m : Run ε α) (m' : Run ε β) (w : World) : Prop :=
  ∃ w₁, (m w = (none, w₁) ∧ m' w = (none, w₁)) ∨
    ∃ outcome outcome', m w = (some outcome, w₁) ∧ m' w = (some outcome', w₁) ∧
      Alike S outcome outcome'

namespace Run.AlikeAt

variable {ε α β γ : Type} {S : α → β → Prop} {w : World}

theorem refl {S : α → α → Prop} (h : ∀ a, S a a) (m : Run ε α) (w : World) : AlikeAt S m m w := by
  rcases hm : m w with ⟨_ | e | a, w₁⟩
  · exact ⟨w₁, .inl ⟨hm, hm⟩⟩
  · exact ⟨w₁, .inr ⟨_, _, hm, hm, .error e⟩⟩
  · exact ⟨w₁, .inr ⟨_, _, hm, hm, .ok (h a)⟩⟩

theorem ofExcept {outcome : Except ε α} {outcome' : Except ε β} (h : Alike S outcome outcome')
    (w : World) : AlikeAt S (Run.ofExcept outcome) (Run.ofExcept outcome') w :=
  ⟨w, .inr ⟨outcome, outcome', rfl, rfl, h⟩⟩

/-- Two sequences with the same first part end alike if they do where that part leads. -/
theorem bind {m : Run ε γ} {f : γ → Run ε α} {f' : γ → Run ε β}
    (h : ∀ c w₁, m w = (some (.ok c), w₁) → AlikeAt S (f c) (f' c) w₁) :
    AlikeAt S (m >>= f) (m >>= f') w := by
  rcases hm : m w with ⟨_ | e | c, w₁⟩
  · exact ⟨w₁, .inl ⟨Run.bind_of_exhausted hm, Run.bind_of_exhausted hm⟩⟩
  · exact ⟨w₁, .inr ⟨_, _, Run.bind_of_error hm, Run.bind_of_error hm, .error e⟩⟩
  · obtain ⟨w₂, h⟩ := h c w₁ hm
    refine ⟨w₂, ?_⟩
    rw [Run.bind_of_ok hm, Run.bind_of_ok hm]
    exact h

/-- What follows two computations that end alike is the same if it is for related values. -/
theorem bind_eq {m : Run ε α} {m' : Run ε β} {f : α → Run ε γ} {f' : β → Run ε γ}
    (hm : AlikeAt S m m' w)
    (hf : ∀ a b w₁, m w = (some (.ok a), w₁) → S a b → f' b w₁ = f a w₁) :
    (m' >>= f') w = (m >>= f) w := by
  obtain ⟨w₁, ⟨h, h'⟩ | ⟨_, _, h, h', hout⟩⟩ := hm
  · rw [Run.bind_of_exhausted h, Run.bind_of_exhausted h']
  · cases hout with
    | error e => rw [Run.bind_of_error h, Run.bind_of_error h']
    | ok hab =>
        rw [Run.bind_of_ok h, Run.bind_of_ok h']
        exact hf _ _ w₁ h hab

end Run.AlikeAt

theorem Alike.mapError {ε ε' α β : Type} {S : α → β → Prop} {outcome : Except ε α}
    {outcome' : Except ε β} (h : Alike S outcome outcome') (f : ε → ε') :
    Alike S (outcome.mapError f) (outcome'.mapError f) := by
  cases h with
  | error e => exact .error (f e)
  | ok hab => exact .ok hab

namespace Evaluation

variable {env : Env} {ev : Evaluator Failure} {k : OperatorKind} {node node' : Dict Json}
  {name : String} {rest spot' : Spot} {w : World}

/-! ### Properties -/

/-- Nodes that differ at a spot gather properties that differ where the spot goes. -/
theorem gather_alikeAt (ev : Evaluator Failure) (h : Dict.AgreeOff name rest node node')
    (hplaced : Spot.placed? k (.key name :: rest) = some spot') (w : World) :
    ∃ name' rest', spot' = .key name' :: rest' ∧
      Run.AlikeAt (Dict.AgreeOff name' rest') (gather ev k node) (gather ev k node') w := by
  rcases (Spot.placed?_eq_some hplaced).2 with
    ⟨i, rest, name', rest', hspot, rfl⟩ | ⟨_, _, hspot, hreserved, -, rfl⟩
  -- The spot is under the children, and what is written outside them is the same.
  · cases hspot
    have hprops := ownProps_eq_of_reserved h (by decide) k.schema
    cases hget : Dict.get? node Key.children with
    | none =>
        refine ⟨name', rest', rfl, ?_⟩
        have hget' : Dict.get? node' Key.children = none := by
          rcases Dict.Related.get? h Key.children with ⟨-, h'⟩ | ⟨_, _, h', -, -⟩
          · exact h'
          · rw [hget] at h'
            cases h'
        unfold gather
        rw [hget, hget', hprops]
        exact .refl (Dict.AgreeOff.refl _ _) _ w
    | some children =>
        obtain ⟨children', hget', hagree⟩ := h.get?_of_some hget
        unfold gather
        rw [hget, hget', hprops]
        rcases hagree with rfl | ⟨before, a, b, after, rfl, rfl, hi, hab⟩
        · exact ⟨name', rest', rfl, .refl (Dict.AgreeOff.refl _ _) _ w⟩
        · obtain ⟨_, _, ⟨⟩, hplaced⟩ := placeChildren_agreeOff hplaced before after hi hab
            (ownProps k.schema node)
          exact ⟨name', rest', rfl, .ofExcept (hplaced.mapError _) w⟩
  -- The spot is in a property, so the children are the same, written out or computed.
  · cases hspot
    refine ⟨_, _, rfl, ?_⟩
    have hprops := ownProps_agreeOff h k.schema
    have hchildren : Dict.get? node' Key.children = Dict.get? node Key.children := by
      refine h.get?_eq ?_
      rintro rfl
      cases hreserved
    unfold gather
    rw [hchildren]
    cases Dict.get? node Key.children with
    | none => exact .ofExcept (.ok hprops) w
    | some children =>
        exact .bind fun items w₁ _ =>
          .ofExcept ((placeChildren_agreeOff_of_props hprops k items).mapError _) w₁

/-! ### Operands -/

theorem operatorOf?_eq (hname : name ≠ Key.operator) (h : Dict.AgreeOff name rest node node') :
    operatorOf? env node' = operatorOf? env node := by
  rw [operatorOf?, h.get?_eq hname.symm, operatorOf?]

theorem conversionOf_eq (hname : name ≠ Key.outputType) (hname' : name ≠ Key.type)
    (h : Dict.AgreeOff name rest node node') : conversionOf node' = conversionOf node := by
  rw [conversionOf, h.get?_eq hname.symm, h.get?_eq hname'.symm, conversionOf]

theorem ofNode_eq (hname : isBindingName name = false) (h : Dict.AgreeOff name rest node node') :
    Frame.ofNode node' = Frame.ofNode node := by
  rw [Frame.ofNode, h.filterKeys_eq hname, Frame.ofNode]

/-- A node that asks for the same conversion, over properties with the same keys, comes to the same
if its operator does. -/
theorem apply_eq {fallback : Option Json} {props props' : Props}
    (hconversion : conversionOf node' = conversionOf node)
    (hkeys : ∀ key, Dict.hasKey props' key = Dict.hasKey props key)
    (hcompute : missing k props = [] →
      compute env (inside ev) k props' w = compute env (inside ev) k props w) :
    apply env ev k node' fallback props' w = apply env ev k node fallback props w := by
  have hmissing : missing k props' = missing k props := by
    simp only [missing, hkeys]
  unfold apply
  rw [hmissing]
  cases hm : missing k props with
  | cons name names => rfl
  | nil =>
      have hconvert : convert env ev k node' fallback = convert env ev k node fallback := by
        funext result
        rw [convert, hconversion, convert]
      rw [hconvert]
      refine Run.bind_congr_left (Run.bind_congr_left ?_)
      rw [Run.attempt_apply, Run.attempt_apply, hcompute hm]

/-- An operator node comes to the same whatever stands at a spot that goes to one which its operator
does not read. -/
theorem runOperator_eq_of_unread (h : Dict.AgreeOff name rest node node')
    (hplaced : Spot.placed? k (.key name :: rest) = some spot')
    (hunread : ∀ props w₁, gather ev k node w = (some (.ok props), w₁) → missing k props = [] →
      Branching.Unread env (inside ev) props w₁ k spot') :
    runOperator env ev k node' w = runOperator env ev k node w := by
  obtain ⟨-, -, hfallback, houtputType, htype⟩ := Spot.placed?_name hplaced
  have hfallback := h.get?_eq hfallback.symm
  obtain ⟨name', rest', rfl, w₁, hgather⟩ := gather_alikeAt ev h hplaced w
  unfold runOperator
  rcases hgather with ⟨hg, hg'⟩ | ⟨_, _, hg, hg', hout⟩
  · rw [Run.bind_of_exhausted (Run.attempt_of_exhausted hg),
      Run.bind_of_exhausted (Run.attempt_of_exhausted hg')]
  · rw [Run.bind_of_ok (Run.attempt_of_finished hg), Run.bind_of_ok (Run.attempt_of_finished hg')]
    cases hout with
    | error failure => rw [hfallback]
    | @ok props props' hprops =>
        -- The only operator with a fallback among its properties reads all of its operands.
        have hk : ∀ node : Dict Json, k = .objectProperties →
            Dict.hasKey node Key.children = false := by
          rintro node rfl
          cases (Spot.placed?_eq_some hplaced).1
        have hwithout : ∀ {node w w₁ props}, gather ev k node w = (some (.ok props), w₁) →
            withoutFallback props = props := fun hg => by
          rw [withoutFallback, hasKey_of_gather (hk _) hg]
          rfl
        have hown : fallbackOf node' props' = fallbackOf node props := by
          rw [fallbackOf, fallbackOf, Dict.hasKey_eq_false_iff.mp (hasKey_of_gather (hk _) hg),
            Dict.hasKey_eq_false_iff.mp (hasKey_of_gather (hk _) hg'), hfallback]
        dsimp only
        rw [hwithout hg, hwithout hg', hown]
        exact apply_eq (conversionOf_eq houtputType htype h) hprops.hasKey_eq fun hmissing =>
          compute_eq_of_unread (hunread props w₁ hg hmissing) (Json.AgreeOff.object hprops)

/-- An operator node whose operator does not read what differs. -/
theorem operatorBody_eq_of_unread (h : Dict.AgreeOff name rest node node')
    (hk : operatorOf? env node = some k)
    (hplaced : Spot.placed? k (.key name :: rest) = some spot')
    (hunread : ∀ props w₁, gather ev k node w = (some (.ok props), w₁) → missing k props = [] →
      Branching.Unread env (inside ev) props w₁ k spot') :
    operatorBody env ev node' w = operatorBody env ev node w := by
  obtain ⟨-, hoperator, -⟩ := Spot.placed?_name hplaced
  unfold operatorBody
  rw [operatorOf?_eq hoperator h, hk]
  exact runOperator_eq_of_unread h hplaced hunread

/-! ### Bindings -/

/-- The bindings of a node are nothing to its operator. -/
theorem operatorBody_eq_of_binding (h : Dict.AgreeOff name rest node node')
    (hname : isBindingName name = true) : operatorBody env ev node' = operatorBody env ev node := by
  -- An operator reads its node at keys that are no names of bindings.
  have hget : ∀ key, isBindingName key = false → Dict.get? node' key = Dict.get? node key := by
    refine fun key hkey => h.get?_eq ?_
    rintro rfl
    rw [hname] at hkey
    cases hkey
  have hreserved : isReserved name = true := by simp [isReserved, hname]
  have hgather : ∀ k, gather ev k node' = gather ev k node := by
    intro k
    rw [gather, ownProps_eq_of_reserved h hreserved, hget _ (by decide), gather]
  have happly : ∀ k fallback props,
      apply env ev k node' fallback props = apply env ev k node fallback props := by
    intro k fallback props
    funext w
    refine apply_eq ?_ (fun _ => rfl) fun _ => rfl
    rw [conversionOf, hget _ (by decide), hget _ (by decide), conversionOf]
  have hrun : ∀ k, runOperator env ev k node' = runOperator env ev k node := by
    intro k
    simp only [runOperator, hgather, fallbackOf, hget Key.fallback (by decide), happly]
  unfold operatorBody
  rw [operatorOf?, shownName, hget _ (by decide), hget _ (by decide), operatorOf?, shownName]
  simp only [hrun]

/-- The frames of two nodes that differ in the expression of a binding. -/
theorem ofNode_agreeOff (h : Dict.AgreeOff name rest node node') :
    Frame.AgreeOff name (Frame.ofNode node) (Frame.ofNode node') := by
  refine Dict.Related.mapValues (Dict.Related.filterKeys h _) fun key a b hab => ?_
  rcases hab with rfl | ⟨rfl, -⟩
  · exact .inl rfl
  · exact .inr ⟨rfl, rfl, rfl⟩

/-- A node has evaluated none of its bindings when it starts. -/
theorem lookups_ofNode (name : String) (node : Dict Json) :
    Frame.lookups name (Frame.ofNode node) = 0 := by
  rw [Frame.lookups, Frame.ofNode, Dict.get?_mapValues]
  cases Dict.get? (Dict.filterKeys isBindingName node) name <;> rfl

/-- An operator node that never looks up the binding in which it differs. -/
theorem operatorNode_eq_of_overlooked (h : Dict.AgreeOff name rest node node')
    (hname : isBindingName name = true) {depth : Nat}
    (hnever : Scope.lookups w.scope.length name
      (operatorBody env (eval env depth) node (w.enter (Frame.ofNode node))).2.scope = 0) :
    operatorNode env (eval env depth) node' w = operatorNode env (eval env depth) node w := by
  have hbody : (operatorBody env (eval env depth) node).Overlooks w.scope.length name :=
    @Run.Compositional.operatorBody env _ (eval env depth) (eval env depth)
      (Run.Overlooks.congruence env _ _).toCompositional (eval_overlooks env _ _ depth) node
  unfold operatorNode
  rw [operatorBody_eq_of_binding h hname]
  exact Run.withFrame_eq_of_overlooks hbody (ofNode_agreeOff h) (lookups_ofNode name node) hnever

/-! ### Fragments -/

/-- The template and the parameters of the node that a fragment node stands for, and the world in
which that node is evaluated. -/
def Expands (env : Env) (ev : Evaluator Failure) (node : Dict Json) (w : World)
    (template : Dict Json) (parameters : Option Json) (w₁ : World) : Prop :=
  ∃ fragment w₀ definition, fragmentName ev node w = (some (.ok fragment), w₀) ∧
    (env.options.fragments.bind fun fragments => Dict.get? fragments fragment) = some definition ∧
    parametersOf ev node w₀ = (some (.ok parameters), w₁) ∧
    templateOf env definition = .object template ∧ Dict.hasKey template Key.operator = true

/-- A fragment node comes to what its node does. -/
theorem Expands.eval_eq {depth : Nat} {template : Dict Json} {parameters : Option Json} {w₁ : World}
    (h : Expands env (eval env depth) node w template parameters w₁)
    (hfragment : Dict.hasKey node Key.fragment = true) :
    eval env (depth + 1) (.object node) w =
      eval env depth (FragmentDefinition.instantiate node template parameters) w₁ := by
  obtain ⟨fragment, w₀, definition, hname, hdefinition, hparameters, htemplate, operator⟩ := h
  rw [eval, node_fragment _ _ hfragment, fragmentNode, Run.bind_of_ok hname, hdefinition]
  dsimp only
  rw [Run.bind_of_ok hparameters, htemplate]
  dsimp only
  rw [if_pos operator]

/-- Fragment nodes that name the same fragment come to the same if the nodes do that they stand
for. -/
theorem fragmentNode_eq {S : Option Json → Option Json → Prop}
    (hfragment : Dict.get? node' Key.fragment = Dict.get? node Key.fragment)
    (hfallback : Dict.get? node' Key.fallback = Dict.get? node Key.fallback)
    (hparameters : ∀ w₀, Run.AlikeAt S (parametersOf ev node) (parametersOf ev node') w₀)
    (h : ∀ template parameters parameters' w₁, Expands env ev node w template parameters w₁ →
      S parameters parameters' →
      ev (FragmentDefinition.instantiate node' template parameters') w₁ =
        ev (FragmentDefinition.instantiate node template parameters) w₁) :
    fragmentNode env ev node' w = fragmentNode env ev node w := by
  unfold fragmentNode
  rw [hfallback, fragmentName, hfragment, ← fragmentName]
  refine Run.bind_congr fun fragment w₀ hname => ?_
  cases hdefinition : env.options.fragments.bind fun fragments => Dict.get? fragments fragment with
  | none => rfl
  | some definition =>
      refine Run.AlikeAt.bind_eq (hparameters w₀) fun parameters parameters' w₁ hp hs => ?_
      cases htemplate : templateOf env definition with
      | object template =>
          by_cases hoperator : Dict.hasKey template Key.operator = true
          · simp only [hoperator, if_true]
            exact h template parameters parameters' w₁
              ⟨fragment, w₀, definition, hname, hdefinition, hp, htemplate, hoperator⟩ hs
          · simp only [hoperator]
            rfl
      | _ => rfl

/-- What differs in a fragment node, outside its parameters, differs in the node that it stands
for. -/
theorem instantiate_agreeOff (h : Dict.AgreeOff name rest node node') (template : Dict Json)
    (parameters : Option Json) :
    Json.AgreeOff (.key name :: rest) (FragmentDefinition.instantiate node template parameters)
      (FragmentDefinition.instantiate node' template parameters) :=
  Json.AgreeOff.object (Dict.Related.extend
    (Dict.Related.extend (Dict.Related.filterKeys h _) (Dict.AgreeOff.refl _ _ _))
    (Dict.AgreeOff.refl _ _ _))

/-- What differs in a parameter does so, too. -/
theorem instantiate_agreeOff_of_parameter {spot : Spot} {p p' : Json}
    (h : Dict.AgreeOff Key.parameters spot node node') (template : Dict Json)
    (hp : Json.AgreeOff (.key name :: rest) p p') :
    Json.AgreeOff (.key name :: rest) (FragmentDefinition.instantiate node template (some p))
      (FragmentDefinition.instantiate node' template (some p')) := by
  have hown : FragmentDefinition.ownFields node' = FragmentDefinition.ownFields node :=
    h.filterKeys_eq (by decide)
  unfold FragmentDefinition.instantiate
  rw [hown]
  rcases hp with rfl | ⟨d, d', rfl, rfl, hd⟩
  · exact .refl _ _
  · exact .object (Dict.Related.extend (Dict.AgreeOff.refl _ _ _) hd)

theorem isNode_eq {v v' : Json} (h : Json.AgreeOff (.key name :: rest) v v') :
    isNode v' = isNode v := by
  rcases h with rfl | ⟨d, d', rfl, rfl, hd⟩
  · rfl
  · have hoperator := hd.hasKey_eq Key.operator
    have hfragment := hd.hasKey_eq Key.fragment
    unfold Dict.hasKey at hoperator hfragment
    simp only [isNode, isOperatorNode, isFragmentNode, Json.field?, hoperator, hfragment]

end Evaluation

/-! ### Places that are not reached -/

/-- A place in a value that its evaluation, to a given depth and from a given world, does not
reach. -/
inductive Unreached (env : Env) : Nat → Json → World → Spot → Prop where
  /-- Nothing is reached without depth. -/
  | exhausted (v : Json) (w : World) (spot : Spot) : Unreached env 0 v w spot
  /-- An operand that the operator of the node does not read. -/
  | operand {depth : Nat} {node : Dict Json} {w : World} {k : OperatorKind} {spot spot' : Spot}
      (hfragment : Dict.hasKey node Key.fragment = false)
      (hoperator : Dict.hasKey node Key.operator = true)
      (hk : Evaluation.operatorOf? env node = some k) (hplaced : Spot.placed? k spot = some spot')
      (h : ∀ props w₁, Evaluation.gather (eval env depth) k node (w.enter (Frame.ofNode node)) =
        (some (.ok props), w₁) → Evaluation.missing k props = [] →
        Branching.Unread env (Evaluation.inside (eval env depth)) props w₁ k spot') :
      Unreached env (depth + 1) (.object node) w spot
  /-- The expression of a binding that is not looked up inside the node. -/
  | binding {depth : Nat} {node : Dict Json} {w : World} {name : String} {rest : Spot}
      (hfragment : Dict.hasKey node Key.fragment = false)
      (hoperator : Dict.hasKey node Key.operator = true) (hname : isBindingName name = true)
      (h : Scope.lookups w.scope.length name (Evaluation.operatorBody env (eval env depth) node
        (w.enter (Frame.ofNode node))).2.scope = 0) :
      Unreached env (depth + 1) (.object node) w (.key name :: rest)
  /-- A place outside the parameters of a fragment node that is not reached in the node it stands
  for. -/
  | fragment {depth : Nat} {node : Dict Json} {w : World} {name : String} {rest : Spot}
      (hfragment : Dict.hasKey node Key.fragment = true)
      (hname : name ≠ Key.fragment ∧ name ≠ Key.parameters ∧ name ≠ Key.fallback)
      (h : ∀ template parameters w₁,
        Evaluation.Expands env (eval env depth) node w template parameters w₁ →
        Unreached env depth (FragmentDefinition.instantiate node template parameters) w₁
          (.key name :: rest)) :
      Unreached env (depth + 1) (.object node) w (.key name :: rest)
  /-- A place in the parameters of a fragment node, written out, that is not reached in the node it
  stands for. -/
  | parameter {depth : Nat} {node : Dict Json} {w : World} {p : Json} {name : String} {rest : Spot}
      (hfragment : Dict.hasKey node Key.fragment = true)
      (hp : Dict.get? node Key.parameters = some p) (hliteral : isNode p = false)
      (h : ∀ template w₁,
        Evaluation.Expands env (eval env depth) node w template (some p) w₁ →
        Unreached env depth (FragmentDefinition.instantiate node template (some p)) w₁
          (.key name :: rest)) :
      Unreached env (depth + 1) (.object node) w (.key Key.parameters :: .key name :: rest)

/-- **What is not reached has no influence.**  Two values that differ only at a place which the
evaluation of the first does not reach evaluate alike, to any depth and from any world: with the
same outcome and in the same world, and so with the same questions to the host and the same cache.
-/
theorem eval_eq_of_unreached {env : Env} {depth : Nat} {v v' : Json} {w : World} {spot : Spot}
    (h : Unreached env depth v w spot) (hv : Json.AgreeOff spot v v') :
    eval env depth v' w = eval env depth v w := by
  induction h generalizing v' with
  | exhausted _ _ _ => rfl
  | @operand depth node w k spot spot' hfragment hoperator hk hplaced h =>
      -- No binding differs, so both operators are applied in the same frame.
      obtain ⟨name, rest, rfl⟩ := Spot.exists_of_placed? hplaced
      obtain ⟨node', rfl, hnode⟩ := Dict.AgreeOff.of_object hv
      obtain ⟨hname, -⟩ := Spot.placed?_name hplaced
      rw [eval, Evaluation.node_operator env _ hfragment hoperator,
        Evaluation.node_operator env _ ((hnode.hasKey_eq _).trans hfragment)
          ((hnode.hasKey_eq _).trans hoperator),
        Evaluation.operatorNode, Evaluation.operatorNode, Evaluation.ofNode_eq hname hnode,
        Run.withFrame_apply, Run.withFrame_apply,
        Evaluation.operatorBody_eq_of_unread hnode hk hplaced h]
  | @binding depth node w name rest hfragment hoperator hname h =>
      obtain ⟨node', rfl, hnode⟩ := Dict.AgreeOff.of_object hv
      rw [eval, Evaluation.node_operator env _ hfragment hoperator,
        Evaluation.node_operator env _ ((hnode.hasKey_eq _).trans hfragment)
          ((hnode.hasKey_eq _).trans hoperator)]
      exact Evaluation.operatorNode_eq_of_overlooked hnode hname h
  | @fragment depth node w name rest hfragment hname h ih =>
      obtain ⟨node', rfl, hnode⟩ := Dict.AgreeOff.of_object hv
      obtain ⟨hname, hname', hname''⟩ := hname
      rw [eval, Evaluation.node_fragment env _ hfragment,
        Evaluation.node_fragment env _ ((hnode.hasKey_eq _).trans hfragment)]
      refine Evaluation.fragmentNode_eq (S := fun p p' => p' = p) (hnode.get?_eq hname.symm)
        (hnode.get?_eq hname''.symm) (fun w₀ => ?_) ?_
      · unfold Evaluation.parametersOf
        rw [hnode.get?_eq hname'.symm]
        exact Run.AlikeAt.refl (S := fun p p' => p' = p) (fun _ => rfl) _ w₀
      · rintro template parameters _ w₁ hexpands rfl
        exact ih template _ w₁ hexpands (Evaluation.instantiate_agreeOff hnode template _)
  | @parameter depth node w p name rest hfragment hp hliteral h ih =>
      obtain ⟨node', rfl, hnode⟩ := Dict.AgreeOff.of_object hv
      obtain ⟨p', hp', hagree⟩ := hnode.get?_of_some hp
      have hliteral' := (Evaluation.isNode_eq hagree).trans hliteral
      rw [eval, Evaluation.node_fragment env _ hfragment,
        Evaluation.node_fragment env _ ((hnode.hasKey_eq _).trans hfragment)]
      refine Evaluation.fragmentNode_eq (S := fun a b => a = some p ∧ b = some p')
        (hnode.get?_eq (by decide)) (hnode.get?_eq (by decide)) (fun w₀ => ?_) ?_
      -- Parameters that are written out are not evaluated before they are filled in.
      · simp only [Evaluation.parametersOf, hp, hp', hliteral, hliteral']
        exact ⟨w₀, .inr ⟨_, _, rfl, rfl, .ok ⟨rfl, rfl⟩⟩⟩
      · rintro template _ _ w₁ hexpands ⟨rfl, rfl⟩
        exact ih template w₁ hexpands
          (Evaluation.instantiate_agreeOff_of_parameter hnode template hagree)

/-- An operand that fails, after one that is false. -/
theorem conjunction_passes_over_failing_operand :
    let env : Env := ⟨Options.empty, Registry.full⟩
    let node : Json → Dict Json := fun v =>
      [("operator", .string "and"), ("values", .array [.bool false, v])]
    let failing : Json := .object [("operator", .string "and"), ("values", .string "x")]
    let w : World := ⟨[], ResultCache.empty 0, []⟩
    (∃ e w', eval env 2 failing w = (some (.error e), w')) ∧
      eval env 3 (.object (node failing)) w = eval env 3 (.object (node (.bool true))) w := by
  intro env node failing w
  refine ⟨⟨_, _, rfl⟩, ?_⟩
  have hoff : Json.AgreeOff [] (.bool true) failing := trivial
  have hagree : Json.AgreeOff [.key "values", .index 1] (.object (node (.bool true)))
      (.object (node failing)) :=
    Json.AgreeOff.object (.cons (.inl rfl) (.cons (.inr ⟨rfl, hoff.array [.bool false] []⟩) .nil))
  refine eval_eq_of_unreached (.operand (k := .and) rfl rfl rfl rfl ?_) hagree
  intro props w₁ hgather _
  cases hgather
  exact .conjunct rfl fun w₂ hscan => by cases hscan

end JsonExpr
