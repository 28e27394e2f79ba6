import JsonExpr.Proofs.Evaluation.Unreached
import JsonExpr.Proofs.Operator.Precedence
import JsonExpr.Proofs.Operator.Weight
import JsonExpr.Proofs.Registry

/-!
# The order of the keys of a node

Whatever reads an operator node reads it key by key, its bindings included.  So another order of the
entries changes nothing, as long as no two of them compete for the same property: the properties are
the same up to order, and so are the frames in scope inside the node.  What is evaluated there sees
frames through the names it looks up, and frames that are the same up to order stay so.

Where entries do compete, the order of the node does not decide either, except between two aliases
of one parameter: the name of a property counts before its aliases, and what the children write
before both.

Main definitions:

* `JsonExpr.World.UpToOrder`, `JsonExpr.Run.UpToOrder` — worlds whose frames are the same up to
  order, and computations that do the same in such worlds.

Main results:

* `JsonExpr.Run.UpToOrder.congruence` — **evaluation does not see the order of frames**;
* `JsonExpr.Evaluation.operatorBody_congr` — nodes that their operator cannot tell apart;
* `JsonExpr.Evaluation.operatorNode_upToOrder` — operator nodes in another order;
* `JsonExpr.order_of_keys_is_irrelevant` — **the order of the keys of a node is irrelevant**.
-/

set_option autoImplicit false

namespace JsonExpr

/-! ### Worlds up to order -/

/-- Worlds whose frames are the same up to order. -/
structure World.UpToOrder (w w' : World) : Prop where
  scope : List.Forall₂ Dict.UpToOrder w.scope w'.scope
  cache : w'.cache = w.cache
  history : w'.history = w.history

/-- Computations that do the same in worlds whose frames are the same up to order. -/
def Run.UpToOrder {ε α : Type} (m m' : Run ε α) : Prop :=
  ∀ w w', World.UpToOrder w w' → (m' w').1 = (m w).1 ∧ World.UpToOrder (m w).2 (m' w').2

namespace World.UpToOrder

variable {w w' : World} {frame frame' : Frame}

theorem refl (w : World) : World.UpToOrder w w :=
  ⟨List.forall₂_same.mpr fun frame _ => .refl frame, rfl, rfl⟩

theorem enter (h : World.UpToOrder w w') (hframe : Dict.UpToOrder frame frame') :
    World.UpToOrder (w.enter frame) (w'.enter frame') := by
  unfold World.enter
  rw [← hframe.isEmpty_eq]
  split
  · exact h
  · exact ⟨.cons hframe h.scope, h.cache, h.history⟩

theorem leave (h : World.UpToOrder w w') (hframe : Dict.UpToOrder frame frame') :
    World.UpToOrder (w.leave frame) (w'.leave frame') := by
  unfold World.leave
  rw [← hframe.isEmpty_eq]
  split
  · exact h
  · refine ⟨?_, h.cache, h.history⟩
    obtain ⟨scope, -, -⟩ := h
    generalize w.scope = s, w'.scope = s' at scope
    cases scope with
    | nil => exact .nil
    | cons _ houter => exact houter

end World.UpToOrder

namespace Run.UpToOrder

variable {ε ε' α β : Type} {m m' : Run ε α}

/-- A computation that leaves the scope alone and does not look at it. -/
theorem of_scope_eq {m : Run ε α} (hscope : ∀ w, (m w).2.scope = w.scope)
    (hsame : ∀ w w', w'.cache = w.cache → w'.history = w.history → (m w').1 = (m w).1 ∧
      (m w').2.cache = (m w).2.cache ∧ (m w').2.history = (m w).2.history) : UpToOrder m m := by
  intro w w' hw
  obtain ⟨houtcome, hcache, hhistory⟩ := hsame w w' hw.cache hw.history
  refine ⟨houtcome, ⟨?_, hcache, hhistory⟩⟩
  rw [hscope, hscope]
  exact hw.scope

theorem andThen {f f' : α → Run ε β} (hm : UpToOrder m m') (hf : ∀ a, UpToOrder (f a) (f' a)) :
    UpToOrder (Run.andThen m f) (Run.andThen m' f') := by
  intro w w' hw
  obtain ⟨houtcome, hafter⟩ := hm w w' hw
  rcases h : m w with ⟨_ | e | a, w₁⟩ <;> rcases h' : m' w' with ⟨outcome, w₁'⟩ <;>
    rw [h, h'] at houtcome hafter <;> cases houtcome
  · rw [andThen_of_exhausted h, andThen_of_exhausted h']
    exact ⟨rfl, hafter⟩
  · rw [andThen_of_error h, andThen_of_error h']
    exact ⟨rfl, hafter⟩
  · rw [andThen_of_ok h, andThen_of_ok h']
    exact hf a w₁ w₁' hafter

/-- The same inside two nodes with the same bindings. -/
theorem withFrame {frame frame' : Frame} (hframe : Dict.UpToOrder frame frame')
    (hm : UpToOrder m m') : UpToOrder (Run.withFrame frame m) (Run.withFrame frame' m') := by
  intro w w' hw
  obtain ⟨houtcome, hafter⟩ := hm _ _ (hw.enter hframe)
  exact ⟨houtcome, hafter.leave hframe⟩

theorem cached (key : String) {m m' : Run OperatorFault Json} (hm : UpToOrder m m') :
    UpToOrder (Asking.cached key m) (Asking.cached key m') := by
  intro w w' hw
  unfold Asking.cached
  rw [hw.cache]
  cases hhit : w.cache.hit? key with
  | some hit => exact ⟨rfl, hw.scope, rfl, hw.history⟩
  | none =>
      obtain ⟨houtcome, hafter⟩ := hm w w' hw
      rcases h : m w with ⟨_ | outcome, w₁⟩ <;> rcases h' : m' w' with ⟨outcome', w₁'⟩ <;>
        rw [h, h'] at houtcome hafter <;> cases houtcome
      · exact ⟨rfl, hafter⟩
      · exact ⟨rfl, hafter.scope, congrArg (·.settle key outcome) hafter.cache, hafter.history⟩

/-- A name has the same value in frames that are the same up to order. -/
theorem reference {ev ev' : Evaluator ε} (name : String) (h : ∀ v, UpToOrder (ev v) (ev' v)) :
    UpToOrder (ev.reference name) (ev'.reference name) := by
  rintro ⟨s, cache, history⟩ ⟨s', cache', history'⟩ ⟨hscope, hcache, hhistory⟩
  dsimp only at hscope hcache hhistory
  subst hcache hhistory
  -- Frame by frame, up to the one that binds the name.
  induction hscope with
  | nil => exact ⟨rfl, .nil, rfl, rfl⟩
  | @cons frame frame' outer outer' hframe houter ih =>
      cases hget : Dict.get? frame name with
      | none =>
          rw [Evaluator.reference_of_get?_none hget,
            Evaluator.reference_of_get?_none ((hframe name).symm.trans hget)]
          exact ⟨ih.1, .cons hframe ih.2.scope, ih.2.cache, ih.2.history⟩
      | some slot =>
          have hget' := (hframe name).symm.trans hget
          cases hv : slot.value with
          | some v =>
              rw [Evaluator.reference_of_value hget hv, Evaluator.reference_of_value hget' hv]
              exact ⟨rfl, .cons hframe houter, rfl, rfl⟩
          | none =>
              obtain ⟨houtcome, hafter⟩ := h slot.expression ⟨outer, cache', history'⟩
                ⟨outer', cache', history'⟩ ⟨houter, rfl, rfl⟩
              rw [Evaluator.reference_of_expression hget hv,
                Evaluator.reference_of_expression hget' hv, houtcome]
              exact ⟨rfl, .cons (hframe.insert name _) hafter.scope, hafter.cache, hafter.history⟩

/-- **Evaluation does not see the order of frames.** -/
theorem congruence (env : Env) : Run.Congruence env UpToOrder where
  ofExcept _ _ _ hw := ⟨rfl, hw⟩
  andThen := andThen
  attempt hm w w' hw := by
    obtain ⟨houtcome, hafter⟩ := hm w w' hw
    exact ⟨congrArg (Option.map Except.ok) houtcome, hafter⟩
  mapFailure g _ _ hm w w' hw := by
    obtain ⟨houtcome, hafter⟩ := hm w w' hw
    exact ⟨congrArg (Option.map (Except.mapError g)) houtcome, hafter⟩
  withFrame frame _ _ hm := withFrame (.refl frame) hm
  reference := reference
  cached key _ _ _ hm := cached key hm
  call _ f path args := of_scope_eq (fun _ => rfl) fun _ _ hc hh => by
    simp only [HostFunction.ask, hc, hh, and_self]
  http _ c request := of_scope_eq (fun _ => rfl) fun _ _ hc hh => by
    simp only [HttpClient.ask, hc, hh, and_self]
  sql _ c query := of_scope_eq (fun _ => rfl) fun _ _ hc hh => by
    simp only [SqlConnection.ask, hc, hh, and_self]

theorem exhausted : UpToOrder (Run.exhausted : Run ε α) Run.exhausted := fun _ _ hw => ⟨rfl, hw⟩

end Run.UpToOrder

/-! ### Operators -/

namespace Evaluation

variable {env : Env} {ev : Evaluator Failure} {k : OperatorKind} {node node' : Dict Json}
  {w : World}

/-- **An operator does not see the order of its properties.** -/
theorem compute_upToOrder {props props' : Props} (h : Dict.UpToOrder props props')
    (ev : Evaluator OperatorFault) : compute env ev k props' = compute env ev k props := by
  have hget : Dict.get? props' = Dict.get? props := funext fun key => (h key).symm
  have hremaining : ∀ value, Branching.select ev value
      (.object (Dict.filterKeys Branching.isBranchName props')) =
        Branching.select ev value (.object (Dict.filterKeys Branching.isBranchName props)) := by
    intro value
    rw [Branching.select, Branching.select, (h.filterKeys _) _]
  have hmatching : Branching.matching env ev props' = Branching.matching env ev props := by
    unfold Branching.matching Branching.branches
    rw [hget]
    congr 1
    funext found
    congr 1
    funext given
    cases given with
    | some _ => rfl
    | none =>
        dsimp only [Option.getD_none]
        simp only [hremaining]
  unfold compute strict Branching.conjunction Branching.disjunction Branching.meets
    Branching.conditional Branching.buildObject Asking.request Asking.graphQL Asking.sql
    Asking.function Asking.requestOperands Evaluator.operands
  rw [hget, hmatching]

/-- Properties that are the same up to order, without a key twice. -/
structure SameProps (props props' : Props) : Prop where
  upToOrder : Dict.UpToOrder props props'
  keysNodup : Dict.KeysNodup props
  keysNodup' : Dict.KeysNodup props'

theorem SameProps.withoutFallback {props props' : Props} (h : SameProps props props') :
    Dict.UpToOrder (withoutFallback props) (withoutFallback props') := by
  unfold Evaluation.withoutFallback
  rw [← h.upToOrder.hasKey_eq]
  split
  · next hkey => exact h.upToOrder.swapRemove h.keysNodup h.keysNodup' hkey
  · exact h.upToOrder

/-- Nodes with the same children gather the same properties, if their own are the same up to what
the children write. -/
theorem gather_same (hchildren : Dict.get? node' Key.children = Dict.get? node Key.children)
    (hown : Dict.get? node Key.children = none →
      Dict.UpToOrder (ownProps k.schema node) (ownProps k.schema node'))
    (hplaced : ∀ children items w₁, Dict.get? node Key.children = some children →
      childList ev k children w = (some (.ok items), w₁) →
      ∀ F, Overlays F → (∀ props, placeChildren k items props = .ok (F props)) →
        Dict.UpToOrder (F (ownProps k.schema node)) (F (ownProps k.schema node'))) :
    Run.AlikeAt SameProps (gather ev k node) (gather ev k node') w := by
  have hnodup := keysNodup_ownProps k.schema
  unfold gather
  rw [hchildren]
  cases hget : Dict.get? node Key.children with
  | none => exact .ofExcept (.ok ⟨hown hget, hnodup node, hnodup node'⟩) w
  | some children =>
      refine .bind fun items w₁ hitems => .ofExcept (Alike.mapError ?_ _) w₁
      rcases placeChildren_overlays k items with ⟨F, hF, hplace⟩ | ⟨fault, hplace⟩
      · rw [hplace, hplace]
        exact .ok ⟨hplaced children items w₁ hget hitems F hF hplace,
          hF.keysNodup _ (hnodup node), hF.keysNodup _ (hnodup node')⟩
      · rw [hplace, hplace]
        exact .error fault

/-- Nodes from which the same properties are gathered come to the same. -/
theorem runOperator_congr
    (hfallback : Dict.get? node' Key.fallback = Dict.get? node Key.fallback)
    (hgather : Run.AlikeAt SameProps (gather ev k node) (gather ev k node') w)
    (hconversion : ∀ props w₁, gather ev k node w = (some (.ok props), w₁) →
      conversionOf node' = conversionOf node) :
    runOperator env ev k node' w = runOperator env ev k node w := by
  obtain ⟨w₁, ⟨hg, hg'⟩ | ⟨_, _, hg, hg', hout⟩⟩ := hgather <;> unfold runOperator
  · rw [Run.bind_of_exhausted (Run.attempt_of_exhausted hg),
      Run.bind_of_exhausted (Run.attempt_of_exhausted hg')]
  · rw [Run.bind_of_ok (Run.attempt_of_finished hg), Run.bind_of_ok (Run.attempt_of_finished hg')]
    cases hout with
    | error failure => rw [hfallback]
    | @ok props props' hprops =>
        have hown : fallbackOf node' props' = fallbackOf node props := by
          rw [fallbackOf, fallbackOf, hprops.upToOrder Key.fallback, hfallback]
        have hsame := hprops.withoutFallback
        dsimp only
        rw [hown]
        exact apply_eq (hconversion props w₁ hg) (fun key => (hsame.hasKey_eq key).symm)
          fun _ => by rw [compute_upToOrder hsame]

/-- Nodes with the same reserved properties come to the same if they do for their operator. -/
theorem operatorBody_congr
    (hreserved : ∀ key, isReserved key = true → Dict.get? node' key = Dict.get? node key)
    (hrun : ∀ k, operatorOf? env node = some k →
      runOperator env ev k node' w = runOperator env ev k node w) :
    operatorBody env ev node' w = operatorBody env ev node w := by
  have hname : operatorOf? env node' = operatorOf? env node := by
    rw [operatorOf?, hreserved _ (by decide), operatorOf?]
  unfold operatorBody
  rw [hname, shownName, hreserved _ (by decide), hreserved _ (by decide), ← shownName]
  cases hk : operatorOf? env node with
  | none => rfl
  | some k => exact hrun k hk

/-! ### Operator nodes in another order -/

/-- The operator of a node does not see the order of its entries. -/
theorem operatorBody_rearranged
    (h : Rearranged (fun k => operatorOf? env node = some k) node node') :
    operatorBody env ev node' = operatorBody env ev node := by
  have hget : ∀ key, Dict.get? node' key = Dict.get? node key := fun key => (h.upToOrder key).symm
  funext w
  refine operatorBody_congr (fun key _ => hget key) fun k hk =>
    runOperator_congr (hget _) (gather_same (hget _) (fun _ => h.ownProps hk) ?_) fun _ _ _ => ?_
  · exact fun _ _ _ _ _ F hF _ => hF.upToOrder (h.ownProps hk)
  · rw [conversionOf, hget, hget, conversionOf]

theorem ofNode_upToOrder (h : Dict.UpToOrder node node') :
    Dict.UpToOrder (Frame.ofNode node) (Frame.ofNode node') :=
  (h.filterKeys isBindingName).mapValues _

/-- **Operator nodes in another order do the same.** -/
theorem operatorNode_upToOrder {ev' : Evaluator Failure}
    (h : Rearranged (fun k => operatorOf? env node = some k) node node')
    (hev : ∀ v, Run.UpToOrder (ev v) (ev' v)) :
    Run.UpToOrder (operatorNode env ev node) (operatorNode env ev' node') := by
  unfold operatorNode
  rw [operatorBody_rearranged h]
  exact .withFrame (ofNode_upToOrder h.upToOrder)
    ((Run.UpToOrder.congruence env).operatorBody hev node)

/-! ### Entries that do not count -/

section Without

variable {key : String}

/-- Without an entry that is no reserved property, the reserved properties are the same. -/
theorem get?_without_of_isReserved (hkey : isReserved key = false) {other : String}
    (hother : isReserved other = true) :
    Dict.get? (Dict.filterKeys (· != key) node) other = Dict.get? node other := by
  have hne : other ≠ key := by
    rintro rfl
    rw [hkey] at hother
    cases hother
  rw [Dict.get?_filterKeys, if_pos (bne_iff_ne.mpr hne)]

theorem ofNode_without (hkey : isReserved key = false) :
    Frame.ofNode (Dict.filterKeys (· != key) node) = Frame.ofNode node := by
  have hbinding : isBindingName key = false := by
    simp only [isReserved, Bool.or_eq_false_iff] at hkey
    exact hkey.2
  rw [Frame.ofNode, Dict.filterKeys_without hbinding, Frame.ofNode]

/-- An entry that its operator does not see is nothing to an operator node. -/
theorem operatorNode_without (hkey : isReserved key = false)
    (hrun : ∀ k, operatorOf? env node = some k →
      runOperator env ev k (Dict.filterKeys (· != key) node) (w.enter (Frame.ofNode node)) =
        runOperator env ev k node (w.enter (Frame.ofNode node))) :
    operatorNode env ev (Dict.filterKeys (· != key) node) w = operatorNode env ev node w := by
  have hbody := operatorBody_congr (fun _ => get?_without_of_isReserved hkey) hrun
  unfold operatorNode
  rw [ofNode_without hkey, Run.withFrame_apply, hbody, Run.withFrame_apply]

/-- **The name of a property wins over its aliases.** -/
theorem runOperator_without_alias {name : String} (hname : Dict.hasKey node name = true)
    (halias : k.schema.canonicalName? key = some name) :
    runOperator env ev k (Dict.filterKeys (· != key) node) w = runOperator env ev k node w := by
  obtain ⟨hreserved, hcanonical, hkey, htype⟩ := OperatorKind.canonicalName?_eq_some halias
  have hown := (ownProps_without_alias hname hreserved hcanonical halias).symm
  have hreserved := @get?_without_of_isReserved node key hkey
  refine runOperator_congr (hreserved rfl) (gather_same (hreserved rfl) (fun _ => hown) ?_)
    fun _ _ _ => ?_
  · exact fun _ _ _ _ _ F hF _ => hF.upToOrder hown
  · rw [conversionOf, hreserved rfl, Dict.get?_filterKeys, if_pos (bne_iff_ne.mpr htype.symm),
      conversionOf]

/-- **The children of a node win over its properties.** -/
theorem runOperator_without_supplied (hkey : isReserved key = false) {children : Json}
    (hchildren : Dict.get? node Key.children = some children)
    (supply : ∀ items w₁, childList ev k children w = (some (.ok items), w₁) →
      Children.Supply k items (k.schema.propertyOf key)) :
    runOperator env ev k (Dict.filterKeys (· != key) node) w = runOperator env ev k node w := by
  have hreserved := @get?_without_of_isReserved node key hkey
  refine runOperator_congr (hreserved rfl) (gather_same (hreserved rfl) ?_ ?_) ?_
  · intro hnone
    rw [hchildren] at hnone
    cases hnone
  · intro _ items w₁ hget hitems F hF hplace
    rw [hchildren] at hget
    cases hget
    exact hF.upToOrder_of_supply (supply items w₁ hitems _ (hplace [])) fun other hother =>
      (get?_ownProps_without _ node hother).symm
  · intro props w₁ hgather
    have htype : Key.type ≠ key := by
      obtain ⟨hnone, -⟩ | ⟨_, items, hget, hitems, hplaced⟩ := gather_eq_ok hgather
      · rw [hchildren] at hnone
        cases hnone
      · rw [hchildren] at hget
        cases hget
        exact (supply items w₁ hitems).ne_type hplaced
    rw [conversionOf, hreserved rfl, Dict.get?_filterKeys, if_pos (bne_iff_ne.mpr htype),
      conversionOf]

end Without

end Evaluation

/-- Evaluation to a given depth does not see the order of frames. -/
theorem eval_upToOrder (env : Env) (depth : Nat) (v : Json) :
    Run.UpToOrder (eval env depth v) (eval env depth v) :=
  (Run.UpToOrder.congruence env).eval .exhausted depth v

/-- An operator node without an entry that its operator does not see. -/
theorem eval_without {env : Env} {depth : Nat} {w : World} {node : Dict Json} {key : String}
    (operator : Dict.hasKey node Key.operator = true)
    (noFragment : Dict.hasKey node Key.fragment = false) (hkey : isReserved key = false)
    (hrun : ∀ k, Evaluation.operatorOf? env node = some k →
      Evaluation.runOperator env (eval env depth) k (Dict.filterKeys (· != key) node)
          (w.enter (Frame.ofNode node)) =
        Evaluation.runOperator env (eval env depth) k node (w.enter (Frame.ofNode node))) :
    eval env (depth + 1) (.object (Dict.filterKeys (· != key) node)) w =
      eval env (depth + 1) (.object node) w := by
  have operator' : Dict.hasKey (Dict.filterKeys (· != key) node) Key.operator = true := by
    rw [Dict.hasKey, Evaluation.get?_without_of_isReserved hkey rfl]
    exact operator
  have noFragment' : Dict.hasKey (Dict.filterKeys (· != key) node) Key.fragment = false := by
    rw [Dict.hasKey, Dict.get?_filterKeys]
    split
    · exact noFragment
    · rfl
  rw [eval, Evaluation.node_operator env _ noFragment' operator',
    Evaluation.node_operator env _ noFragment operator]
  exact Evaluation.operatorNode_without hkey hrun

/-- **The order of the keys of a node is irrelevant.**  Let an operator node that is no fragment
node have no key twice.

* If no two of its keys are aliases of the same parameter of its operator, then the node with its
  entries in any other order comes to the same outcome, asks the host the same, and leaves the same
  cache and, up to the order of the names in each frame, the same scope.
* Next to the name of a property an alias of it is nothing, wherever the two stand.
* A property that the children write is nothing next to them, by whatever name the node spells it
  and wherever it stands. -/
theorem order_of_keys_is_irrelevant (env : Env) (w : World) {node : Dict Json}
    (operator : Dict.hasKey node Key.operator = true)
    (noFragment : Dict.hasKey node Key.fragment = false) (hnodup : Dict.KeysNodup node) :
    ((∀ k, Evaluation.operatorOf? env node = some k → k.schema.SpelledOnce node) →
      ∀ node', node.Perm node' → ∀ depth,
        let given := eval env depth (.object node) w
        let other := eval env depth (.object node') w
        other.1 = given.1 ∧ other.2.history = given.2.history ∧ other.2.cache = given.2.cache ∧
          List.Forall₂ Dict.UpToOrder given.2.scope other.2.scope) ∧
    ∀ k, Evaluation.operatorOf? env node = some k →
      (∀ name, Dict.hasKey node name = true → ∀ key, k.schema.canonicalName? key = some name →
        ∀ depth, eval env depth (.object (Dict.filterKeys (· != key) node)) w =
          eval env depth (.object node) w) ∧
      ∀ children, Dict.get? node Key.children = some children → ∀ key, isReserved key = false →
        ∀ depth,
          (∀ items w₁, Evaluation.childList (eval env depth) k children
              (w.enter (Frame.ofNode node)) = (some (.ok items), w₁) →
            Children.Supply k items (k.schema.propertyOf key)) →
          eval env (depth + 1) (.object (Dict.filterKeys (· != key) node)) w =
            eval env (depth + 1) (.object node) w := by
  refine ⟨fun once node' hperm depth => ?_, fun k hk => ⟨?_, ?_⟩⟩
  · have hrearranged := Rearranged.of_perm hnodup hperm once
    have hkeys := hrearranged.upToOrder.hasKey_eq
    cases depth with
    | zero => exact ⟨rfl, rfl, rfl, (World.UpToOrder.refl w).scope⟩
    | succ depth =>
        rw [eval, Evaluation.node_operator env _ noFragment operator,
          Evaluation.node_operator env _ ((hkeys _).symm.trans noFragment)
            ((hkeys _).symm.trans operator)]
        obtain ⟨houtcome, hafter⟩ := Evaluation.operatorNode_upToOrder hrearranged
          (eval_upToOrder env depth) w w (.refl w)
        exact ⟨houtcome, hafter.history, hafter.cache, hafter.scope⟩
  · intro name hname key halias depth
    cases depth with
    | zero => rfl
    | succ depth =>
        obtain ⟨-, -, hkey, -⟩ := OperatorKind.canonicalName?_eq_some halias
        refine eval_without operator noFragment hkey fun k' hk' => ?_
        cases hk.symm.trans hk'
        exact Evaluation.runOperator_without_alias hname halias
  · intro children hchildren key hkey depth supply
    refine eval_without operator noFragment hkey fun k' hk' => ?_
    cases hk.symm.trans hk'
    exact Evaluation.runOperator_without_supplied hkey hchildren supply

theorem Evaluation.node_of_operatorOf? {env : Env} {ev : Evaluator Failure} {node : Dict Json}
    {k : OperatorKind} (noFragment : Dict.hasKey node Key.fragment = false)
    (hk : operatorOf? env node = some k) :
    Evaluation.node env ev (.object node) =
      Run.withFrame (Frame.ofNode node) (runOperator env ev k node) := by
  have operator : Dict.hasKey node Key.operator = true := by
    obtain ⟨name, hname, -⟩ := Option.bind_eq_some_iff.mp hk
    obtain ⟨v, hv, -⟩ := Option.bind_eq_some_iff.mp hname
    rw [Dict.hasKey, hv]
    rfl
  rw [node_operator env ev noFragment operator, operatorNode, operatorBody, hk]

/-- A conditional that spells one property in two ways, has another one written by its children as
well, and binds what it leads to. -/
theorem conditional_is_read_key_by_key :
    let env : Env := ⟨Options.empty, Registry.full⟩
    let w : World := ⟨[], ResultCache.empty 0, []⟩
    let node : Dict Json := [("ifTrue", .string "alias"), ("operator", .string "CONDITIONAL"),
      ("ifNot", .string "no"), ("valueIfTrue", .string "$x"), ("condition", .bool false),
      ("children", .array [.bool true]), ("$x", .string "name")]
    let value := fun node => (eval env 4 (.object node) w).1
    (value node).map (·.map Json.toText) = some (.ok "name") ∧ value node.reverse = value node ∧
      value (Dict.filterKeys (· != "ifTrue") node) = value node ∧
      value (Dict.filterKeys (· != "condition") node) = value node := by
  intro env w node value
  have hk : Evaluation.operatorOf? env node = some .conditional := Evaluation.operatorOf?_name rfl
  obtain ⟨horder, hcount⟩ := @order_of_keys_is_irrelevant env w node rfl rfl (by decide)
  obtain ⟨halias, hchildren⟩ := hcount .conditional hk
  have once : ∀ k, Evaluation.operatorOf? env node = some k → k.schema.SpelledOnce node := by
    intro k hk'
    cases hk.symm.trans hk'
    decide +kernel
  have hvalue : (value node).map (·.map Json.toText) = some (.ok "name") := by
    dsimp only [value]
    rw [eval, Evaluation.node_of_operatorOf? rfl hk]
    rfl
  have supply : ∀ items w₁, Evaluation.childList (eval env 3) .conditional (.array [.bool true])
      (w.enter (Frame.ofNode node)) = (some (.ok items), w₁) →
      Children.Supply .conditional items
        (OperatorKind.conditional.schema.propertyOf "condition") := by
    rintro items w₁ ⟨⟩ placed ⟨⟩
    rfl
  have hreverse := (horder once _ node.reverse_perm.symm 4).1
  have hcanonical := halias "valueIfTrue" rfl "ifTrue" rfl 4
  have hsupplied := hchildren _ rfl "condition" rfl 3 supply
  exact ⟨hvalue, hreverse, congrArg Prod.fst hcanonical, congrArg Prod.fst hsupplied⟩

end JsonExpr
