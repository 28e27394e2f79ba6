import JsonExpr.Proofs.Evaluation.Fallback
import JsonExpr.Proofs.Registry

/-!
# Lists of operands that are computed

Eleven operators take their children as the list of their values.  Such a list may be written out
under either name, and then it makes no difference which.  It may also be computed by a node.  A
node under `values` is evaluated by the operator, and the elements that it gives are the operands.
A node under `children` is evaluated when the properties are gathered, and the elements that it
gives are put in the place of expressions: the operator evaluates them once more.

So the two spellings agree as far as the elements evaluate to themselves, and a list from outside,
from the data or from the host, is run as a program by one of them.

Main definitions:

* `JsonExpr.OperatorKind.takesList` — the operators whose children are their values;
* `JsonExpr.Evaluation.withList` — a node with a list of operands under one of its names;
* `JsonExpr.Evaluation.TakesList` — a node of such an operator, without a list;
* `JsonExpr.Evaluation.settle` — what a node comes to, given what its operator computes.

Main results:

* `JsonExpr.Evaluation.operatorBody_of_gather` — the value of a node, once its properties are
  gathered;
* `JsonExpr.Evaluation.operatorBody_children` — the elements that children compute are taken for
  operands that are written out;
* `JsonExpr.Evaluation.compute_list` — such an operator computes the same from a node and from the
  elements that the node gives, if these evaluate to themselves;
* `JsonExpr.computed_children_are_evaluated_again` — **computed children agree with computed values
  if the elements evaluate to themselves**.
-/

set_option autoImplicit false

namespace JsonExpr

/-! ### Operators that take a list -/

/-- The operators whose children are their values. -/
def OperatorKind.takesList : OperatorKind → Bool
  | and | or | equal | notEqual | plus | subtract | multiply | divide | greaterThan | lessThan
  | count => true
  | _ => false

/-- Children of these operators become their values, whatever they are. -/
theorem placeChildren_of_takesList {k : OperatorKind} (h : k.takesList = true) (items : List Json)
    (props : Props) :
    placeChildren k items props = .ok (Dict.insert props "values" (.array items)) := by
  cases k <;> first | rfl | cases h

/-- These operators need nothing but their values. -/
theorem requiredNames_of_takesList {k : OperatorKind} (h : k.takesList = true) :
    ∀ name ∈ k.schema.requiredNames, name = "values" := by
  cases k <;> first | decide | cases h

theorem canonicalName?_values {k : OperatorKind} (h : k.takesList = true) :
    k.schema.canonicalName? "values" = none := by
  cases k <;> first | rfl | cases h

/-- The operators that evaluate all their operands begin with the values. -/
theorem operands_of_takesList {k : OperatorKind} (h : k.takesList = true) {op : StrictOperator}
    (hop : k.operation = .strict op) :
    ∃ names, op.operands = "values" :: names ∧ "values" ∉ names := by
  cases k <;> cases h <;> cases hop <;> exact ⟨_, rfl, by decide⟩

namespace Evaluation

/-- A node with a list of operands added, under the name of the children or of a property. -/
def withList (node : Dict Json) (name : String) (v : Json) : Dict Json := Dict.insert node name v

/-- A node of an operator that takes a list, without one. -/
structure TakesList (env : Env) (k : OperatorKind) (node : Dict Json) : Prop where
  operator : operatorOf? env node = some k
  list : k.takesList = true
  noFragment : Dict.hasKey node Key.fragment = false
  noChildren : Dict.hasKey node Key.children = false
  noValues : Dict.hasKey node "values" = false

/-! ### Properties -/

section Properties

variable {env : Env} {ev : Evaluator Failure} {k : OperatorKind} {node : Dict Json} {name : String}
  {v : Json}

/-- A list that is added leaves everything else in a node as it is. -/
theorem get?_withList {key : String} (h : key ≠ name) :
    Dict.get? (withList node name v) key = Dict.get? node key :=
  Dict.get?_insert_of_ne node v h

theorem operatorOf?_withList (h : Key.operator ≠ name) :
    operatorOf? env (withList node name v) = operatorOf? env node := by
  rw [operatorOf?, get?_withList h, ← operatorOf?]

theorem hasKey_withList {key : String} (h : key ≠ name) :
    Dict.hasKey (withList node name v) key = Dict.hasKey node key := by
  rw [Dict.hasKey, get?_withList h, ← Dict.hasKey]

theorem ownProps_children (h : TakesList env k node) :
    ownProps k.schema (withList node Key.children v) = ownProps k.schema node := by
  have hreserved : isReserved Key.children = true := by decide
  simp [ownProps, withList, Dict.insert_eq_append h.noChildren, addProp, hreserved]

theorem ownProps_values (h : TakesList env k node) :
    ownProps k.schema (withList node "values" v) =
      Dict.insert (ownProps k.schema node) "values" v := by
  have hplain : isReserved "values" = false := by decide
  simp [ownProps, withList, Dict.insert_eq_append h.noValues, addProp, hplain,
    canonicalName?_values h.list]

theorem gather_values (h : TakesList env k node) :
    gather ev k (withList node "values" v) =
      Run.value (Dict.insert (ownProps k.schema node) "values" v) := by
  rw [gather, get?_withList (by decide), Dict.hasKey_eq_false_iff.mp h.noChildren,
    ownProps_values h]

theorem gather_children (h : TakesList env k node) {items : List Json} {w w₁ : World}
    (hitems : childList ev k v w = (some (.ok items), w₁)) :
    gather ev k (withList node Key.children v) w =
      (some (.ok (Dict.insert (ownProps k.schema node) "values" (.array items))), w₁) := by
  unfold gather
  rw [withList, Dict.get?_insert_self, ← withList, ownProps_children h]
  dsimp only
  rw [Run.bind_of_ok hitems, placeChildren_of_takesList h.list]
  rfl

end Properties

/-! ### Nodes -/

section Nodes

variable {env : Env} {ev : Evaluator Failure} {k : OperatorKind} {node : Dict Json}

/-- Once its properties are gathered, and none of them is a fallback, a node has the value of any
node with the same operator, fallback and conversion. -/
theorem operatorBody_of_gather {node' : Dict Json} {props : Props} {w w₁ : World}
    (operator : operatorOf? env node = some k)
    (same : ∀ key ∈ [Key.operator, Key.fallback, Key.outputType, Key.type],
      Dict.get? node' key = Dict.get? node key)
    (hprops : Dict.hasKey props Key.fallback = false)
    (hgather : gather ev k node' w = (some (.ok props), w₁)) :
    operatorBody env ev node' w =
      apply env ev k node (Dict.get? node Key.fallback) props w₁ := by
  simp only [List.forall_mem_cons] at same
  obtain ⟨hoperator, hfallback, houtputType, htype, -⟩ := same
  have hknown : operatorOf? env node' = some k := by
    rw [operatorOf?, hoperator, ← operatorOf?, operator]
  have hown : fallbackOf node' props = Dict.get? node Key.fallback := by
    rw [fallbackOf, Dict.hasKey_eq_false_iff.mp hprops, hfallback]
    rfl
  have happly : ∀ fallback props, apply env ev k node' fallback props =
      apply env ev k node fallback props := by
    intro fallback props
    simp only [apply, convert, conversionOf, houtputType, htype]
  unfold operatorBody runOperator
  rw [hknown]
  dsimp only
  rw [Run.bind_of_ok (Run.attempt_of_finished hgather)]
  dsimp only
  rw [hown, happly, withoutFallback, hprops]
  rfl

/-- What a node comes to, given what its operator computes. -/
def settle (env : Env) (ev : Evaluator Failure) (k : OperatorKind) (node : Dict Json)
    (computed : Run OperatorFault Json) : Run Failure Json := do
  let result ← (do
    match ← computed.attempt with
    | .ok v => pure v
    | .error fault =>
      fallbackOr env ev (Dict.get? node Key.fallback) (NodeFault.operator k fault).failure)
  convert env ev k node (Dict.get? node Key.fallback) result

theorem apply_of_nothing_missing {props : Props} (h : missing k props = []) (node : Dict Json) :
    apply env ev k node (Dict.get? node Key.fallback) props =
      settle env ev k node (compute env (inside ev) k props) := by
  rw [apply, h]
  rfl

theorem settle_congr {computed computed' : Run OperatorFault Json} {w w' : World}
    (h : computed w = computed' w') :
    settle env ev k node computed w = settle env ev k node computed' w' := by
  refine Run.bind_congr_left (Run.bind_congr_left ?_)
  rw [Run.attempt_apply, Run.attempt_apply, h]

/-- What an operator computes is put through the conversion that its node asks for. -/
theorem settle_eq_convert {computed : Run OperatorFault Json} {v : Json} {w w₁ : World}
    (h : computed w = (some (.ok v), w₁)) :
    settle env ev k node computed w =
      convert env ev k node (Dict.get? node Key.fallback) v w₁ :=
  Run.bind_of_ok (Run.bind_of_ok (Run.attempt_of_finished h))

/-- A node that asks for no conversion comes to what its operator computes. -/
theorem settle_of_ok {computed : Run OperatorFault Json} {v : Json} {w w₁ : World}
    (hconversion : conversionOf node = none) (h : computed w = (some (.ok v), w₁)) :
    settle env ev k node computed w = (some (.ok v), w₁) := by
  rw [settle_eq_convert h, convert, hconversion]
  rfl

/-- A node with a list under any name other than those that every node reads has the value of the
node without it. -/
theorem operatorBody_withList (h : TakesList env k node) {name : String}
    (hname : ∀ key ∈ [Key.operator, Key.fallback, Key.outputType, Key.type], key ≠ name)
    {v list : Json} {w w₁ : World} (hgather : gather ev k (withList node name v) w =
      (some (.ok (Dict.insert (ownProps k.schema node) "values" list)), w₁)) :
    operatorBody env ev (withList node name v) w =
      apply env ev k node (Dict.get? node Key.fallback)
        (Dict.insert (ownProps k.schema node) "values" list) w₁ :=
  operatorBody_of_gather h.operator (fun key hkey => get?_withList (hname key hkey))
    (hasKey_insert_of_ne (by decide) (hasKey_ownProps k node) _) hgather

/-- A list under `values` is one of the properties, as it is. -/
theorem operatorBody_values (h : TakesList env k node) (v : Json) (w : World) :
    operatorBody env ev (withList node "values" v) w =
      apply env ev k node (Dict.get? node Key.fallback)
        (Dict.insert (ownProps k.schema node) "values" v) w :=
  operatorBody_withList h (by decide) (by rw [gather_values h]; rfl)

/-- **The elements that children compute are taken for operands that are written out.** -/
theorem operatorBody_children (h : TakesList env k node) {v : Json} {items : List Json}
    {w w₁ : World} (hitems : childList ev k v w = (some (.ok items), w₁)) :
    operatorBody env ev (withList node Key.children v) w =
      operatorBody env ev (withList node "values" (.array items)) w₁ :=
  (operatorBody_withList h (by decide) (gather_children h hitems)).trans
    (operatorBody_values h _ _).symm

/-- A list under a name that is no binding's adds no binding. -/
theorem ofNode_withList {name : String} (hbinding : isBindingName name = false)
    (hnew : Dict.hasKey node name = false) (v : Json) :
    Frame.ofNode (withList node name v) = Frame.ofNode node := by
  simp [Frame.ofNode, withList, Dict.insert_eq_append hnew, Dict.filterKeys, hbinding]

/-- The value of a node with a list, in terms of the node with its bindings in scope. -/
theorem eval_withList (operator : operatorOf? env node = some k)
    (noFragment : Dict.hasKey node Key.fragment = false) {name : String}
    (hfragment : Key.fragment ≠ name) (hoperator : Key.operator ≠ name)
    (hbinding : isBindingName name = false) (hnew : Dict.hasKey node name = false) (v : Json)
    (depth : Nat) :
    eval env (depth + 1) (.object (withList node name v)) =
      Run.withFrame (Frame.ofNode node)
        (operatorBody env (eval env depth) (withList node name v)) := by
  have hnoFragment : Dict.hasKey (withList node name v) Key.fragment = false :=
    (hasKey_withList hfragment).trans noFragment
  have hnode : Dict.hasKey (withList node name v) Key.operator = true :=
    (hasKey_withList hoperator).trans (hasKey_operator operator)
  rw [eval, node_operator env _ hnoFragment hnode, operatorNode, ofNode_withList hbinding hnew]

theorem eval_children (h : TakesList env k node) (v : Json) (depth : Nat) :
    eval env (depth + 1) (.object (withList node Key.children v)) =
      Run.withFrame (Frame.ofNode node)
        (operatorBody env (eval env depth) (withList node Key.children v)) :=
  eval_withList h.operator h.noFragment (by decide) (by decide) (by decide) h.noChildren v depth

theorem eval_values (h : TakesList env k node) (v : Json) (depth : Nat) :
    eval env (depth + 1) (.object (withList node "values" v)) =
      Run.withFrame (Frame.ofNode node)
        (operatorBody env (eval env depth) (withList node "values" v)) :=
  eval_withList h.operator h.noFragment (by decide) (by decide) (by decide) h.noValues v depth

end Nodes

/-! ### What is computed from a list -/

section Lists

variable {env : Env} {ev : Evaluator OperatorFault} {k : OperatorKind} {props : Props} {v : Json}
  {items : List Json} {w w₁ : World}

/-- The elements of a list that evaluate to themselves are scanned without a trace. -/
theorem scan_of_values (hitems : ∀ u ∈ items, ev u w = (some (.ok u), w)) (wanted : Bool) :
    Branching.scan ev wanted items w = (some (.ok (items.any fun u => u.truthy == wanted)), w) := by
  induction items with
  | nil => rfl
  | cons u rest ih =>
      obtain ⟨hu, hrest⟩ := List.forall_mem_cons.mp hitems
      rw [Branching.scan, Run.andThen_of_ok hu]
      by_cases hwanted : u.truthy = wanted
      · simp [hwanted]
      · rw [if_neg hwanted, ih hrest]
        simp [hwanted]

/-- A list of values has the type that is declared for it. -/
theorem checkOperands_values (hk : k = .and ∨ k = .or) :
    env.checkOperands k [("values", some (.array items))] = .ok () := by
  unfold Env.checkOperands Env.check
  split
  · rfl
  · rcases hk with rfl | rfl <;> rfl

/-- Operands that begin with the values are the same for a node and for what it evaluates to. -/
theorem operands_list {names : List String} (hnames : "values" ∉ names)
    (hv : ev v w = (some (.ok (.array items)), w₁))
    (hitems : ev (.array items) w₁ = (some (.ok (.array items)), w₁)) :
    ev.operands (Dict.insert props "values" v) ("values" :: names) w =
      ev.operands (Dict.insert props "values" (.array items)) ("values" :: names) w₁ := by
  have hrest : ev.operands (Dict.insert props "values" v) names =
      ev.operands (Dict.insert props "values" (.array items)) names := by
    unfold Evaluator.operands
    have hread : ∀ name ∈ names, Dict.get? (Dict.insert props "values" v) name =
        Dict.get? (Dict.insert props "values" (.array items)) name := by
      intro name hname
      have hne : name ≠ "values" := by
        rintro rfl
        exact hnames hname
      rw [Dict.get?_insert_of_ne _ _ hne, Dict.get?_insert_of_ne _ _ hne]
    clear hnames
    induction names with
    | nil => rfl
    | cons name names ih =>
        obtain ⟨hname, hnames⟩ := List.forall_mem_cons.mp hread
        rw [Run.traverse, Run.traverse, hname, ih hnames]
  have hfirst : ∀ {list : Json} {u : World}, ev list u = (some (.ok (.array items)), w₁) →
      (Run.andThen (ev.optional (Dict.get? (Dict.insert props "values" list) "values"))
        fun v => Run.value (("values", v) : String × Option Json)) u =
          (some (.ok ("values", some (.array items))), w₁) := by
    intro list u hlist
    rw [Dict.get?_insert_self, Evaluator.optional, Run.andThen_assoc, Run.andThen_of_ok hlist]
    rfl
  unfold Evaluator.operands at hrest ⊢
  rw [Run.traverse, Run.traverse, Run.andThen_of_ok (hfirst hv), Run.andThen_of_ok (hfirst hitems),
    hrest]

/-- What a conjunction or disjunction makes of operands that are computed as a whole. -/
def decideAll (env : Env) (k : OperatorKind) (wanted : Bool) (v : Json) : Run OperatorFault Bool := do
  Run.ofExcept (env.checkOperands k [("values", some v)])
  pure ((v.asArray?.getD []).any fun u => u.truthy == wanted)

theorem decideAll_array (hk : k = .and ∨ k = .or) (wanted : Bool) (items : List Json) :
    decideAll env k wanted (.array items) =
      Run.value (items.any fun u => u.truthy == wanted) := by
  funext w
  exact Run.bind_of_ok (Asking.passes (checkOperands_values hk) w)

theorem meets_of_array (hvalues : Dict.get? props "values" = some (.array items)) (k : OperatorKind)
    (wanted : Bool) :
    Branching.meets env ev k wanted props = Branching.scan ev wanted items := by
  rw [Branching.meets, hvalues]

theorem meets_of_computed (hvalues : Dict.get? props "values" = some v) (hcomputed : v.isArray = false)
    (k : OperatorKind) (wanted : Bool) :
    Branching.meets env ev k wanted props = ev v >>= decideAll env k wanted := by
  have hoperands : ev.operands props ["values"] =
      Run.andThen (ev v) fun v => Run.value [("values", some v)] := by
    unfold Evaluator.operands
    rw [Run.traverse, hvalues, Evaluator.optional, Run.andThen_assoc, Run.andThen_assoc]
    rfl
  rw [Branching.meets, hvalues]
  cases v with
  | array _ => cases hcomputed
  | _ =>
      dsimp only
      rw [hoperands]
      exact Run.andThen_assoc _ _ _

/-- A conjunction or disjunction of what a node gives decides as that of the elements does. -/
theorem meets_list (hk : k = .and ∨ k = .or) (wanted : Bool) (hcomputed : v.isArray = false)
    (hv : ev v w = (some (.ok (.array items)), w₁))
    (hitems : ∀ u ∈ items, ev u w₁ = (some (.ok u), w₁)) :
    Branching.meets env ev k wanted (Dict.insert props "values" v) w =
      Branching.meets env ev k wanted (Dict.insert props "values" (.array items)) w₁ := by
  rw [meets_of_computed (Dict.get?_insert_self _ _ _) hcomputed,
    meets_of_array (Dict.get?_insert_self _ _ _), scan_of_values hitems, Run.bind_of_ok hv,
    decideAll_array hk, Run.value_apply]

/-- **An operator computes the same from a node and from the elements that the node gives**, if
these evaluate to themselves. -/
theorem compute_list (hk : k.takesList = true) (hcomputed : v.isArray = false)
    (hv : ev v w = (some (.ok (.array items)), w₁))
    (hitems : ∀ u ∈ items, ev u w₁ = (some (.ok u), w₁))
    (hlist : ev (.array items) w₁ = (some (.ok (.array items)), w₁)) :
    compute env ev k (Dict.insert props "values" v) w =
      compute env ev k (Dict.insert props "values" (.array items)) w₁ := by
  unfold compute
  cases hop : k.operation with
  | strict op =>
      obtain ⟨names, hnames, hnew⟩ := operands_of_takesList hk hop
      dsimp only [strict]
      rw [hnames]
      exact Run.bind_congr_left (operands_list hnew hv hlist)
  | conjunction => exact Run.bind_congr_left (meets_list (.inl rfl) false hcomputed hv hitems)
  | disjunction => exact Run.bind_congr_left (meets_list (.inr rfl) true hcomputed hv hitems)
  | _ => cases k <;> cases hk <;> cases hop

end Lists

section Lists

variable {env : Env} {ev : Evaluator Failure} {k : OperatorKind} {node : Dict Json} {v : Json}
  {items : List Json} {w w₁ : World}

theorem childList_computed (hcomputed : v.isArray = false)
    (hv : ev v w = (some (.ok (.array items)), w₁)) :
    childList ev k v w = (some (.ok items), w₁) := by
  cases v with
  | array _ => cases hcomputed
  | _ =>
      unfold childList
      dsimp only
      rw [Run.bind_of_ok hv]
      rfl

/-- Nothing is missing once there is a list. -/
theorem missing_of_takesList (h : k.takesList = true) (props : Props) (list : Json) :
    missing k (Dict.insert props "values" list) = [] := by
  refine List.filter_eq_nil_iff.mpr fun name hname => ?_
  rw [requiredNames_of_takesList h name hname, Dict.hasKey, Dict.get?_insert_self]
  simp

/-- A node has the same value with a list that is computed under `values`, and with the elements
that it gives. -/
theorem operatorBody_list (h : TakesList env k node) (hcomputed : v.isArray = false)
    (hv : ev v w = (some (.ok (.array items)), w₁))
    (hitems : ∀ u ∈ items, ev u w₁ = (some (.ok u), w₁))
    (hlist : ev (.array items) w₁ = (some (.ok (.array items)), w₁)) :
    operatorBody env ev (withList node "values" v) w =
      operatorBody env ev (withList node "values" (.array items)) w₁ := by
  have hcompute : compute env (inside ev) k (Dict.insert (ownProps k.schema node) "values" v) w =
      compute env (inside ev) k (Dict.insert (ownProps k.schema node) "values" (.array items)) w₁ :=
    compute_list h.list hcomputed (inside_of_ok hv) (fun u hu => inside_of_ok (hitems u hu))
      (inside_of_ok hlist)
  rw [operatorBody_values h, operatorBody_values h,
    apply_of_nothing_missing (missing_of_takesList h.list _ _),
    apply_of_nothing_missing (missing_of_takesList h.list _ _)]
  exact settle_congr hcompute

end Lists

end Evaluation

/-- **Computed children agree with computed values if the elements evaluate to themselves.**  Let a
node of an operator that takes a list be given one that, where the bindings of the node are in
scope, evaluates to an array.  If the list is computed, then under `children` its elements are
evaluated once more, as operands that are written out, in the world that computing it leaves.  And
if it is written out, or if its elements evaluate to themselves, then from some depth on the node
has the same outcome in the same world whether the list stands under `children` or under
`values`. -/
theorem computed_children_are_evaluated_again {env : Env} {k : OperatorKind} {node : Dict Json}
    (h : Evaluation.TakesList env k node) {list : Json} {items : List Json} {enough : Nat}
    {w w₁ : World} (hlist : eval env enough list (w.enter (Frame.ofNode node)) =
      (some (.ok (.array items)), w₁)) :
    (list.isArray = false → ∀ depth, enough ≤ depth →
      Evaluation.operatorBody env (eval env depth) (Evaluation.withList node Key.children list)
          (w.enter (Frame.ofNode node)) =
        Evaluation.operatorBody env (eval env depth)
          (Evaluation.withList node "values" (.array items)) w₁) ∧
    ((list.isArray = true ∨
        ∀ v ∈ items, SelfEvaluating env (w.enter (Frame.ofNode node)).names v) →
      ∃ enough, ∀ depth, enough ≤ depth →
        eval env depth (.object (Evaluation.withList node Key.children list)) w =
          eval env depth (.object (Evaluation.withList node "values" list)) w) := by
  have hagain : list.isArray = false → ∀ depth, enough ≤ depth →
      Evaluation.operatorBody env (eval env depth) (Evaluation.withList node Key.children list)
          (w.enter (Frame.ofNode node)) =
        Evaluation.operatorBody env (eval env depth)
          (Evaluation.withList node "values" (.array items)) w₁ :=
    fun hcomputed depth hd => Evaluation.operatorBody_children h
      (Evaluation.childList_computed hcomputed (eval_mono hd list _ _ _ hlist))
  refine ⟨hagain, fun hplain => ?_⟩
  cases hcomputed : list.isArray with
  | true =>
      -- Elements that are written out go to the same place as they are.
      obtain ⟨written, rfl⟩ : ∃ written, list = .array written := by
        cases list with
        | array written => exact ⟨written, rfl⟩
        | _ => cases hcomputed
      refine ⟨1, fun depth hd => ?_⟩
      obtain ⟨depth, rfl⟩ := Nat.exists_eq_add_of_le' hd
      have hwritten : Evaluation.childList (eval env depth) k (.array written)
          (w.enter (Frame.ofNode node)) = (some (.ok written), w.enter (Frame.ofNode node)) := rfl
      rw [Evaluation.eval_children h, Evaluation.eval_values h, Run.withFrame_apply,
        Run.withFrame_apply, Evaluation.operatorBody_children h hwritten]
  | false =>
      have hself : ∀ v ∈ items, ∃ n, ∀ w : World, w.names = w₁.names →
          eval env n v w = (some (.ok v), w) := by
        intro v hv
        have hnames : (w.enter (Frame.ofNode node)).names = w₁.names := by
          rw [← eval_keepsNames env enough list, hlist]
        rw [hcomputed] at hplain
        exact hnames ▸ (hplain.resolve_left Bool.false_ne_true) v hv
      obtain ⟨n, hn⟩ := exists_forall_of_forall_exists
        (P := fun n v => ∀ w : World, w.names = w₁.names → eval env n v w = (some (.ok v), w))
        (fun hle hv w hw => eval_mono hle _ w _ _ (hv w hw)) hself
      refine ⟨max enough (n + 1) + 1, fun depth hd => ?_⟩
      obtain ⟨depth, rfl⟩ : ∃ d, depth = d + 1 := ⟨depth - 1, by omega⟩
      have hself : eval env depth (.array items) w₁ = (some (.ok (.array items)), w₁) :=
        eval_mono (by omega : n + 1 ≤ depth) _ w₁ _ _ (eval_array fun v hv => hn v hv w₁ rfl)
      have hvalues := Evaluation.operatorBody_list h hcomputed
        (eval_mono (by omega) list _ _ _ hlist)
        (fun v hv => eval_mono (by omega : n ≤ depth) v w₁ _ _ (hn v hv w₁ rfl)) hself
      rw [Evaluation.eval_children h, Evaluation.eval_values h, Run.withFrame_apply,
        Run.withFrame_apply, hagain hcomputed depth (by omega), hvalues]

/-! ### A sum of what a function answers -/

namespace Evaluation

/-- A sum, without its values. -/
def bareSum : Dict Json := [("operator", .string "+")]

section Sums

variable {env : Env}

theorem bareSum_takesList (known : env.registry.resolve? "+" = some .plus) :
    TakesList env .plus bareSum where
  operator := by
    rw [operatorOf?]
    exact known
  list := rfl
  noFragment := rfl
  noChildren := rfl
  noValues := rfl

/-- A sum of what a node gives. -/
theorem operatorBody_bareSum {ev : Evaluator Failure}
    (known : env.registry.resolve? "+" = some .plus) {list : Json} {items : List Json}
    {w w₁ : World} (hlist : ev list w = (some (.ok (.array items)), w₁)) :
    operatorBody env ev (withList bareSum "values" list) w =
      (some (.ok (Arithmetic.sum none items)), w₁) := by
  have hoperands : (inside ev).operands [("values", list)] ["values", "type"] w =
      (some (.ok [("values", some (.array items)), ("type", none)]), w₁) := by
    simp [Evaluator.operands, Run.traverse, Run.andThen, Dict.get?, Evaluator.optional,
      inside_of_ok hlist, Run.value]
  have hchecked : Run.ofExcept (env.checkOperands .plus
      [("values", some (.array items)), ("type", none)]) w₁ = (some (.ok ()), w₁) := by
    unfold Env.checkOperands Env.check
    split <;> rfl
  have hcompute : compute env (inside ev) .plus [("values", list)] w =
      (some (.ok (Arithmetic.sum none items)), w₁) :=
    (Run.bind_of_ok hoperands).trans (Run.bind_of_ok hchecked)
  rw [operatorBody_values (bareSum_takesList known)]
  refine Run.bind_of_ok ((Run.bind_of_ok (Run.attempt_of_finished hcompute)).trans rfl)

end Sums

end Evaluation

/-- A host with two functions, the second of which always gives the same list. -/
def Env.listing (items : List Json) : Env :=
  let functions : FunctionMap :=
    [("f", .constant 0 0 (Json.ofNat 1)), ("g", .constant 1 0 (.array items))]
  ⟨{ functions := some functions }, Registry.full⟩

namespace Env.listing

/-- The node that asks for the list. -/
def list : Json := .object ((HostCall.mk "g" []).node false)

variable (items : List Json)

theorem resolve?_plus : (Env.listing items).registry.resolve? "+" = some .plus :=
  Registry.resolve?_full ⟨"+", by decide, rfl⟩

theorem resolve?_call :
    (Env.listing items).registry.resolve? "CUSTOM_FUNCTIONS" = some .customFunctions :=
  Registry.resolve?_name .customFunctions

theorem eval_list (depth : Nat) :
    eval (Env.listing items) (depth + 2) list ⟨[], ResultCache.empty 0, []⟩ =
      (some (.ok (.array items)), ⟨[], ResultCache.empty 0, [.call 1 "g" []]⟩) :=
  eval_constant rfl rfl (resolve?_call items) (by decide) rfl depth rfl

end Env.listing

open Env.listing in
/-- A list of texts is added up alike under either name. -/
theorem texts_are_added_under_either_name :
    let env := Env.listing [.string "a", .string "b"]
    ∃ enough, ∀ depth, enough ≤ depth →
      eval env depth (.object (Evaluation.withList Evaluation.bareSum Key.children list))
          ⟨[], ResultCache.empty 0, []⟩ =
        eval env depth (.object (Evaluation.withList Evaluation.bareSum "values" list))
          ⟨[], ResultCache.empty 0, []⟩ := by
  intro env
  have hsum := Evaluation.bareSum_takesList (resolve?_plus [.string "a", .string "b"])
  refine (computed_children_are_evaluated_again hsum (eval_list _ 0)).2 (.inr fun v hv => ?_)
  simp only [List.mem_cons, List.not_mem_nil, or_false] at hv
  rcases hv with rfl | rfl
  · exact SelfEvaluating.text _ rfl rfl
  · exact SelfEvaluating.text _ rfl rfl

open Env.listing in
/-- A list from outside holds a node that calls a function.  Under `values` the node is added, under
`children` it is evaluated, and the function is called. -/
theorem element_of_computed_children_is_evaluated :
    let call : Dict Json := (HostCall.mk "f" []).node false
    let env := Env.listing [.object call]
    let w : World := ⟨[], ResultCache.empty 0, []⟩
    eval env 3 list w =
      (some (.ok (.array [.object call])), ⟨[], ResultCache.empty 0, [.call 1 "g" []]⟩) ∧
    eval env 4 (.object (Evaluation.withList Evaluation.bareSum "values" list)) w =
      (some (.ok (.object call)), ⟨[], ResultCache.empty 0, [.call 1 "g" []]⟩) ∧
    eval env 4 (.object (Evaluation.withList Evaluation.bareSum Key.children list)) w =
      (some (.ok (Json.ofNat 1)),
        ⟨[], ResultCache.empty 0, [.call 0 "f" [], .call 1 "g" []]⟩) := by
  intro call env w
  have hsum := Evaluation.bareSum_takesList (resolve?_plus [.object call])
  have hlist := eval_list [.object call] 1
  have hagain : eval env 3 (.array [.object call]) ⟨[], ResultCache.empty 0, [.call 1 "g" []]⟩ =
      (some (.ok (.array [Json.ofNat 1])),
        ⟨[], ResultCache.empty 0, [.call 0 "f" [], .call 1 "g" []]⟩) :=
    eval_singleton (eval_constant rfl rfl (resolve?_call _) (by decide) rfl 0 rfl)
  refine ⟨hlist, ?_, ?_⟩
  · rw [Evaluation.eval_values hsum]
    exact Run.withFrame_of_eq (Evaluation.operatorBody_bareSum (resolve?_plus _) hlist)
  · rw [Evaluation.eval_children hsum]
    refine Run.withFrame_of_eq (Eq.trans (Evaluation.operatorBody_children hsum
      (Evaluation.childList_computed rfl hlist)) ?_)
    exact Evaluation.operatorBody_bareSum (resolve?_plus _) hagain

end JsonExpr
