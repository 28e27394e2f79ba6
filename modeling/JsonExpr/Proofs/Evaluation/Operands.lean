import JsonExpr.Proofs.Evaluation.Positional
import JsonExpr.Proofs.Evaluation.Settled

/-!
# Nodes whose operands are known

Most operators evaluate all their operands, check them, and go on from there, by a computation of
their own or by asking the host.  A node of such an operator reaches its operands if its properties
are gathered, nothing that the operator needs is missing, and the operands are evaluated and have
the types that are declared for them.  What the node comes to is then what its operator makes of the
operands, put through the conversion that the node asks for.

Main definitions:

* `JsonExpr.Evaluation.ReachesOperands` — a node that is evaluated as far as its operands;
* `JsonExpr.Evaluation.IsSetting` — a key that an operator reads beside its list.

Main results:

* `JsonExpr.Evaluation.ReachesOperands.of_literals` — nodes whose properties are literals are such;
* `JsonExpr.Evaluation.ReachesOperands.eval_eq` — what such a node comes to;
* `JsonExpr.Evaluation.ReachesOperands.eval_strict` — the same for operators that do not ask
  anything;
* `JsonExpr.Evaluation.IsSetting.reachesOperands` — nodes with a list and one setting reach their
  operands;
* `JsonExpr.Evaluator.value?_of_operands` — an operand is what its property comes to;
* `JsonExpr.Evaluator.operands_of_literals` — literals are operands as they stand.
-/

set_option autoImplicit false

namespace JsonExpr

/-- An operand is what its property comes to, if that is the same in every world. -/
theorem Evaluator.value?_of_operands {ε : Type} {ev : Evaluator ε} {props : Props} {name : String}
    {e v : Json} (hget : Dict.get? props name = some e)
    (only : ∀ u w w', ev e w = (some (.ok u), w') → u = v) {names : List String}
    (hname : name ∈ names) {operands : Operands} {w w' : World}
    (h : ev.operands props names w = (some (.ok operands), w')) :
    Operands.value? operands name = some v := by
  unfold Evaluator.operands at h
  induction names generalizing w operands with
  | nil => cases hname
  | cons first names ih =>
      obtain ⟨operand, w₁, more, hfirst, hmore, rfl⟩ := Run.traverse_cons_ok h
      obtain ⟨_, -, ⟨⟩⟩ | ⟨value, w₂, hvalue, hpair⟩ := Run.andThen_finished hfirst
      cases hpair
      by_cases heq : first = name
      · subst heq
        rw [hget] at hvalue
        obtain ⟨_, -, ⟨⟩⟩ | ⟨u, w₃, hu, hsome⟩ := Run.andThen_finished hvalue
        cases hsome
        rw [Operands.value?, Dict.get?, if_pos rfl, only u _ _ hu]
        rfl
      · have hrest := ih ((List.mem_cons.mp hname).resolve_left (Ne.symm heq)) hmore
        rw [Operands.value?, Dict.get?, if_neg heq]
        exact hrest

/-- Properties that evaluate to themselves are the operands as they stand. -/
theorem Evaluator.operands_of_literals {ε : Type} {ev : Evaluator ε} {props : Props}
    {names : List String} {w : World}
    (h : ∀ name ∈ names, ∀ e, Dict.get? props name = some e → ev e w = (some (.ok e), w)) :
    ev.operands props names w =
      (some (.ok (names.map fun name => (name, Dict.get? props name))), w) := by
  refine Run.traverse_eq (List.forall₂_map_right_iff.mpr (List.forall₂_same.mpr ?_))
  intro name hname
  rcases hget : Dict.get? props name with _ | e
  · rfl
  · rw [optional, Run.andThen_assoc, Run.andThen_of_ok (h name hname e hget)]
    rfl

/-- Operands of which only the first is computed, and the others evaluate to themselves. -/
theorem Evaluator.operands_cons {ε : Type} {ev : Evaluator ε} {props : Props} {name : String}
    {names : List String} {e v : Json} {w w₁ : World} (hget : Dict.get? props name = some e)
    (hfirst : ev e w = (some (.ok v), w₁))
    (hrest : ∀ name ∈ names, ∀ e, Dict.get? props name = some e → ev e w₁ = (some (.ok e), w₁)) :
    ev.operands props (name :: names) w =
      (some (.ok ((name, some v) :: names.map fun name => (name, Dict.get? props name))), w₁) := by
  have hothers := Evaluator.operands_of_literals hrest
  unfold Evaluator.operands at hothers ⊢
  have hvalue : (Run.andThen (ev.optional (Dict.get? props name)) fun v =>
      Run.value (name, v)) w = (some (.ok (name, some v)), w₁) := by
    rw [hget, Evaluator.optional, Run.andThen_assoc, Run.andThen_of_ok hfirst]
    rfl
  rw [Run.traverse, Run.andThen_of_ok hvalue, Run.andThen_of_ok hothers]
  rfl

namespace Evaluation

/-- A node of an operator that is evaluated as far as its operands of the given names: its
properties are gathered, none that the operator needs is missing, and the operands are evaluated and
have the types that are declared for them. -/
structure ReachesOperands (env : Env) (depth : Nat) (k : OperatorKind) (names : List String)
    (node : Dict Json) (w : World) (operands : Operands) (w' : World) : Prop where
  operator : operatorOf? env node = some k
  noFragment : Dict.hasKey node Key.fragment = false
  evaluated : ∃ props w₁,
    gather (eval env depth) k node (w.enter (Frame.ofNode node)) = (some (.ok props), w₁) ∧
      missing k props = [] ∧
      (inside (eval env depth)).operands props names w₁ = (some (.ok operands), w')
  checked : env.checkOperands k operands = .ok ()

namespace ReachesOperands

variable {env : Env} {depth : Nat} {k : OperatorKind} {names : List String} {node : Dict Json}
  {operands : Operands} {v u : Json} {w w₁ w₂ w₃ : World}

/-- A node whose properties are literals under their own names reaches them as they stand. -/
theorem of_literals {operator : Json} {props : Props}
    (hoperator : operatorOf? env ((Key.operator, operator) :: props) = some k)
    (noFragment : Dict.hasKey props Key.fragment = false)
    (hplain : ∀ key ∈ Dict.keys props,
      isReserved key = false ∧ k.schema.canonicalName? key = none)
    (hnodup : Dict.KeysNodup props) (hmissing : missing k props = [])
    (hliteral : ∀ e ∈ props, eval env depth e.2 w = (some (.ok e.2), w))
    (hchecked : env.checkOperands k (names.map fun name => (name, Dict.get? props name)) =
      .ok ()) :
    ReachesOperands env depth k names ((Key.operator, operator) :: props) w
      (names.map fun name => (name, Dict.get? props name)) w where
  operator := hoperator
  noFragment := by
    rw [Dict.hasKey, Dict.get?, if_neg (by decide)]
    exact noFragment
  evaluated := by
    have hbinding : ∀ key ∈ Dict.keys props, isBindingName key = false := fun key hkey => by
      have hreserved := (hplain key hkey).1
      simp only [isReserved, Bool.or_eq_false_iff] at hreserved
      exact hreserved.2
    have hframe : Frame.ofNode ((Key.operator, operator) :: props) = [] := by
      have hnone : Dict.filterKeys isBindingName ((Key.operator, operator) :: props) = [] := by
        have hoperator : ¬ isBindingName Key.operator = true := by decide
        refine List.filter_eq_nil_iff.mpr (List.forall_mem_cons.mpr ⟨hoperator, fun e he => ?_⟩)
        exact Bool.eq_false_iff.mp (hbinding e.1 (List.mem_map_of_mem he))
      rw [Frame.ofNode, hnone]
      rfl
    have hchildren : Dict.get? ((Key.operator, operator) :: props) Key.children = none := by
      rw [Dict.get?, if_neg (by decide), ← Dict.hasKey_eq_false_iff, Bool.eq_false_iff, ne_eq,
        Dict.hasKey_iff]
      intro hmem
      have hreserved : isReserved Key.children = true := by decide
      rw [(hplain _ hmem).1] at hreserved
      cases hreserved
    refine ⟨props, w, ?_, hmissing, Evaluator.operands_of_literals fun name _ e he => ?_⟩
    · rw [gather, hchildren, ownProps_operator_cons operator hplain hnodup, hframe]
      rfl
    · exact inside_of_ok (hliteral (name, e) (Dict.mem_of_get? he))
  checked := hchecked

/-- A node comes to what its operator makes of its operands, put through its conversion. -/
theorem eval_eq (h : ReachesOperands env depth k names node w operands w₁)
    (hk : k ≠ .objectProperties)
    (computed : ∀ props w₀,
      (inside (eval env depth)).operands props names w₀ = (some (.ok operands), w₁) →
      compute env (inside (eval env depth)) k props w₀ = (some (.ok v), w₂))
    (converted : convert env (eval env depth) k node (Dict.get? node Key.fallback) v w₂ =
      (some (.ok u), w₃)) :
    eval env (depth + 1) (.object node) w = (some (.ok u), w₃.leave (Frame.ofNode node)) := by
  obtain ⟨props, w₀, hgather, hmissing, hoperands⟩ := h.evaluated
  have hnoFallback := hasKey_of_gather (fun heq => absurd heq hk) hgather
  rw [eval, node_operator env _ h.noFragment (hasKey_operator h.operator), operatorNode]
  refine Run.withFrame_of_eq ?_
  rw [operatorBody_of_gather h.operator (fun _ _ => rfl) hnoFallback hgather,
    apply_of_nothing_missing hmissing, settle_eq_convert (computed props w₀ hoperands), converted]

/-- What an operator that asks nothing computes from its operands. -/
theorem compute_strict {op : StrictOperator} (hop : k.operation = .strict op)
    (h : ReachesOperands env depth k op.operands node w operands w₁)
    (hv : op.compute env.options operands = .ok v) {props : Props} {w₀ : World}
    (hoperands : (inside (eval env depth)).operands props op.operands w₀ =
      (some (.ok operands), w₁)) :
    compute env (inside (eval env depth)) k props w₀ = (some (.ok v), w₁) := by
  have hchecked := Asking.passes h.checked w₁
  rw [compute, hop]
  show strict env (inside (eval env depth)) k op props w₀ = _
  unfold strict
  rw [Run.bind_of_ok hoperands, Run.bind_of_ok hchecked, hv]
  rfl

/-- A node of an operator that asks nothing, and that asks for no conversion itself, comes to what
the operator computes from its operands. -/
theorem eval_strict {op : StrictOperator} (hop : k.operation = .strict op)
    (h : ReachesOperands env depth k op.operands node w operands w₁) (hk : k ≠ .objectProperties)
    (noConversion : conversionOf node = none) (hv : op.compute env.options operands = .ok v) :
    eval env (depth + 1) (.object node) w = (some (.ok v), w₁.leave (Frame.ofNode node)) :=
  h.eval_eq hk (fun _ _ => h.compute_strict hop hv) (by rw [convert, noConversion]; rfl)

end ReachesOperands

/-- A conversion that is written out is that of its name. -/
theorem convert_of_name {env : Env} {ev : Evaluator Failure} {k : OperatorKind}
    {node : Dict Json} {fallback : Option Json} {name : String} {type : OutputType} {w : World}
    (hconversion : conversionOf node = some (.string name))
    (hname : ev (.string name) w = (some (.ok (.string name)), w))
    (htype : OutputType.ofName? name = some type) (result : Json) :
    convert env ev k node fallback result w = (some (.ok (type.apply result)), w) := by
  have htext : (Json.string name).toText = name := by rw [Json.toText]
  rw [convert, hconversion]
  dsimp only
  rw [Run.bind_of_ok (Run.attempt_of_finished hname)]
  dsimp only
  rw [htext, htype]
  rfl

/-! ### Nodes with a list and one setting -/

/-- A key that an operator reads beside its list. -/
structure IsSetting (k : OperatorKind) (key : String) : Prop where
  list : k.takesList = true
  plain : isReserved key = false
  noAlias : k.schema.canonicalName? key = none
  noFragment : key ≠ Key.fragment
  noValues : key ≠ "values"

/-- A node of the operator under the given name, with a setting or none, and without its list. -/
def withSetting (name key : String) (setting : Option Json) : Dict Json :=
  (Key.operator, .string name) :: optionalField key setting

section Settings

variable {env : Env} {depth : Nat} {k : OperatorKind} {name key list : String}
  {setting : Option Json} {items values : List Json} {names : List String} {w w₁ : World}

theorem hasKey_withSetting {other : String} (hoperator : Key.operator ≠ other)
    (hkey : key ≠ other) : Dict.hasKey (withSetting name key setting) other = false := by
  cases setting <;>
    simp [withSetting, optionalField, Dict.hasKey, Dict.get?, hoperator, hkey]

namespace IsSetting

variable (h : IsSetting k key)

include h

theorem isBindingName_eq : isBindingName key = false := by
  have hplain := h.plain
  simp only [isReserved, Bool.or_eq_false_iff] at hplain
  exact hplain.2

theorem takesList (known : env.registry.resolve? name = some k) :
    TakesList env k (withSetting name key setting) where
  operator := known
  list := h.list
  noFragment := hasKey_withSetting (by decide) h.noFragment
  noChildren := by
    refine hasKey_withSetting (by decide) ?_
    rintro rfl
    exact absurd h.plain (by decide)
  noValues := hasKey_withSetting (by decide) h.noValues

theorem ownProps_eq :
    ownProps k.schema (withSetting name key setting) = optionalField key setting := by
  have hplain : ∀ other ∈ Dict.keys (optionalField key setting),
      isReserved other = false ∧ k.schema.canonicalName? other = none := by
    cases setting with
    | none => exact fun _ hother => nomatch hother
    | some v => exact List.forall_mem_singleton.mpr ⟨h.plain, h.noAlias⟩
  have hnodup : Dict.KeysNodup (optionalField key setting) := by
    cases setting with
    | none => exact List.nodup_nil
    | some v => exact List.pairwise_singleton _ key
  exact ownProps_operator_cons _ hplain hnodup

theorem ofNode_eq (hlist : list = "values" ∨ list = Key.children)
    (known : env.registry.resolve? name = some k) (v : Json) :
    Frame.ofNode (withList (withSetting name key setting) list v) = [] := by
  have hbase : Frame.ofNode (withSetting name key setting) = [] := by
    have hoperator : isBindingName Key.operator = false := by decide
    cases setting <;>
      simp [withSetting, optionalField, Frame.ofNode, Dict.filterKeys, Dict.mapValues, hoperator,
        h.isBindingName_eq]
  have htakes : TakesList env k (withSetting name key setting) := h.takesList known
  rw [← hbase]
  rcases hlist with rfl | rfl
  · exact ofNode_withList (by decide) htakes.noValues v
  · exact ofNode_withList (by decide) htakes.noChildren v

/-- A node whose list comes to values, under either name of the list, and whose setting evaluates to
itself reaches them. -/
theorem reachesOperands (hnames : "values" ∉ names) (hlist : list = "values" ∨ list = Key.children)
    (known : env.registry.resolve? name = some k)
    (hitems : eval env depth (.array items) w = (some (.ok (.array values)), w₁))
    (hliteral : ∀ e ∈ setting, eval env depth e w₁ = (some (.ok e), w₁))
    (hchecked : env.checkOperands k (("values", some (.array values)) :: names.map fun name =>
      (name, Dict.get? (optionalField key setting) name)) = .ok ()) :
    ReachesOperands env depth k ("values" :: names)
      (withList (withSetting name key setting) list (.array items)) w
      (("values", some (.array values)) :: names.map fun name =>
        (name, Dict.get? (optionalField key setting) name)) w₁ where
  operator := by
    rcases hlist with rfl | rfl <;> exact (operatorOf?_withList (by decide)).trans known
  noFragment := by
    have htakes : TakesList env k (withSetting name key setting) := h.takesList known
    rcases hlist with rfl | rfl <;> exact (hasKey_withList (by decide)).trans htakes.noFragment
  evaluated := by
    have htakes : TakesList env k (withSetting name key setting) := h.takesList known
    have hother : ∀ name ∈ names,
        Dict.get? (Dict.insert (optionalField key setting) "values" (.array items)) name =
          Dict.get? (optionalField key setting) name := by
      intro name hname
      exact Dict.get?_insert_of_ne _ _ fun heq => hnames (heq ▸ hname)
    refine ⟨Dict.insert (optionalField key setting) "values" (.array items), w, ?_,
      missing_of_takesList h.list _ _, ?_⟩
    · rw [h.ofNode_eq hlist known]
      rcases hlist with rfl | rfl
      · rw [gather_values htakes, h.ownProps_eq]
        rfl
      · have hwritten : childList (eval env depth) k (.array items) w = (some (.ok items), w) := rfl
        have hgather := gather_children htakes hwritten
        rwa [h.ownProps_eq] at hgather
    · -- The other operands are the same with the list and without it.
      rw [← List.map_congr_left fun name hname => congrArg (Prod.mk name) (hother name hname)]
      refine Evaluator.operands_cons (Dict.get?_insert_self _ _ _) (inside_of_ok hitems) ?_
      intro name hname e he
      rw [hother name hname] at he
      cases setting with
      | none => cases he
      | some v =>
          obtain ⟨rfl, rfl⟩ : key = name ∧ v = e := by
            simpa [optionalField, Dict.get?] using he
          exact inside_of_ok (hliteral v rfl)
  checked := hchecked

end IsSetting

end Settings

end Evaluation

end JsonExpr
