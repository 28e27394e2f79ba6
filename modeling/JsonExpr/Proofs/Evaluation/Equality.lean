import JsonExpr.Proofs.Evaluation.Operands
import JsonExpr.Proofs.Json.Equality

/-!
# Tests for equality

Whether all values are equal is tested by comparing each of them with the first.  As equality is an
equivalence, this is whether any two of them are equal, and so the values may stand in any order.
It makes no difference whether case counts, for what is compared then are the values in lower case.

Main definitions:

* `JsonExpr.Comparison.PairsEqual` — any two of the values are equal;
* `JsonExpr.Evaluation.comparison` — a test for equality, without its values.

Main results:

* `JsonExpr.Comparison.allEqual_iff` — comparing with the first value compares all of them;
* `JsonExpr.equality_does_not_depend_on_order` — **equality is an equivalence that ignores the order
  of keys, and tests for equality do not depend on the order of their values**.
-/

set_option autoImplicit false

namespace JsonExpr

/-! ### All values are equal -/

namespace Comparison

variable {ignoreCase : Bool} {values values' : List Json}

/-- Any two of the values are equal, as they are compared. -/
def PairsEqual (ignoreCase : Bool) (values : List Json) : Prop :=
  ∀ a ∈ values, ∀ b ∈ values,
    (comparand ignoreCase a).sameValue (comparand ignoreCase b) = true

theorem wellFormed_comparand {v : Json} (h : v.WellFormed) :
    (comparand ignoreCase v).WellFormed := by
  cases v with
  | string s => simp [comparand, Json.WellFormed]
  | _ => exact h

/-- Comparing with the first value compares all of them. -/
theorem allEqual_iff (h : ∀ v ∈ values, v.WellFormed) :
    allEqual ignoreCase values = true ↔ PairsEqual ignoreCase values := by
  cases values with
  | nil => exact ⟨fun _ _ ha => (List.not_mem_nil ha).elim, fun _ => rfl⟩
  | cons first rest =>
      have hwell : ∀ v ∈ first :: rest, (comparand ignoreCase v).WellFormed :=
        fun v hv => wellFormed_comparand (h v hv)
      have hfirst := hwell first List.mem_cons_self
      rw [allEqual, List.map_cons]
      simp only [List.all_map, List.all_eq_true, Function.comp_apply]
      constructor
      · intro hrest
        have hall : ∀ v ∈ first :: rest,
            (comparand ignoreCase v).sameValue (comparand ignoreCase first) = true :=
          List.forall_mem_cons.mpr ⟨Json.sameValue_refl hfirst, hrest⟩
        exact fun a ha b hb => Json.sameValue_trans (hall a ha)
          (Json.sameValue_symm (hwell b hb) hfirst (hall b hb))
      · exact fun hpairs v hv => hpairs v (List.mem_cons_of_mem _ hv) first List.mem_cons_self

/-- The values may stand in any order. -/
theorem allEqual_of_perm (hperm : values.Perm values') (h : ∀ v ∈ values, v.WellFormed) :
    allEqual ignoreCase values = allEqual ignoreCase values' := by
  have h' : ∀ v ∈ values', v.WellFormed := fun v hv => h v (hperm.mem_iff.mpr hv)
  have hpairs : PairsEqual ignoreCase values ↔ PairsEqual ignoreCase values' := by
    simp only [PairsEqual, hperm.mem_iff]
  rw [Bool.eq_iff_iff, allEqual_iff h, allEqual_iff h', hpairs]

end Comparison

/-! ### Nodes -/

namespace Evaluation

/-- A test for equality under the given name, which may say whether case counts, without its
values. -/
def comparison (name : String) (ignoreCase : Option Bool) : Dict Json :=
  ("operator", .string name) :: optionalField "caseInsensitive" (ignoreCase.map Json.bool)

section Comparisons

variable {env : Env} {k : OperatorKind} {name list : String} {items : List Json} {depth : Nat}
  {w : World} (ignoreCase : Option Bool)

theorem isSetting_caseInsensitive (hk : k = .equal ∨ k = .notEqual) :
    IsSetting k "caseInsensitive" := by
  rcases hk with rfl | rfl <;> exact ⟨rfl, by decide, by decide, by decide, by decide⟩

/-- The operands of a comparison. -/
def comparisonOperands (items : List Json) : Operands :=
  [("values", some (.array items)), ("caseInsensitive", ignoreCase.map Json.bool),
    ("nullEqualsUndefined", none)]

theorem valuesEqual_operands (items : List Json) :
    StrictOperator.valuesEqual (comparisonOperands ignoreCase items) =
      Comparison.allEqual (ignoreCase.getD false) items := by
  cases ignoreCase <;> rfl

theorem checkOperands_comparison (hk : k = .equal ∨ k = .notEqual) :
    env.checkOperands k (comparisonOperands ignoreCase items) = .ok () := by
  unfold Env.checkOperands Env.check
  split
  · rfl
  · rcases hk with rfl | rfl <;> cases ignoreCase <;> rfl

/-- What the two tests answer. -/
def answers (equal : Bool) : OperatorKind → Bool
  | .notEqual => !equal
  | _ => equal

theorem reachesOperands_comparison (hk : k = .equal ∨ k = .notEqual)
    (known : env.registry.resolve? name = some k)
    (hlist : list = "values" ∨ list = Key.children)
    (hitems : eval env (depth + 1) (.array items) w = (some (.ok (.array items)), w)) :
    ReachesOperands env (depth + 1) k ["values", "caseInsensitive", "nullEqualsUndefined"]
      (withList (comparison name ignoreCase) list (.array items)) w
      (comparisonOperands ignoreCase items) w := by
  have hoperands : comparisonOperands ignoreCase items =
      ("values", some (.array items)) :: ["caseInsensitive", "nullEqualsUndefined"].map fun name =>
        (name, Dict.get? (optionalField "caseInsensitive" (ignoreCase.map Json.bool)) name) := by
    cases ignoreCase <;> rfl
  have hchecked : env.checkOperands k (comparisonOperands ignoreCase items) = .ok () :=
    checkOperands_comparison ignoreCase hk
  rw [hoperands] at hchecked ⊢
  refine (isSetting_caseInsensitive hk).reachesOperands (by decide) hlist known hitems ?_ hchecked
  intro e he
  obtain ⟨b, -, rfl⟩ := Option.map_eq_some_iff.mp he
  rfl

/-- A test with its values, under either name, gives its answer. -/
theorem eval_comparison (hk : k = .equal ∨ k = .notEqual)
    (known : env.registry.resolve? name = some k)
    (hlist : list = "values" ∨ list = Key.children)
    (hitems : ∀ v ∈ items, eval env depth v w = (some (.ok v), w)) :
    eval env (depth + 2)
        (.object (withList (comparison name ignoreCase) list (.array items))) w =
      (some (.ok (.bool (answers (Comparison.allEqual (ignoreCase.getD false) items) k))), w) := by
  have hreaches := reachesOperands_comparison ignoreCase hk known hlist (eval_array hitems)
  have hframe : Frame.ofNode (withList (comparison name ignoreCase) list (.array items)) = [] :=
    (isSetting_caseInsensitive hk).ofNode_eq hlist known _
  have hconversion : conversionOf (withList (comparison name ignoreCase) list (.array items)) =
      none := by
    rcases hlist with rfl | rfl <;> cases ignoreCase <;> rfl
  rw [← valuesEqual_operands]
  rcases hk with rfl | rfl
  · have hstrict : OperatorKind.equal.operation = .strict .equal := rfl
    have hrun := hreaches.eval_strict hstrict (by decide) hconversion rfl
    rwa [hframe] at hrun
  · have hstrict : OperatorKind.notEqual.operation = .strict .notEqual := rfl
    have hrun := hreaches.eval_strict hstrict (by decide) hconversion rfl
    rwa [hframe] at hrun

end Comparisons

end Evaluation

open Evaluation in
/-- **Equality is an equivalence that ignores the order of keys, and tests for equality do not
depend on the order of their values.**  Objects are equal if they have the same keys and equal
values there, and so in any order of their entries.  For literals there is one answer, whatever
order they stand in, under `values` or as children, in any world: one operator gives it, and the
other its opposite.  The answer is whether any two of the values are equal. -/
theorem equality_does_not_depend_on_order :
    (∀ v : Json, v.WellFormed → v.sameValue v = true) ∧
    (∀ u v : Json, u.WellFormed → v.WellFormed → u.sameValue v = true → v.sameValue u = true) ∧
    (∀ u v w : Json, u.sameValue v = true → v.sameValue w = true → u.sameValue w = true) ∧
    (∀ a b : Dict Json, (Json.object a).WellFormed → (Json.object b).WellFormed →
      ((Json.object a).sameValue (.object b) = true ↔
        ∀ key, Option.Rel (fun v w => v.sameValue w = true) (Dict.get? a key) (Dict.get? b key)) ∧
      (a.Perm b → (Json.object a).sameValue (.object b) = true)) ∧
    ∀ (env : Env) (ignoreCase : Option Bool) (values : List Json) (w : World),
      (∀ v ∈ values, v.WellFormed ∧ SelfEvaluating env w.names v) →
      ∃ answer : Bool,
        (answer = true ↔ Comparison.PairsEqual (ignoreCase.getD false) values) ∧
        ∀ (values' : List Json) (list name : String), values.Perm values' →
          list = "values" ∨ list = Key.children →
          ∃ enough, ∀ depth, enough ≤ depth →
            (env.registry.resolve? name = some .equal →
              eval env depth
                  (.object (withList (comparison name ignoreCase) list (.array values'))) w =
                (some (.ok (.bool answer)), w)) ∧
            (env.registry.resolve? name = some .notEqual →
              eval env depth
                  (.object (withList (comparison name ignoreCase) list (.array values'))) w =
                (some (.ok (.bool !answer)), w)) := by
  refine ⟨fun v => Json.sameValue_refl, fun u v => Json.sameValue_symm,
    fun u v w => Json.sameValue_trans, fun a b ha hb =>
      ⟨Json.equalBy_object_iff (Json.wellFormed_object_iff.mp ha).1
        (Json.wellFormed_object_iff.mp hb).1, Json.sameValue_of_perm ha⟩,
    fun env ignoreCase values w hvalues => ?_⟩
  refine ⟨Comparison.allEqual (ignoreCase.getD false) values,
    Comparison.allEqual_iff fun v hv => (hvalues v hv).1, fun values' list name hperm hlist => ?_⟩
  have hsame : Comparison.allEqual (ignoreCase.getD false) values' =
      Comparison.allEqual (ignoreCase.getD false) values :=
    (Comparison.allEqual_of_perm hperm fun v hv => (hvalues v hv).1).symm
  obtain ⟨n, hn⟩ := exists_forall_of_forall_exists
    (P := fun n v => ∀ u : World, u.names = w.names → eval env n v u = (some (.ok v), u))
    (fun hle hv u hu => eval_mono hle _ u _ _ (hv u hu))
    fun v hv => (hvalues v (hperm.mem_iff.mpr hv)).2
  have hitems : ∀ v ∈ values', eval env n v w = (some (.ok v), w) := fun v hv => hn v hv w rfl
  refine ⟨n + 2, fun depth hdepth => ⟨fun known => ?_, fun known => ?_⟩⟩
  · rw [← hsame]
    exact eval_mono hdepth _ w _ _ (eval_comparison ignoreCase (.inl rfl) known hlist hitems)
  · rw [← hsame]
    exact eval_mono hdepth _ w _ _ (eval_comparison ignoreCase (.inr rfl) known hlist hitems)

/-- Two objects with their keys in different orders are found equal, whichever is compared with
which. -/
theorem objects_are_compared_in_any_order :
    let env : Env := ⟨Options.empty, Registry.full⟩
    let w : World := ⟨[], ResultCache.empty 0, []⟩
    let ab : Json := .object [("a", Json.int 1), ("b", .string "x")]
    let ba : Json := .object [("b", .string "x"), ("a", Json.int 1)]
    ab.sameValue ba = true ∧ ∃ enough, ∀ depth, enough ≤ depth →
      eval env depth (.object (Evaluation.withList (Evaluation.comparison "EQUAL" none) "values"
        (.array [ba, ab]))) w = (some (.ok (.bool true)), w) := by
  intro env w ab ba
  obtain ⟨hrefl, hsymm, -, hobject, hevaluates⟩ := equality_does_not_depend_on_order
  have hab : ab.WellFormed := Json.wellFormed_object_iff.mpr
    ⟨by decide, by simp [Json.WellFormed, Json.int]⟩
  have hba : ba.WellFormed := Json.wellFormed_object_iff.mpr
    ⟨by decide, by simp [Json.WellFormed, Json.int]⟩
  have hsame : ab.sameValue ba = true := (hobject _ _ hab hba).2 (List.Perm.swap _ _ _)
  obtain ⟨answer, hanswer, hrun⟩ := hevaluates env none [ab, ba] w
    (List.forall_mem_cons.mpr ⟨⟨hab, 1, fun _ _ => rfl⟩,
      List.forall_mem_singleton.mpr ⟨hba, 1, fun _ _ => rfl⟩⟩)
  have hpairs : Comparison.PairsEqual false [ab, ba] := by
    simp only [Comparison.PairsEqual, List.forall_mem_cons, List.not_mem_nil, false_implies,
      implies_true, and_true]
    exact ⟨⟨hrefl ab hab, hsame⟩, hsymm ab ba hab hba hsame, hrefl ba hba⟩
  obtain ⟨enough, henough⟩ := hrun [ba, ab] "values" "EQUAL" (List.Perm.swap _ _ _) (.inl rfl)
  refine ⟨hsame, enough, fun depth hdepth => ?_⟩
  rw [← hanswer.mpr hpairs]
  exact (henough depth hdepth).1 (Registry.resolve?_name .equal)

end JsonExpr
