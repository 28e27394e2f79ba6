import JsonExpr.Proofs.Evaluation.Calls
import JsonExpr.Proofs.Evaluation.Guided
import JsonExpr.Proofs.Json.Part

/-!
# Nodes of literals

A literal evaluates to itself, and so does every part of it.  An operator node whose properties are
literals could as well be given an evaluator that takes every value as it is written, for all that
its evaluation asks are properties of the node, parts of them, and what children are built into.

Main definitions:

* `JsonExpr.Evaluator.verbatim` — every value is taken as it is written;
* `JsonExpr.Literal`, `JsonExpr.LiteralAt` — values that evaluate to themselves with all their
  parts, within some depth and within a given one;
* `JsonExpr.Run.Agrees` — computations that are the same where certain names are in scope;
* `JsonExpr.Evaluation.OfLiterals` — nodes whose properties are literals.

Main results:

* `JsonExpr.Literal.exists_literalAt` — one depth does for all parts;
* `JsonExpr.Run.Agrees.guided` — the ways of building computations respect agreement;
* `JsonExpr.Evaluation.operatorBody_verbatim` — **nodes of literals are evaluated as they are
  written**.
-/

set_option autoImplicit false

namespace JsonExpr

/-- Every value is taken as it is written. -/
def Evaluator.verbatim {ε : Type} : Evaluator ε := Run.value

/-! ### Literals -/

/-- A value that evaluates to itself with all its parts, wherever the given names are in scope. -/
def Literal (env : Env) (names : List (List String)) (v : Json) : Prop :=
  ∀ u, Json.Part u v → SelfEvaluating env names u

/-- A value that evaluates to itself with all its parts, within the given depth. -/
def LiteralAt (env : Env) (names : List (List String)) (depth : Nat) (v : Json) : Prop :=
  ∀ u, Json.Part u v → ∀ w : World, w.names = names → eval env depth u w = (some (.ok u), w)

section Literals

variable {env : Env} {names : List (List String)} {depth depth' : Nat} {v : Json}

theorem LiteralAt.eval_eq (h : LiteralAt env names depth v) {w : World} (hw : w.names = names) :
    eval env depth v w = (some (.ok v), w) :=
  h v .self w hw

theorem LiteralAt.mono (hle : depth ≤ depth') (h : LiteralAt env names depth v) :
    LiteralAt env names depth' v :=
  fun u hu w hw => eval_mono hle u w _ _ (h u hu w hw)

theorem LiteralAt.item {items : List Json} (h : LiteralAt env names depth (.array items)) :
    ∀ v ∈ items, LiteralAt env names depth v :=
  fun _ hv u hu => h u (.item hv hu)

theorem LiteralAt.entry {fields : Dict Json} (h : LiteralAt env names depth (.object fields)) :
    ∀ e ∈ fields, LiteralAt env names depth e.2 :=
  fun _ he u hu => h u (.entry he hu)

theorem LiteralAt.literal (h : LiteralAt env names depth v) : Literal env names v :=
  fun u hu => ⟨depth, h u hu⟩

/-- Within one depth a literal evaluates to itself with all its parts. -/
theorem Literal.exists_literalAt (h : Literal env names v) :
    ∃ depth, LiteralAt env names depth v := by
  -- The whole takes one depth and its elements or entries another.
  have hwhole : ∀ {v : Json} {n : Nat}, Literal env names v →
      (∀ u, Json.Part u v → u = v ∨ ∀ w : World, w.names = names →
        eval env n u w = (some (.ok u), w)) → ∃ depth, LiteralAt env names depth v := by
    intro v n hv hparts
    obtain ⟨m, hm⟩ := hv v .self
    refine ⟨max n m, fun u hu w hw => ?_⟩
    rcases hparts u hu with rfl | hpart
    · exact eval_mono (Nat.le_max_right n m) u w _ _ (hm w hw)
    · exact eval_mono (Nat.le_max_left n m) u w _ _ (hpart w hw)
  induction v using Json.inductionOnParts with
  | array items ih =>
      obtain ⟨n, hn⟩ := exists_forall_of_forall_exists (P := LiteralAt env names) LiteralAt.mono
        fun v hv => ih v hv fun u hu => h u (.item hv hu)
      refine hwhole (n := n) h fun u hu => ?_
      cases hu with
      | self => exact .inl rfl
      | item hv hpart => exact .inr (hn _ hv u hpart)
  | object fields ih =>
      obtain ⟨n, hn⟩ := exists_forall_of_forall_exists
        (P := fun n (e : String × Json) => LiteralAt env names n e.2) LiteralAt.mono
        fun e he => ih e he fun u hu => h u (.entry he hu)
      refine hwhole (n := n) h fun u hu => ?_
      cases hu with
      | self => exact .inl rfl
      | entry he hpart => exact .inr (hn _ he u hpart)
  | _ =>
      refine hwhole (n := 0) h fun u hu => .inl ?_
      cases hu
      rfl

/-- An array of literals is a literal, one level up. -/
theorem LiteralAt.array {items : List Json} (h : ∀ v ∈ items, LiteralAt env names depth v) :
    LiteralAt env names (depth + 1) (.array items) := by
  intro u hu w hw
  cases hu with
  | self => exact eval_array fun v hv => (h v hv).eval_eq hw
  | item hv hpart => exact (h _ hv).mono (Nat.le_succ depth) u hpart w hw

/-- An object of literals that is no node is a literal, one level up. -/
theorem LiteralAt.object {fields : Dict Json} (h : ∀ e ∈ fields, LiteralAt env names depth e.2)
    (hnode : isNode (.object fields) = false) :
    LiteralAt env names (depth + 1) (.object fields) := by
  intro u hu w hw
  cases hu with
  | self =>
      have hfields : (eval env depth).fields fields w = (some (.ok fields), w) := by
        refine Run.traverse_eq (List.forall₂_same.mpr fun e he => ?_)
        rw [Run.andThen_of_ok ((h e he).eval_eq hw)]
        rfl
      rw [eval, Evaluation.node_leaf _ hnode]
      simp only [Evaluation.leaf]
      split
      · rw [Run.bind_of_ok hfields]
        rfl
      · rfl
  | entry he hpart => exact (h _ he).mono (Nat.le_succ depth) u hpart w hw

theorem literalAt_null (env : Env) (names : List (List String)) (depth : Nat) :
    LiteralAt env names (depth + 1) .null := by
  intro u hu w _
  cases hu
  rfl

end Literals

/-- Literals are ranked by the depth within which they evaluate to themselves. -/
theorem Literal.ranked (env : Env) (names : List (List String)) :
    Json.Ranked (LiteralAt env names) where
  mono := LiteralAt.mono
  item := LiteralAt.item
  entry := LiteralAt.entry
  null := literalAt_null env names
  array := LiteralAt.array
  object := LiteralAt.object

/-! ### Computations that agree -/

/-- Two computations do the same where the given names are in scope, and leave them in scope. -/
def Run.Agrees {ε α : Type} (names : List (List String)) (m m' : Run ε α) : Prop :=
  ∀ w : World, w.names = names → m w = m' w ∧ (m w).2.names = names

namespace Run.Agrees

variable {ε ε' α β : Type} {names : List (List String)}

theorem of_keeps {m : Run ε α} (h : ∀ w, (m w).2.names = w.names) : m.Agrees names m :=
  fun w hw => ⟨rfl, (h w).trans hw⟩

/-- What follows has to agree where the first part leads. -/
theorem andThen {m m' : Run ε α} {f f' : α → Run ε β} (hm : m.Agrees names m')
    (hf : ∀ a, m.LeadsFrom (·.names = names) a → (f a).Agrees names (f' a)) :
    (Run.andThen m f).Agrees names (Run.andThen m' f') := by
  intro w hw
  obtain ⟨heq, hnames⟩ := hm w hw
  rcases h : m w with ⟨_ | e | a, w₁⟩ <;> rw [h] at heq hnames
  · rw [Run.andThen_of_exhausted h, Run.andThen_of_exhausted heq.symm]
    exact ⟨rfl, hnames⟩
  · rw [Run.andThen_of_error h, Run.andThen_of_error heq.symm]
    exact ⟨rfl, hnames⟩
  · rw [Run.andThen_of_ok h, Run.andThen_of_ok heq.symm]
    exact hf a ⟨w, w₁, hw, h⟩ w₁ hnames

theorem attempt {m m' : Run ε α} (hm : m.Agrees names m') :
    (Run.attempt m : Run ε' _).Agrees names (Run.attempt m') := by
  intro w hw
  obtain ⟨heq, hnames⟩ := hm w hw
  exact ⟨by rw [attempt_apply, attempt_apply, heq], hnames⟩

theorem mapFailure (g : ε → ε') {m m' : Run ε α} (hm : m.Agrees names m') :
    (Run.mapFailure g m).Agrees names (Run.mapFailure g m') := by
  intro w hw
  obtain ⟨heq, hnames⟩ := hm w hw
  exact ⟨by rw [mapFailure_apply, mapFailure_apply, heq], hnames⟩

theorem cached (key : String) {m m' : Run OperatorFault Json} (hm : m.Agrees names m') :
    (Asking.cached key m).Agrees names (Asking.cached key m') := by
  intro w hw
  obtain ⟨heq, hnames⟩ := hm w hw
  unfold Asking.cached
  rw [← heq]
  split
  · exact ⟨rfl, hw⟩
  · refine ⟨rfl, ?_⟩
    rcases h : m w with ⟨_ | outcome, w₁⟩ <;> rw [h] at hnames <;> exact hnames

/-- The ways of building computations respect agreement. -/
theorem guided (env : Env) (names : List (List String)) :
    Run.Guided env (·.names = names) (fun m m' => m.Agrees names m') where
  ofExcept _ := of_keeps fun _ => rfl
  andThen := andThen
  attempt := attempt
  mapFailure := mapFailure
  cached key _ _ _ := cached key
  call _ _ _ _ := of_keeps fun _ => rfl
  http _ _ _ := of_keeps fun _ => rfl
  sql _ _ _ := of_keeps fun _ => rfl

end Run.Agrees

/-! ### Nodes -/

namespace Evaluation

variable {env : Env} {names : List (List String)} {depth : Nat} {node : Dict Json}

theorem eval_agrees {v : Json} (h : LiteralAt env names depth v) :
    (eval env depth v).Agrees names (Evaluator.verbatim v) := by
  intro w hw
  rw [h.eval_eq hw]
  exact ⟨rfl, hw⟩

/-- A literal comes to nothing but itself. -/
theorem eq_of_eval_leads {v u : Json} (h : LiteralAt env names depth v)
    (hu : (eval env depth v).LeadsFrom (·.names = names) u) : v = u := by
  obtain ⟨w, w', hw, hrun⟩ := hu
  cases (h.eval_eq hw).symm.trans hrun
  rfl

/-- The properties of an operator node are literals, and its children do not make a node of the
parameters of a request. -/
structure OfLiterals (env : Env) (names : List (List String)) (node : Dict Json) : Prop where
  literal : ∀ e ∈ node, e.1 ≠ Key.operator → Literal env names e.2
  plain : ∀ k items, operatorOf? env node = some k →
    Dict.get? node Key.children = some (.array items) → Children.MakesNoNode k items

/-- Within one depth all properties of a node of literals are literals. -/
theorem OfLiterals.exists_literalAt (h : OfLiterals env names node) :
    ∃ depth, ∀ e ∈ node, e.1 ≠ Key.operator → LiteralAt env names depth e.2 :=
  exists_forall_of_forall_exists
    (P := fun n (e : String × Json) => e.1 ≠ Key.operator → LiteralAt env names n e.2)
    (fun hle h hkey => (h hkey).mono hle) fun e he => by
      by_cases hkey : e.1 = Key.operator
      · exact ⟨0, fun hne => (hne hkey).elim⟩
      · obtain ⟨n, hn⟩ := (h.literal e he hkey).exists_literalAt
        exact ⟨n, fun _ => hn⟩

/-- **Nodes of literals are evaluated as they are written.** -/
theorem operatorBody_verbatim
    (literal : ∀ e ∈ node, e.1 ≠ Key.operator → LiteralAt env names depth e.2)
    (plain : ∀ k items, operatorOf? env node = some k →
      Dict.get? node Key.children = some (.array items) → Children.MakesNoNode k items) :
    (operatorBody env (eval env (depth + 3)) node).Agrees names
      (operatorBody env Evaluator.verbatim node) := by
  refine (Run.Agrees.guided env names).operatorBody (Literal.ranked env names)
    (fun v hv => eval_agrees hv) ⟨literal, plain, fun c hc hother items hleads => ?_,
      fun b _ _ hb v hleads => ?_⟩
  · -- A literal that is no array does not evaluate to one.
    have hc : LiteralAt env names (depth + 3) c :=
      (literal _ (Dict.mem_of_get? hc) (by decide : Key.children ≠ Key.operator)).mono
        (Nat.le_add_right depth 3)
    exact hother items (eq_of_eval_leads hc hleads)
  · exact eq_of_eval_leads hb hleads ▸ hb

end Evaluation

end JsonExpr
