import JsonExpr.Proofs.Engine
import JsonExpr.Proofs.Evaluation.Written

/-!
# Literals

A value without nodes evaluates to itself.  Arrays are put together again from the values of their
elements, and objects, if evaluation enters them, from those of their entries; a string may be read
as JSON text, but holds no node; and the name of a binding is left alone where nothing is bound.
This takes no more depth than the value has itself.

Inside a node the name of a binding may have another value, so only literals without such names
evaluate to themselves there.

Main definitions:

* `JsonExpr.Json.height` — how deep arrays and objects nest in a value;
* `JsonExpr.Nodeless` — values without nodes, also in strings.

Main results:

* `JsonExpr.Nodeless.literalAt` — where nothing is bound, values without nodes evaluate to
  themselves with all their parts;
* `JsonExpr.Engine.literals_evaluate_to_themselves` — **literals evaluate to themselves**.
-/

set_option autoImplicit false

namespace JsonExpr

/-! ### How deep values nest -/

namespace Json

mutual

/-- How deep arrays and objects nest in a value. -/
def height : Json → Nat
  | .array items => heightOfItems items + 1
  | .object fields => heightOfFields fields + 1
  | _ => 0

/-- How deep arrays and objects nest in values. -/
def heightOfItems : List Json → Nat
  | [] => 0
  | v :: rest => max (height v) (heightOfItems rest)

/-- How deep arrays and objects nest in the values of entries. -/
def heightOfFields : List (String × Json) → Nat
  | [] => 0
  | (_, v) :: rest => max (height v) (heightOfFields rest)

end

theorem height_le_of_mem {items : List Json} {v : Json} (h : v ∈ items) :
    height v ≤ heightOfItems items := by
  induction items with
  | nil => cases h
  | cons u rest ih =>
      rw [heightOfItems]
      rcases List.mem_cons.mp h with rfl | hrest
      · exact Nat.le_max_left _ _
      · exact Nat.le_trans (ih hrest) (Nat.le_max_right _ _)

theorem heightOfFields_eq (fields : Dict Json) :
    heightOfFields fields = heightOfItems (fields.map Prod.snd) := by
  induction fields with
  | nil => rfl
  | cons e rest ih => rw [heightOfFields, ih, List.map_cons, heightOfItems]

theorem height_lt_of_item {items : List Json} {v : Json} (h : v ∈ items) :
    height v < height (.array items) := by
  rw [height]
  exact Nat.lt_succ_of_le (height_le_of_mem h)

theorem height_lt_of_entry {fields : Dict Json} {e : String × Json} (h : e ∈ fields) :
    height e.2 < height (.object fields) := by
  rw [height, heightOfFields_eq]
  exact Nat.lt_succ_of_le (height_le_of_mem (List.mem_map_of_mem h))

end Json

/-! ### Values without nodes -/

/-- A value without nodes, also in the strings that are read as JSON text. -/
def Nodeless (env : Env) (v : Json) : Prop :=
  ∀ u, Json.Part u v → isNode u = false ∧
    ∀ s, u = .string s → env.options.readsStrings = true → Evaluation.nodeInString? s = none

namespace Nodeless

variable {env : Env} {v : Json}

theorem item {items : List Json} (h : Nodeless env (.array items)) : ∀ v ∈ items, Nodeless env v :=
  fun _ hv u hu => h u (.item hv hu)

theorem entry {fields : Dict Json} (h : Nodeless env (.object fields)) :
    ∀ e ∈ fields, Nodeless env e.2 :=
  fun _ he u hu => h u (.entry he hu)

theorem array {items : List Json} (h : ∀ v ∈ items, Nodeless env v) :
    Nodeless env (.array items) := by
  intro u hu
  cases hu with
  | self => exact ⟨rfl, fun _ hs => nomatch hs⟩
  | item hv hu => exact h _ hv u hu

theorem object {fields : Dict Json} (hnode : isNode (.object fields) = false)
    (h : ∀ e ∈ fields, Nodeless env e.2) : Nodeless env (.object fields) := by
  intro u hu
  cases hu with
  | self => exact ⟨hnode, fun _ hs => nomatch hs⟩
  | entry he hu => exact h _ he u hu

theorem text {s : String}
    (h : env.options.readsStrings = true → Evaluation.nodeInString? s = none) :
    Nodeless env (.string s) := by
  intro u hu
  cases hu
  refine ⟨rfl, fun t ht => ?_⟩
  cases ht
  exact h

theorem null : Nodeless env .null := by
  intro u hu
  cases hu
  exact ⟨rfl, fun _ hs => nomatch hs⟩

theorem number (n : Number) : Nodeless env (.number n) := by
  intro u hu
  cases hu
  exact ⟨rfl, fun _ hs => nomatch hs⟩

/-- A string that holds no node evaluates to itself where nothing is bound. -/
theorem eval_text {s : String} (h : Nodeless env (.string s)) (depth : Nat) {w : World}
    (hw : w.names = []) : eval env (depth + 1) (.string s) w = (some (.ok (.string s)), w) := by
  have hscope : w.scope = [] := List.map_eq_nil_iff.mp hw
  have hbound : (eval env depth).reference s w = (some (.ok none), w) := by
    rw [Evaluator.reference, hscope]
    rfl
  rw [eval, Evaluation.node_text _ ((h _ .self).2 s rfl), Evaluation.leaf]
  split
  · rw [Run.bind_of_ok hbound]
    rfl
  · rfl

/-- **Where nothing is bound, a value without nodes evaluates to itself** with all its parts, within
one more than its depth. -/
theorem literalAt (h : Nodeless env v) : LiteralAt env [] (v.height + 1) v := by
  induction v using Json.inductionOnParts with
  | array items ih =>
      exact LiteralAt.array fun v hv => (ih v hv (h.item v hv)).mono (Json.height_lt_of_item hv)
  | object fields ih =>
      exact LiteralAt.object
        (fun e he => (ih e he (h.entry e he)).mono (Json.height_lt_of_entry he)) (h _ .self).1
  | string s =>
      intro u hu w hw
      cases hu
      exact h.eval_text _ hw
  | _ =>
      intro u hu w _
      cases hu
      rfl

end Nodeless

/-! ### Engines -/

namespace Engine

/-- **Literals evaluate to themselves.**  Whatever the options of an engine are, and whatever are
laid over them, as long as shorthand is not in use: a value in which no object has an `operator` or a
`fragment` key, and no string holds such an object where strings are read, comes out as it is, with
its keys in order.  The host is asked nothing, and the cache is the one that the evaluation started
with, which is that of the engine unless the options bring a new bound. -/
theorem literals_evaluate_to_themselves (e : Engine) (overrides : Options) {v : Json}
    (noShorthand : (e.options.merge overrides).expandsShorthand = false)
    (noNodes : Nodeless (e.envWith overrides) v) {depth : Nat} (hdepth : v.height < depth) :
    e.evaluateWithin depth v overrides =
      (some (.ok v), { e with cache := e.cacheWith overrides }) := by
  have hprepare : prepare (e.envWith overrides) v = v := by
    have hexpands : (e.envWith overrides).options.expandsShorthand = false := noShorthand
    rw [prepare, hexpands, if_neg Bool.false_ne_true]
  have hliteral : LiteralAt (e.envWith overrides) [] depth v := noNodes.literalAt.mono hdepth
  have heval := hliteral.eval_eq (w := ⟨[], e.cacheWith overrides, e.history⟩) rfl
  rw [evaluateWithin, hprepare]
  dsimp only
  rw [heval]

/-- A literal with the name of a binding and with JSON text that is no node, where objects are
entered and strings are read. -/
theorem object_evaluates_to_itself :
    let e := Engine.new { evaluateFullObject := some true, allowJsonStringInput := some true }
    let v : Json := .object [("$x", .string "$y"),
      ("list", .array [Json.int 1, .object [("b", .string "[]"), ("a", .null)]])]
    e.evaluateWith v Options.empty = (some (.ok v), e) := by
  intro e v
  have inner : Nodeless (e.envWith Options.empty)
      (.object [("b", .string "[]"), ("a", .null)]) := by
    refine .object rfl (List.forall_mem_cons.mpr ⟨.text fun _ => rfl, ?_⟩)
    simpa using Nodeless.null
  have list : Nodeless (e.envWith Options.empty)
      (.array [Json.int 1, .object [("b", .string "[]"), ("a", .null)]]) :=
    .array (List.forall_mem_cons.mpr ⟨.number _, by simpa using inner⟩)
  have noNodes : Nodeless (e.envWith Options.empty) v :=
    .object rfl (List.forall_mem_cons.mpr ⟨.text fun _ => rfl, by simpa using list⟩)
  exact literals_evaluate_to_themselves e Options.empty rfl noNodes (by decide)

end Engine

end JsonExpr
