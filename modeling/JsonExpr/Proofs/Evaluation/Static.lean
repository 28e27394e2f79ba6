import JsonExpr.Host.Stock
import JsonExpr.Proofs.Evaluation.Guided
import JsonExpr.Proofs.Evaluation.Lookup
import JsonExpr.Proofs.Json.Part
import JsonExpr.Proofs.Registry

/-!
# The static part of the language

Where no node names a fragment, and children and the branches of a match are written out, everything
that is evaluated is written in the expression.  References are the exception: the name of a binding
leads to an expression further out, so what is evaluated next need not be smaller.  What carries the
argument is that a bound expression sees only the frames outside its own.  So the scopes are ordered
before the expressions are: an expression halts in a scope if the expressions in scope halt where
they are bound, and those are fewer in each of the scopes outside.

The values that bindings have so far, the cache and the history decide which way an evaluation goes,
but not whether it ends, and so one depth does for all of them.

One thing is not written in the expression.  The children of a request name its parameters, and with
the right names the parameters are taken for a node when they are evaluated.  Then the request leads
to a fragment after all, and evaluation need not end.

Main definitions:

* `JsonExpr.Static`, `JsonExpr.NamesNoNode` — the static part of the language, and requests whose
  parameters are no node;
* `JsonExpr.World.expressions` — the expressions in scope;
* `JsonExpr.Run.Halts` — a computation that finishes wherever certain expressions are in scope;
* `JsonExpr.HaltsAt` — a value that is evaluated within some depth with all its parts;
* `JsonExpr.AllHalt` — expressions in scope that halt where they are bound;
* `JsonExpr.Run.Exhausts` — a computation that runs out of depth in every world.

Main results:

* `JsonExpr.Run.Halts.reference` — a reference halts if the expressions in scope do;
* `JsonExpr.Static.exists_haltsAt` — expressions of the static part halt where the expressions in
  scope do;
* `JsonExpr.static_evaluation_finishes` — **evaluation of the static part finishes**;
* `JsonExpr.request_for_fragment_never_finishes` — **a request whose parameters name a fragment need
  not finish**.
-/

set_option autoImplicit false

namespace JsonExpr

/-! ### The static part -/

/-- An object that names no fragment, and whose children and branches, if it has any, are written
out: children as an array, and branches as an array or as an object that is no operator node. -/
structure StaticObject (fields : Dict Json) : Prop where
  noFragment : Dict.hasKey fields Key.fragment = false
  children : ∀ e ∈ fields, e.1 = Key.children → e.2.isArray = true
  branches : ∀ e ∈ fields, e.1 = "branches" ∨ e.1 = "arms" →
    e.2.isArray = true ∨ e.2.isObject = true ∧ isOperatorNode e.2 = false

/-- An expression of the static part of the language. -/
def Static (v : Json) : Prop := ∀ fields, Json.Part (.object fields) v → StaticObject fields

/-- The children of requests in an expression do not name their parameters like a node. -/
def NamesNoNode (env : Env) (v : Json) : Prop :=
  ∀ fields k items, Json.Part (.object fields) v → Evaluation.operatorOf? env fields = some k →
    Dict.get? fields Key.children = some (.array items) → Children.MakesNoNode k items

/-- Branches of the static part are not computed. -/
theorem Static.isLiteral_branches {fields : Dict Json} (h : Static (.object fields)) {b : Json}
    (hb : Dict.get? (ownProps OperatorKind.matching.schema fields) "branches" = some b) :
    Branching.isLiteral b = true := by
  obtain ⟨key, hmem, -, hname⟩ := exists_of_mem_ownProps (Dict.mem_of_get? hb)
  rcases (h fields .self).branches _ hmem (branches_or_arms hname) with harray | ⟨hobject, hoperator⟩
  · obtain ⟨items, rfl⟩ := Json.eq_array_of_isArray harray
    rfl
  · obtain ⟨entries, rfl⟩ := Json.eq_object_of_isObject hobject
    have hfragment : isFragmentNode (.object entries) = false :=
      (h entries (.entry hmem .self)).noFragment
    dsimp only at hoperator
    rw [Branching.isLiteral, isNode, hoperator, hfragment]
    rfl

/-! ### The expressions in scope -/

/-- The expressions that each frame in scope binds, innermost first. -/
def World.expressions (w : World) : List (Dict Json) :=
  w.scope.map (Dict.mapValues Slot.expression)

/-- The expressions in scope inside a node. -/
def boundInside (node : Dict Json) (bound : List (Dict Json)) : List (Dict Json) :=
  if (Dict.filterKeys isBindingName node).isEmpty then bound
  else Dict.filterKeys isBindingName node :: bound

theorem Frame.isEmpty_ofNode (node : Dict Json) :
    (Frame.ofNode node).isEmpty = (Dict.filterKeys isBindingName node).isEmpty := by
  simp [Frame.ofNode, Dict.mapValues]

theorem Frame.expressions_ofNode (node : Dict Json) :
    Dict.mapValues Slot.expression (Frame.ofNode node) = Dict.filterKeys isBindingName node := by
  simp [Frame.ofNode, Dict.mapValues, Function.comp_def]

theorem World.expressions_enter (w : World) (node : Dict Json) :
    (w.enter (Frame.ofNode node)).expressions = boundInside node w.expressions := by
  unfold World.enter boundInside
  rw [Frame.isEmpty_ofNode]
  split
  · rfl
  · rw [World.expressions, List.map_cons, Frame.expressions_ofNode, World.expressions]

theorem World.expressions_leave {w : World} {node : Dict Json} {bound : List (Dict Json)}
    (h : w.expressions = boundInside node bound) :
    (w.leave (Frame.ofNode node)).expressions = bound := by
  unfold World.leave boundInside at *
  rw [Frame.isEmpty_ofNode]
  split
  · next hempty => rwa [if_pos hempty] at h
  · next hempty =>
    rw [if_neg hempty] at h
    simpa only [World.expressions, List.map_tail, List.tail_cons] using congrArg List.tail h

/-- A value that is kept for a binding leaves its expression. -/
theorem Frame.expressions_insert {frame : Frame} {name : String} {slot : Slot}
    (h : Dict.get? frame name = some slot) (kept : Option Json) (evaluations : Nat) :
    Dict.mapValues Slot.expression (Dict.insert frame name ⟨slot.expression, kept, evaluations⟩) =
      Dict.mapValues Slot.expression frame := by
  have hget : Dict.get? (Dict.mapValues Slot.expression frame) name = some slot.expression := by
    rw [Dict.get?_mapValues, h]
    rfl
  have hmap := Dict.map_insert (fun _ s => Slot.expression s) frame name
    ⟨slot.expression, kept, evaluations⟩
  exact hmap.trans (Dict.insert_of_get? hget)

/-! ### Computations that halt -/

/-- A computation that finishes wherever the given expressions are in scope, and leaves them in
scope. -/
def Run.Halts {ε α : Type} (bound : List (Dict Json)) (m : Run ε α) : Prop :=
  ∀ w : World, w.expressions = bound →
    (∃ outcome, (m w).1 = some outcome) ∧ (m w).2.expressions = bound

namespace Run.Halts

variable {ε ε' α β : Type} {bound : List (Dict Json)}

theorem of_scope {m : Run ε α} (hfinished : ∀ w, ∃ outcome, (m w).1 = some outcome)
    (hscope : ∀ w, (m w).2.scope = w.scope) : m.Halts bound := by
  intro w hw
  refine ⟨hfinished w, ?_⟩
  rw [World.expressions, hscope, ← World.expressions, hw]

theorem ofExcept (outcome : Except ε α) : (Run.ofExcept outcome).Halts bound :=
  of_scope (fun _ => ⟨outcome, rfl⟩) fun _ => rfl

theorem andThen {m : Run ε α} {f : α → Run ε β} (hm : m.Halts bound)
    (hf : ∀ a, m.LeadsFrom (·.expressions = bound) a → (f a).Halts bound) :
    (Run.andThen m f).Halts bound := by
  intro w hw
  obtain ⟨⟨outcome, houtcome⟩, hkept⟩ := hm w hw
  rcases h : m w with ⟨_ | e | a, w₁⟩ <;> rw [h] at houtcome hkept
  · cases houtcome
  · rw [andThen_of_error h]
    exact ⟨⟨.error e, rfl⟩, hkept⟩
  · rw [andThen_of_ok h]
    exact hf a ⟨w, w₁, hw, h⟩ w₁ hkept

theorem attempt {m : Run ε α} (hm : m.Halts bound) :
    (Run.attempt m : Run ε' (Except ε α)).Halts bound := by
  intro w hw
  obtain ⟨⟨outcome, houtcome⟩, hkept⟩ := hm w hw
  exact ⟨⟨.ok outcome, by rw [attempt_apply, houtcome]; rfl⟩, hkept⟩

theorem mapFailure (g : ε → ε') {m : Run ε α} (hm : m.Halts bound) :
    (Run.mapFailure g m).Halts bound := by
  intro w hw
  obtain ⟨⟨outcome, houtcome⟩, hkept⟩ := hm w hw
  exact ⟨⟨outcome.mapError g, by rw [mapFailure_apply, houtcome]; rfl⟩, hkept⟩

theorem withFrame {node : Dict Json} {m : Run ε α} (hm : m.Halts (boundInside node bound)) :
    (Run.withFrame (Frame.ofNode node) m).Halts bound := by
  intro w hw
  obtain ⟨houtcome, hkept⟩ := hm (w.enter (Frame.ofNode node)) (by rw [w.expressions_enter, hw])
  exact ⟨houtcome, World.expressions_leave hkept⟩

theorem cached (key : String) {m : Run OperatorFault Json} (hm : m.Halts bound) :
    (Asking.cached key m).Halts bound := by
  intro w hw
  unfold Asking.cached
  split
  · exact ⟨⟨_, rfl⟩, hw⟩
  · obtain ⟨⟨outcome, houtcome⟩, hkept⟩ := hm w hw
    rcases h : m w with ⟨_ | o, w₁⟩ <;> rw [h] at houtcome hkept
    · cases houtcome
    · exact ⟨⟨o, rfl⟩, hkept⟩

/-- The ways of building computations build computations that halt. -/
theorem guided (env : Env) (bound : List (Dict Json)) :
    Run.Guided env (·.expressions = bound) (fun m _ => m.Halts bound) where
  ofExcept := ofExcept
  andThen := andThen
  attempt := attempt
  mapFailure g _ _ := mapFailure g
  cached key _ _ _ := cached key
  call _ _ _ _ := of_scope (fun _ => ⟨_, rfl⟩) fun _ => rfl
  http _ _ _ := of_scope (fun _ => ⟨_, rfl⟩) fun _ => rfl
  sql _ _ _ := of_scope (fun _ => ⟨_, rfl⟩) fun _ => rfl

theorem traverse {f : α → Run ε β} {items : List α} (hf : ∀ a ∈ items, (f a).Halts bound) :
    (Run.traverse f items).Halts bound :=
  -- The relation does not depend on the environment nor on the second computation.
  @Run.Guided.traverse ⟨Options.empty, Registry.full⟩ _ _ ε α β (guided _ bound) f f items hf

end Run.Halts

/-! ### References -/

/-- All expressions in scope halt in the scope outside the frame that binds them. -/
def AllHalt (env : Env) (depth : Nat) : List (Dict Json) → Prop
  | [] => True
  | frame :: outer => (∀ e ∈ frame, (eval env depth e.2).Halts outer) ∧ AllHalt env depth outer

/-- A reference halts if the expressions in scope do. -/
theorem Run.Halts.reference {env : Env} {depth : Nat} {bound : List (Dict Json)}
    (h : AllHalt env depth bound) (name : String) :
    ((eval env depth).reference name).Halts bound := by
  rintro ⟨s, cache, history⟩ hw
  -- Frame by frame: a frame that does not bind the name is passed over.
  induction s generalizing bound with
  | nil => exact ⟨⟨.ok none, rfl⟩, hw⟩
  | cons frame outer ih =>
      subst hw
      obtain ⟨hframe, houter⟩ := h
      cases hget : Dict.get? frame name with
      | none =>
          rw [Evaluator.reference_of_get?_none hget]
          obtain ⟨houtcome, hkept⟩ := ih houter rfl
          exact ⟨houtcome, congrArg (_ :: ·) hkept⟩
      | some slot =>
          cases hv : slot.value with
          | some v =>
              rw [Evaluator.reference_of_value hget hv]
              exact ⟨⟨_, rfl⟩, rfl⟩
          | none =>
              have hmem : (name, slot.expression) ∈ Dict.mapValues Slot.expression frame :=
                Dict.mem_of_get? (by rw [Dict.get?_mapValues, hget]; rfl)
              obtain ⟨⟨outcome, houtcome⟩, hkept⟩ :=
                hframe _ hmem ⟨outer, cache, history⟩ rfl
              rw [Evaluator.reference_of_expression hget hv]
              refine ⟨⟨outcome.map some, by rw [houtcome]; rfl⟩, ?_⟩
              exact congrArg₂ (· :: ·) (Frame.expressions_insert hget _ _) hkept

/-! ### Values that halt -/

/-- A value that is evaluated within the given depth, with all its parts. -/
def HaltsAt (env : Env) (bound : List (Dict Json)) (depth : Nat) (v : Json) : Prop :=
  ∀ u, Json.Part u v → (eval env depth u).Halts bound

section Values

variable {env : Env} {bound : List (Dict Json)} {depth depth' : Nat} {v : Json}

theorem eval_halts_mono (hle : depth ≤ depth') (h : (eval env depth v).Halts bound) :
    (eval env depth' v).Halts bound := by
  intro w hw
  obtain ⟨⟨outcome, houtcome⟩, hkept⟩ := h w hw
  have hfinished : eval env depth v w = (some outcome, (eval env depth v w).2) :=
    Prod.ext houtcome rfl
  rw [eval_mono hle v w _ _ hfinished]
  exact ⟨⟨outcome, rfl⟩, hkept⟩

theorem AllHalt.mono (hle : depth ≤ depth') (h : AllHalt env depth bound) :
    AllHalt env depth' bound := by
  induction bound with
  | nil => trivial
  | cons frame outer ih => exact ⟨fun e he => eval_halts_mono hle (h.1 e he), ih h.2⟩

namespace HaltsAt

theorem mono (hle : depth ≤ depth') (h : HaltsAt env bound depth v) :
    HaltsAt env bound depth' v :=
  fun u hu => eval_halts_mono hle (h u hu)

theorem array {items : List Json} (h : ∀ v ∈ items, HaltsAt env bound depth v) :
    HaltsAt env bound (depth + 1) (.array items) := by
  intro u hu
  cases hu with
  | self =>
      have hitems : ((eval env depth).all items).Halts bound :=
        Run.Halts.traverse fun v hv => h v hv v .self
      exact hitems.andThen fun _ _ => .ofExcept _
  | item hv hpart => exact (h _ hv).mono (Nat.le_succ depth) u hpart

theorem object {fields : Dict Json} (h : ∀ e ∈ fields, HaltsAt env bound depth e.2)
    (hnode : isNode (.object fields) = false) :
    HaltsAt env bound (depth + 1) (.object fields) := by
  intro u hu
  cases hu with
  | self =>
      have hfields : ((eval env depth).fields fields).Halts bound :=
        Run.Halts.traverse fun e he => (h e he e.2 .self).andThen fun _ _ => .ofExcept _
      rw [eval, Evaluation.node_leaf _ hnode]
      simp only [Evaluation.leaf]
      split
      · exact hfields.andThen fun _ _ => .ofExcept _
      · exact .ofExcept _
  | entry he hpart => exact (h _ he).mono (Nat.le_succ depth) u hpart

/-- Values are ranked by the depth within which they are evaluated. -/
theorem ranked (env : Env) (bound : List (Dict Json)) : Json.Ranked (HaltsAt env bound) where
  mono := mono
  item h _ hv := fun u hu => h u (.item hv hu)
  entry h _ he := fun u hu => h u (.entry he hu)
  null _ := fun u hu => by
    cases hu
    exact .ofExcept _
  array := array
  object := object

/-- A string halts if the expressions in scope do. -/
theorem string (strings : env.options.readsStrings = false) (h : AllHalt env depth bound)
    (s : String) : HaltsAt env bound (depth + 1) (.string s) := by
  intro u hu
  cases hu
  have hnode : eval env (depth + 1) (.string s) =
      Evaluation.leaf env (eval env depth) (.string s) := by
    simp [eval, Evaluation.node, Evaluation.byKind, classify, strings]
  rw [hnode, Evaluation.leaf]
  split
  · exact (Run.Halts.reference h s).andThen fun _ _ => .ofExcept _
  · exact .ofExcept _

/-- An operator node of the static part halts if its entries do, inside of the node and around it. -/
theorem operatorNode {fields : Dict Json} (static : Static (.object fields))
    (plain : NamesNoNode env (.object fields)) (hoperator : Dict.hasKey fields Key.operator = true)
    (hinside : ∀ e ∈ fields, HaltsAt env (boundInside fields bound) depth e.2)
    (haround : ∀ e ∈ fields, HaltsAt env bound depth e.2) :
    HaltsAt env bound (depth + 4) (.object fields) := by
  intro u hu
  cases hu with
  | self =>
      have hbody : (Evaluation.operatorBody env (eval env (depth + 3)) fields).Halts
          (boundInside fields bound) := by
        refine @Run.Guided.operatorBody env _ _ _ (eval env (depth + 3)) _ depth fields
          (Run.Halts.guided env _) (ranked env _) (fun v hv => hv v .self) ⟨?_, ?_, ?_, ?_⟩
        · exact fun e he _ => hinside e he
        · exact fun k items hk hitems => plain fields k items .self hk hitems
        · -- Children are written out.
          intro c hc hother
          obtain ⟨items, hitems⟩ := Json.eq_array_of_isArray
            ((static fields .self).children _ (Dict.mem_of_get? hc) rfl)
          exact absurd hitems (hother items)
        · -- So are branches.
          intro b hb hliteral
          rw [static.isLiteral_branches hb] at hliteral
          cases hliteral
      rw [eval, Evaluation.node_operator env _ (static fields .self).noFragment hoperator]
      exact .withFrame hbody
  | entry he hpart => exact (haround _ he).mono (Nat.le_add_right depth 4) u hpart

end HaltsAt

/-- The expressions in scope inside a node halt where they are bound. -/
theorem AllHalt.inside {fields : Dict Json} (h : AllHalt env depth bound)
    (hentries : ∀ e ∈ fields, HaltsAt env bound depth e.2) :
    AllHalt env depth (boundInside fields bound) := by
  unfold boundInside
  split
  · exact h
  · exact ⟨fun e he => hentries e (List.mem_filter.mp he).1 e.2 .self, h⟩

/-- **Expressions of the static part halt where the expressions in scope do.** -/
theorem Static.exists_haltsAt (strings : env.options.readsStrings = false) (static : Static v)
    (plain : NamesNoNode env v) (hbound : AllHalt env depth bound) :
    ∃ depth, HaltsAt env bound depth v := by
  -- For all scopes at once, since entries of a node are evaluated inside of it and around it.
  induction v using Json.inductionOnParts generalizing bound depth with
  | array items ih =>
      obtain ⟨n, hn⟩ := exists_forall_of_forall_exists (P := HaltsAt env bound) HaltsAt.mono
        fun v hv => ih v hv (fun fields hu => static fields (.item hv hu))
          (fun fields k items hu => plain fields k items (.item hv hu)) hbound
      exact ⟨n + 1, .array hn⟩
  | object fields ih =>
      have hentries : ∀ {bound depth}, AllHalt env depth bound →
          ∃ n, ∀ e ∈ fields, HaltsAt env bound n e.2 := fun hbound =>
        exists_forall_of_forall_exists (P := fun n (e : String × Json) => HaltsAt env _ n e.2)
          HaltsAt.mono fun e he => ih e he (fun fields hu => static fields (.entry he hu))
            (fun fields k items hu => plain fields k items (.entry he hu)) hbound
      obtain ⟨n, haround⟩ := hentries hbound
      cases hoperator : Dict.hasKey fields Key.operator with
      | false =>
          have hnode : isNode (.object fields) = false := by
            rw [isNode_object, hoperator, (static fields .self).noFragment]
            rfl
          exact ⟨n + 1, .object haround hnode⟩
      | true =>
          -- The scope inside is good within the greater of two depths.
          have hscope : AllHalt env (max n depth) (boundInside fields bound) :=
            (hbound.mono (Nat.le_max_right n depth)).inside
              fun e he => (haround e he).mono (Nat.le_max_left n depth)
          obtain ⟨m, hinside⟩ := hentries hscope
          exact ⟨max n m + 4, .operatorNode static plain hoperator
            (fun e he => (hinside e he).mono (Nat.le_max_right n m))
            fun e he => (haround e he).mono (Nat.le_max_left n m)⟩
  | string s => exact ⟨depth + 1, .string strings hbound s⟩
  | _ =>
      refine ⟨1, fun u hu => ?_⟩
      cases hu
      exact .ofExcept _

/-- Expressions of the static part in scope halt where they are bound. -/
theorem exists_allHalt (strings : env.options.readsStrings = false) {bound : List (Dict Json)}
    (hbound : ∀ frame ∈ bound, ∀ e ∈ frame, Static e.2 ∧ NamesNoNode env e.2) :
    ∃ depth, AllHalt env depth bound := by
  induction bound with
  | nil => exact ⟨0, trivial⟩
  | cons frame outer ih =>
      obtain ⟨hframe, houter⟩ := List.forall_mem_cons.mp hbound
      obtain ⟨n, hn⟩ := ih houter
      obtain ⟨m, hm⟩ := exists_forall_of_forall_exists
        (P := fun n (e : String × Json) => HaltsAt env outer n e.2) HaltsAt.mono
        fun e he => (hframe e he).1.exists_haltsAt strings (hframe e he).2 hn
      exact ⟨max n m, fun e he => (hm e he).mono (Nat.le_max_right n m) e.2 .self,
        hn.mono (Nat.le_max_left n m)⟩

end Values

/-- **Evaluation of the static part finishes**: from some depth on it does, whatever the bindings in
scope have come to, whatever the cache holds and whatever the host was asked. -/
theorem static_evaluation_finishes {env : Env} (strings : env.options.readsStrings = false)
    {v : Json} (static : Static v) (plain : NamesNoNode env v) {bound : List (Dict Json)}
    (hbound : ∀ frame ∈ bound, ∀ e ∈ frame, Static e.2 ∧ NamesNoNode env e.2) :
    ∃ depth, ∀ depth' ≥ depth, ∀ w : World, w.expressions = bound →
      ∃ outcome w', eval env depth' v w = (some outcome, w') := by
  obtain ⟨n, hn⟩ := exists_allHalt strings hbound
  obtain ⟨depth, hdepth⟩ := static.exists_haltsAt strings plain hn
  refine ⟨depth, fun depth' hle w hw => ?_⟩
  obtain ⟨⟨outcome, houtcome⟩, -⟩ := hdepth.mono hle v .self w hw
  exact ⟨outcome, _, Prod.ext houtcome rfl⟩

/-! ### A chain of bindings -/

theorem Static.string (s : String) : Static (.string s) := fun _ hu => nomatch hu

theorem Static.array {items : List Json} (h : ∀ v ∈ items, Static v) : Static (.array items) := by
  intro fields hu
  cases hu with
  | item hv hpart => exact h _ hv fields hpart

theorem Static.object {fields : Dict Json} (own : StaticObject fields)
    (h : ∀ e ∈ fields, Static e.2) : Static (.object fields) := by
  intro other hu
  cases hu with
  | self => exact own
  | entry he hpart => exact h _ he other hpart

theorem NamesNoNode.string (env : Env) (s : String) : NamesNoNode env (.string s) :=
  fun _ _ _ hu => nomatch hu

theorem NamesNoNode.array {env : Env} {items : List Json} (h : ∀ v ∈ items, NamesNoNode env v) :
    NamesNoNode env (.array items) := by
  intro fields k children hu
  cases hu with
  | item hv hpart => exact h _ hv fields k children hpart

theorem NamesNoNode.object {env : Env} {fields : Dict Json}
    (own : ∀ k items, Evaluation.operatorOf? env fields = some k →
      Dict.get? fields Key.children = some (.array items) → Children.MakesNoNode k items)
    (h : ∀ e ∈ fields, NamesNoNode env e.2) : NamesNoNode env (.object fields) := by
  intro other k children hu
  cases hu with
  | self => exact own k children
  | entry he hpart => exact h _ he other k children hpart

/-- A conjunction of a binding from further out. -/
def conjunctionOfOuter : Dict Json := [(Key.operator, .string "and"), ("values", .string "$y")]

/-- A sum over a binding that fails, which is the fallback as well. -/
def sumOfFailing : Dict Json :=
  [(Key.operator, .string "+"), ("$x", .object conjunctionOfOuter),
    ("values", .array [.string "$x"]), (Key.fallback, .string "$x")]

/-- Evaluation finishes although neither the binding nor the fallback has a value. -/
theorem sum_of_failing_binding_finishes :
    let env : Env := ⟨Options.empty, Registry.full⟩
    let bound : List (Dict Json) := [[("$y", .string "$x")]]
    env.options.readsStrings = false ∧ Static (.object sumOfFailing) ∧
      NamesNoNode env (.object sumOfFailing) ∧
      (∀ frame ∈ bound, ∀ e ∈ frame, Static e.2 ∧ NamesNoNode env e.2) ∧
      ∃ depth, ∀ depth' ≥ depth, ∀ w : World, w.expressions = bound →
        ∃ outcome w', eval env depth' (.object sumOfFailing) w = (some outcome, w') := by
  intro env bound
  have hinner : Static (.object conjunctionOfOuter) := by
    refine .object ⟨rfl, by decide, by decide⟩ ?_
    simp [conjunctionOfOuter, Static.string]
  have hstatic : Static (.object sumOfFailing) := by
    refine .object ⟨rfl, by decide, by decide⟩ ?_
    simp [sumOfFailing, Static.string, hinner, Static.array]
  have hplain : NamesNoNode env (.object sumOfFailing) := by
    refine .object (fun _ _ _ h => nomatch h) ?_
    have hbinding : NamesNoNode env (.object conjunctionOfOuter) :=
      .object (fun _ _ _ h => nomatch h) (by simp [conjunctionOfOuter, NamesNoNode.string])
    simp [sumOfFailing, NamesNoNode.string, hbinding, NamesNoNode.array]
  have hbound : ∀ frame ∈ bound, ∀ e ∈ frame, Static e.2 ∧ NamesNoNode env e.2 := by
    simp [bound, Static.string, NamesNoNode.string]
  exact ⟨rfl, hstatic, hplain, hbound, static_evaluation_finishes rfl hstatic hplain hbound⟩

/-! ### A request for a fragment -/

/-- A computation that runs out of depth, whatever the world. -/
def Run.Exhausts {ε α : Type} (m : Run ε α) : Prop := ∀ w, (m w).1 = none

namespace Run.Exhausts

variable {ε ε' α β : Type} {m : Run ε α}

theorem bind (hm : m.Exhausts) (f : α → Run ε β) : (m >>= f).Exhausts := by
  intro w
  rw [bind_of_exhausted (Prod.ext (hm w) rfl)]

/-- What follows a value runs out of depth. -/
theorem bind_of_value {a : α} {f : α → Run ε β} (hm : ∀ w, m w = (some (.ok a), w))
    (hf : (f a).Exhausts) : (m >>= f).Exhausts := by
  intro w
  rw [bind_of_ok (hm w)]
  exact hf w

theorem attempt (hm : m.Exhausts) : (Run.attempt m : Run ε' (Except ε α)).Exhausts := by
  intro w
  rw [attempt_apply, hm w]
  rfl

theorem inside {ev : Evaluator Failure} {v : Json} (hm : (ev v).Exhausts) :
    (Evaluation.inside ev v).Exhausts := by
  intro w
  rw [Evaluation.inside, mapFailure_apply, hm w]
  rfl

/-- A node whose properties name no fallback runs out of depth if its operator does. -/
theorem operatorNode {env : Env} {ev : Evaluator Failure} {node : Dict Json} {k : OperatorKind}
    {props : Props} (hk : Evaluation.operatorOf? env node = some k)
    (hgather : ∀ w, Evaluation.gather ev k node w = (some (.ok props), w))
    (hfallback : Dict.hasKey props Key.fallback = false)
    (hmissing : Evaluation.missing k props = [])
    (hcompute : (Evaluation.compute env (Evaluation.inside ev) k props).Exhausts) :
    (Evaluation.operatorNode env ev node).Exhausts := by
  have happly : (Evaluation.apply env ev k node (Evaluation.fallbackOf node props)
      (Evaluation.withoutFallback props)).Exhausts := by
    rw [Evaluation.withoutFallback, hfallback, if_neg Bool.false_ne_true, Evaluation.apply, hmissing]
    exact (hcompute.attempt.bind _).bind _
  have hbody : (Evaluation.operatorBody env ev node).Exhausts := by
    unfold Evaluation.operatorBody
    rw [hk]
    exact bind_of_value (fun w => attempt_of_finished (hgather w)) happly
  exact fun w => hbody _

end Run.Exhausts

/-- The properties of a node that stands for the fragment `loop`. -/
def callLoop : Dict Json := [(Key.fragment, .string "loop")]

/-- A template that leads back to the fragment it defines. -/
def loopTemplate : Dict Json := [(Key.operator, .string "PASSTHRU"), ("value", .object callLoop)]

/-- A request with one parameter, which is called `fragment` and has the value `loop`. -/
def requestForFragment : Dict Json :=
  [(Key.operator, .string "GET"),
    (Key.children,
      .array [.string "http://h", .array [.string Key.fragment], .string "loop"])]

/-- An environment in which the template is the fragment `loop`. -/
structure Env.Loops (env : Env) : Prop where
  passthru : env.registry.resolve? "PASSTHRU" = some .passthru
  get : env.registry.resolve? "GET" = some .get
  strings : env.options.readsStrings = false
  shorthand : env.options.expandsShorthand = false
  fragment : (env.options.fragments.bind fun fragments => Dict.get? fragments "loop") =
    some (.object loopTemplate)

section Loops

variable {env : Env} {ev : Evaluator Failure}

theorem Run.Exhausts.of_loopTemplate (loops : env.Loops) (h : (ev (.object callLoop)).Exhausts) :
    (Evaluation.operatorNode env ev loopTemplate).Exhausts := by
  have hk : Evaluation.operatorOf? env loopTemplate = some .passthru := by
    have hname : (Dict.get? loopTemplate Key.operator).bind Json.asString? = some "PASSTHRU" := rfl
    rw [Evaluation.operatorOf?, hname, Option.bind_some, loops.passthru]
  have hown : ownProps OperatorKind.passthru.schema loopTemplate =
      [("value", .object callLoop)] := rfl
  have hgather : ∀ w, Evaluation.gather ev .passthru loopTemplate w =
      (some (.ok [("value", .object callLoop)]), w) := by
    intro w
    rw [Evaluation.gather, hown]
    rfl
  have hoperands : ((Evaluation.inside ev).operands [("value", .object callLoop)]
      ["value"]).Exhausts := ((h.inside.bind _).bind _).bind _
  have hcompute : (Evaluation.compute env (Evaluation.inside ev) .passthru
      [("value", .object callLoop)]).Exhausts := hoperands.bind _
  exact .operatorNode hk hgather rfl rfl hcompute

theorem Run.Exhausts.of_callLoop (loops : env.Loops)
    (hname : ∀ w, ev (.string "loop") w = (some (.ok (.string "loop")), w))
    (h : (ev (.object loopTemplate)).Exhausts) :
    (Evaluation.fragmentNode env ev callLoop).Exhausts := by
  intro w
  have hoptional : ev.optional (some (.string "loop")) w =
      (some (.ok (some (.string "loop"))), w) := Run.andThen_of_ok (hname w)
  have hfragment : Evaluation.fragmentName ev callLoop w = (some (.ok "loop"), w) :=
    Run.bind_of_ok hoptional
  have hparameters : Evaluation.parametersOf ev callLoop w = (some (.ok none), w) := rfl
  have htemplate : Evaluation.templateOf env (.object loopTemplate) = .object loopTemplate := by
    rw [Evaluation.templateOf, loops.shorthand]
    rfl
  have hoperator : Dict.hasKey loopTemplate Key.operator = true := rfl
  have hinstance : FragmentDefinition.instantiate callLoop loopTemplate none =
      .object loopTemplate := rfl
  rw [Evaluation.fragmentNode, Run.bind_of_ok hfragment, loops.fragment]
  dsimp only
  rw [Run.bind_of_ok hparameters, htemplate]
  dsimp only
  rw [if_pos hoperator, hinstance]
  exact h w

/-- A fragment that leads back to itself runs out of any depth. -/
theorem eval_callLoop_exhausts (loops : env.Loops) (depth : Nat) :
    (eval env depth (.object callLoop)).Exhausts := by
  -- The fragment leads to the template, and the template to the fragment, two levels down.
  induction depth using Nat.strongRecOn with
  | ind depth ih =>
      match depth with
      | 0 => exact fun _ => rfl
      | 1 => exact fun _ => rfl
      | depth + 2 =>
          have htemplate : (eval env (depth + 1) (.object loopTemplate)).Exhausts := by
            rw [eval, Evaluation.node_operator env _ rfl rfl]
            exact .of_loopTemplate loops (ih depth (by omega))
          rw [eval, Evaluation.node_fragment env _ rfl]
          exact .of_callLoop loops (eval_text loops.strings rfl depth) htemplate

/-- So does a request whose parameters are taken for that fragment. -/
theorem eval_requestForFragment_exhausts (loops : env.Loops) (depth : Nat) :
    (eval env depth (.object requestForFragment)).Exhausts := by
  cases depth with
  | zero => exact fun _ => rfl
  | succ depth =>
      have hk : Evaluation.operatorOf? env requestForFragment = some .get := by
        have hname : (Dict.get? requestForFragment Key.operator).bind Json.asString? =
            some "GET" := rfl
        rw [Evaluation.operatorOf?, hname, Option.bind_some, loops.get]
      have hgather : ∀ w, Evaluation.gather (eval env depth) .get requestForFragment w =
          (some (.ok [("url", .string "http://h"), ("parameters", .object callLoop)]), w) :=
        fun w => rfl
      have hoperands : (Asking.requestOperands (Evaluation.inside (eval env depth))
          [("url", .string "http://h"), ("parameters", .object callLoop)]
          ["url", "returnProperty", "useCache"] ["parameters", "headers"]).Exhausts := by
        cases depth with
        | zero => exact fun _ => rfl
        | succ depth =>
            have hurl : ∀ w, Evaluation.inside (eval env (depth + 1)) (.string "http://h") w =
                (some (.ok (.string "http://h")), w) := fun w =>
              Evaluation.inside_of_ok (eval_text loops.strings rfl depth w)
            have hnames : ∀ w, (Evaluation.inside (eval env (depth + 1))).operands
                [("url", .string "http://h"), ("parameters", .object callLoop)]
                ["url", "returnProperty", "useCache"] w =
                (some (.ok [("url", some (.string "http://h")), ("returnProperty", none),
                  ("useCache", none)]), w) := by
              intro w
              simp [Evaluator.operands, Run.traverse, Run.andThen, Dict.get?, Evaluator.optional,
                hurl, Run.value]
            -- The parameters are taken for a node.
            have hloop := (eval_callLoop_exhausts loops (depth + 1)).inside
            exact .bind_of_value hnames ((((hloop.bind _).bind _).bind _).bind _)
      rw [eval, Evaluation.node_operator env _ rfl rfl]
      exact .operatorNode hk hgather rfl rfl (hoperands.bind _)

end Loops

/-- The environment of a host in which the template is the only fragment. -/
def Env.looping : Env :=
  ⟨{ Options.empty with
      fragments := some [("loop", .object loopTemplate)],
      httpClient := some (.canned 0 [("http://h", .null)]) }, Registry.full⟩

theorem Env.looping_loops : Env.looping.Loops where
  passthru := Registry.resolve?_name .passthru
  get := Registry.resolve?_name .get
  strings := rfl
  shorthand := rfl
  fragment := rfl

/-- **A request whose parameters name a fragment need not finish.**  No object of the request names
a fragment, and its children are written out. -/
theorem request_for_fragment_never_finishes :
    Env.looping.options.readsStrings = false ∧ Static (.object requestForFragment) ∧
      ∀ depth w, (eval Env.looping depth (.object requestForFragment) w).1 = none := by
  refine ⟨rfl, ?_, ?_⟩
  · refine .object ⟨rfl, by decide, by decide⟩ ?_
    simp [requestForFragment, Static.string, Static.array]
  · exact eval_requestForFragment_exhausts Env.looping_loops

end JsonExpr
