import JsonExpr.Proofs.Evaluation.Fallback
import JsonExpr.Proofs.Operator.Weight

/-!
# What a node is made of

An operator node evaluates entries of its own, parts of them, and what children are built into.  So
two evaluators that are related on those values are related on the node, whatever they do elsewhere.
What a computation leads to matters here: the properties that a node gathers, and the branches that
another node computes, are known only from there.

Values may be evaluated within a rank.  Arrays and objects that are built from values have the next
rank, and no children are built into more than two layers.

Main definitions:

* `JsonExpr.Run.LeadsFrom` — a value that a computation comes to in some of the given worlds;
* `JsonExpr.Run.Guided` — a relation that the ways of building computations respect, with what
  follows a computation related only where the computation leads;
* `JsonExpr.Json.Ranked` — values that may be evaluated within a rank;
* `JsonExpr.Evaluation.MadeOf` — nodes made of such values.

Main results:

* `JsonExpr.Evaluation.MadeOf.of_gather` — the properties that a node gathers;
* `JsonExpr.Run.Guided.operatorBody` — **evaluators that are related on what a node is made of are
  related on the node**.
-/

set_option autoImplicit false

namespace JsonExpr

/-! ### Relations along a computation -/

/-- A value that a computation comes to in some of the given worlds. -/
def Run.LeadsFrom {ε α : Type} (start : World → Prop) (m : Run ε α) (a : α) : Prop :=
  ∃ w w', start w ∧ m w = (some (.ok a), w')

/-- A relation between computations that the ways of building computations respect.  What follows a
computation needs to be related only for the values that the computation leads to from the given
worlds. -/
structure Run.Guided (env : Env) (start : World → Prop)
    (R : ∀ {ε α : Type}, Run ε α → Run ε α → Prop) : Prop where
  ofExcept : ∀ {ε α : Type} (outcome : Except ε α), R (Run.ofExcept outcome) (Run.ofExcept outcome)
  andThen : ∀ {ε α β : Type} {m m' : Run ε α} {f f' : α → Run ε β},
    R m m' → (∀ a, m.LeadsFrom start a → R (f a) (f' a)) → R (Run.andThen m f) (Run.andThen m' f')
  attempt : ∀ {ε ε' α : Type} {m m' : Run ε α},
    R m m' → R (Run.attempt m : Run ε' (Except ε α)) (Run.attempt m')
  mapFailure : ∀ {ε ε' α : Type} (g : ε → ε') {m m' : Run ε α},
    R m m' → R (Run.mapFailure g m) (Run.mapFailure g m')
  cached : ∀ (key : String) {m m' : Run OperatorFault Json}, m.AlwaysAsks →
    R m m' → R (Asking.cached key m) (Asking.cached key m')
  call : env.Permits .customFunctions → ∀ (f : HostFunction) (path : String) (args : List Json),
    R (f.ask path args) (f.ask path args)
  http : env.Permits .get ∨ env.Permits .post ∨ env.Permits .graphQL →
    ∀ (c : HttpClient) (request : HttpRequest), R (c.ask request) (c.ask request)
  sql : env.Permits .pgSql → ∀ (c : SqlConnection) (query : SqlQuery), R (c.ask query) (c.ask query)

/-! ### Ranks -/

/-- Values that may be evaluated within a rank, closed under parts; what is built of them may be
evaluated within the next one. -/
structure Json.Ranked (P : Nat → Json → Prop) : Prop where
  mono : ∀ {n m : Nat} {v : Json}, n ≤ m → P n v → P m v
  item : ∀ {n : Nat} {items : List Json}, P n (.array items) → ∀ v ∈ items, P n v
  entry : ∀ {n : Nat} {fields : Dict Json}, P n (.object fields) → ∀ e ∈ fields, P n e.2
  null : ∀ n : Nat, P (n + 1) .null
  array : ∀ {n : Nat} {items : List Json}, (∀ v ∈ items, P n v) → P (n + 1) (.array items)
  object : ∀ {n : Nat} {fields : Dict Json}, (∀ e ∈ fields, P n e.2) →
    isNode (.object fields) = false → P (n + 1) (.object fields)

namespace Json.Ranked

variable {P : Nat → Json → Prop}

/-- Values within a rank weigh nothing. -/
def weighing (hP : Ranked P) (n : Nat) : Weighing := .weightless (P n) hP.item hP.entry

theorem builds (hP : Ranked P) (n : Nat) : (hP.weighing (n + 1)).Builds (hP.weighing (n + 2)) where
  keeps hv := ⟨hP.mono (Nat.le_succ _) hv, Nat.le_refl 0⟩
  null := ⟨hP.null n, rfl⟩
  array hitems := ⟨hP.array hitems, Nat.zero_le _⟩
  object hfields hnode := ⟨hP.object hfields hnode, Nat.zero_le _⟩

end Json.Ranked

/-! ### Objects -/

/-- An object is a node by its keys. -/
theorem isNode_object (fields : Dict Json) :
    isNode (.object fields) =
      (Dict.hasKey fields Key.operator || Dict.hasKey fields Key.fragment) := rfl

/-- An object that is no node is evaluated as a leaf. -/
theorem Evaluation.node_leaf {env : Env} (ev : Evaluator Failure) {fields : Dict Json}
    (h : isNode (.object fields) = false) :
    node env ev (.object fields) = leaf env ev (.object fields) := by
  rw [isNode_object, Bool.or_eq_false_iff] at h
  simp [node, byKind, classify, Json.asString?, h.1, h.2]

/-- A string that holds no node, where strings are read, is evaluated as a leaf. -/
theorem Evaluation.node_text {env : Env} (ev : Evaluator Failure) {s : String}
    (h : env.options.readsStrings = true → nodeInString? s = none) :
    node env ev (.string s) = leaf env ev (.string s) := by
  have hheld : ((Json.string s).asString?.filter fun _ => env.options.readsStrings).bind
      nodeInString? = none := by
    cases hreads : env.options.readsStrings with
    | false => rfl
    | true => exact h hreads
  rw [node, hheld]
  rfl

/-! ### Properties -/

namespace Evaluation

variable {env : Env} {start : World → Prop} {ev : Evaluator Failure} {P : Nat → Json → Prop}
  {n : Nat} {k : OperatorKind} {node : Dict Json} {props : Props}

/-- Branches that are not written out are a property of the node itself. -/
theorem branches_of_gather {w w' : World} {b : Json}
    (h : gather ev .matching node w = (some (.ok props), w'))
    (hb : Dict.get? props "branches" = some b) (hliteral : Branching.isLiteral b = false) :
    Dict.get? (ownProps OperatorKind.matching.schema node) "branches" = some b := by
  rcases gather_eq_ok h with ⟨-, rfl, -⟩ | ⟨c, items, -, -, hplaced⟩
  · exact hb
  · simp only [placeChildren] at hplaced
    cases hpairs : Children.pairs? "match" "value" (items.drop 1) with
    | none =>
        rw [hpairs] at hplaced
        cases hplaced
    | some entries =>
        rw [hpairs] at hplaced
        cases hplaced
        rw [Dict.get?_insert_self] at hb
        cases hb
        cases hliteral

/-- Taking the fallback out leaves properties. -/
theorem mem_of_mem_withoutFallback {e : String × Json} (h : e ∈ withoutFallback props) :
    e ∈ props := by
  unfold withoutFallback at h
  split at h
  · next hkey =>
    obtain ⟨v, hv⟩ := Option.isSome_iff_exists.mp hkey
    exact (Dict.perm_swapRemove hv).mem_iff.mpr (List.mem_cons_of_mem _ h)
  · exact h

/-- A node whose entries may be evaluated within a rank: its children do not name parameters like a
node, they are written out or come to no array, and so do the branches of a match unless what they
come to may be evaluated as well. -/
structure MadeOf (env : Env) (start : World → Prop) (ev : Evaluator Failure)
    (P : Nat → Json → Prop) (n : Nat) (node : Dict Json) : Prop where
  entries : ∀ e ∈ node, e.1 ≠ Key.operator → P n e.2
  plain : ∀ k items, operatorOf? env node = some k →
    Dict.get? node Key.children = some (.array items) → Children.MakesNoNode k items
  children : ∀ c, Dict.get? node Key.children = some c → (∀ items, c ≠ .array items) →
    ∀ items, ¬ (ev c).LeadsFrom start (.array items)
  branches : ∀ b, Dict.get? (ownProps OperatorKind.matching.schema node) "branches" = some b →
    Branching.isLiteral b = false → P (n + 3) b → ∀ v, (ev b).LeadsFrom start v → P (n + 3) v

namespace MadeOf

variable (hP : Json.Ranked P)

include hP

theorem get? (h : MadeOf env start ev P n node) {key : String} {v : Json}
    (hkey : key ≠ Key.operator) (hv : Dict.get? node key = some v) : P (n + 3) v :=
  hP.mono (Nat.le_add_right n 3) (h.entries _ (Dict.mem_of_get? hv) hkey)

theorem own (h : MadeOf env start ev P n node) (k : OperatorKind) :
    (hP.weighing (n + 1)).Fits k.reads 0 (ownProps k.schema node) := by
  refine (Weighing.ownProps_fits fun e he hreserved => ?_).mono (Nat.le_of_eq (Weighing.sum_zero _))
  refine hP.mono (Nat.le_succ n) (h.entries e he fun heq => ?_)
  rw [heq] at hreserved
  exact absurd hreserved (by decide)

/-- What a node gathers may be evaluated, three ranks up. -/
theorem of_gather (h : MadeOf env start ev P n node) (hk : operatorOf? env node = some k)
    (hgather : (gather ev k node).LeadsFrom start props) : ∀ e ∈ props, P (n + 3) e.2 := by
  obtain ⟨w, w', hw, hrun⟩ := hgather
  have hown := h.own hP k
  rcases gather_eq_ok hrun with ⟨-, rfl, -⟩ | ⟨children, items, hchildren, hitems, hplaced⟩
  · exact fun e he => hP.mono (by omega) (hown.covers e he)
  · rcases childList_eq_ok hitems with ⟨rfl, -⟩ | ⟨hother, hcomputed⟩
    · have harray : P n (.array items) :=
        h.entries _ (Dict.mem_of_get? hchildren) (by decide : Key.children ≠ Key.operator)
      exact (Weighing.placeChildren_fits (hP.builds n) (hP.builds (n + 1)) hown
        (fun v hv => hP.mono (Nat.le_succ n) (hP.item harray v hv))
        (h.plain k items hk hchildren) hplaced).covers
    · exact (h.children children hchildren hother items ⟨w, _, hw, hcomputed⟩).elim

end MadeOf

end Evaluation

/-! ### Nodes -/

namespace Run.Guided

variable {env : Env} {start : World → Prop} {R : ∀ {ε α : Type}, Run ε α → Run ε α → Prop}

section Plain

variable {ε ε' α β : Type}

theorem value (C : Guided env start R) (a : α) : R (Run.value a : Run ε α) (Run.value a) :=
  C.ofExcept (.ok a)

theorem fail (C : Guided env start R) (e : ε) : R (Run.fail e : Run ε α) (Run.fail e) :=
  C.ofExcept (.error e)

theorem bind (C : Guided env start R) {m m' : Run ε α} {f f' : α → Run ε β} (hm : R m m')
    (hf : ∀ a, m.LeadsFrom start a → R (f a) (f' a)) : R (m >>= f) (m' >>= f') :=
  C.andThen hm hf

/-- What follows is related whatever the first part leads to. -/
theorem bind_any (C : Guided env start R) {m m' : Run ε α} {f f' : α → Run ε β} (hm : R m m')
    (hf : ∀ a, R (f a) (f' a)) : R (m >>= f) (m' >>= f') :=
  C.bind hm fun a _ => hf a

theorem traverse (C : Guided env start R) {f f' : α → Run ε β} {items : List α}
    (hf : ∀ a ∈ items, R (f a) (f' a)) : R (Run.traverse f items) (Run.traverse f' items) := by
  induction items with
  | nil => exact C.value []
  | cons a rest ih =>
      obtain ⟨ha, hrest⟩ := List.forall_mem_cons.mp hf
      exact C.bind_any ha fun b => C.bind_any (ih hrest) fun bs => C.value (b :: bs)

end Plain

/-- For an operator, such a relation is a graded one that does not look at grades. -/
theorem graded (C : Guided env start R) :
    Run.Graded env (fun m a => m.LeadsFrom start a) (fun _ => 0) (fun _ {_} m m' => R m m') where
  mono _ h := h
  ofExcept := C.ofExcept
  andThen := C.andThen
  cached := C.cached
  call := C.call
  http := C.http
  sql := C.sql

section Nodes

variable {ev ev' : Evaluator Failure} {P : Nat → Json → Prop} {n : Nat} {k : OperatorKind}
  {node : Dict Json} {props : Props} {fallback : Option Json} {D : Json → Prop}

theorem inside (C : Guided env start R) (h : ∀ v, D v → R (ev v) (ev' v)) {v : Json} (hv : D v) :
    R (Evaluation.inside ev v) (Evaluation.inside ev' v) :=
  C.mapFailure _ (h v hv)

theorem fallbackOr (C : Guided env start R) (h : ∀ v, D v → R (ev v) (ev' v))
    (hfallback : ∀ f, fallback = some f → D f) (failure : Failure) :
    R (Evaluation.fallbackOr env ev fallback failure)
      (Evaluation.fallbackOr env ev' fallback failure) := by
  unfold Evaluation.fallbackOr
  split
  · exact h _ (hfallback _ rfl)
  · split
    · exact C.value _
    · exact C.fail _

theorem gather (C : Guided env start R) (h : ∀ v, D v → R (ev v) (ev' v))
    (hchildren : ∀ c, Dict.get? node Key.children = some c → D c) (k : OperatorKind) :
    R (Evaluation.gather ev k node) (Evaluation.gather ev' k node) := by
  unfold Evaluation.gather
  cases hc : Dict.get? node Key.children with
  | none => exact C.value _
  | some children =>
      refine C.bind_any ?_ fun _ => C.ofExcept _
      cases children with
      | array items => exact C.value items
      | _ =>
          refine C.bind_any (h _ (hchildren _ hc)) fun v => ?_
          cases v with
          | array items => exact C.value items
          | _ => exact C.fail _

theorem convert (C : Guided env start R) (h : ∀ v, D v → R (ev v) (ev' v))
    (hfallback : ∀ f, fallback = some f → D f)
    (hconversion : ∀ c, Evaluation.conversionOf node = some c → D c) (result : Json) :
    R (Evaluation.convert env ev k node fallback result)
      (Evaluation.convert env ev' k node fallback result) := by
  unfold Evaluation.convert
  cases hc : Evaluation.conversionOf node with
  | none => exact C.value _
  | some conversion =>
      refine C.bind_any (C.attempt (h _ (hconversion _ hc))) fun outcome => ?_
      cases outcome with
      | error failure => exact C.fallbackOr h hfallback failure
      | ok name =>
          dsimp only
          split
          · exact C.value _
          · exact C.fallbackOr h hfallback _

theorem apply (C : Guided env start R) {W : Weighing} (h : ∀ v, W.domain v → R (ev v) (ev' v))
    (permitted : env.Permits k) (hfallback : ∀ f, fallback = some f → W.domain f)
    (hconversion : ∀ c, Evaluation.conversionOf node = some c → W.domain c)
    (hprops : W.Covers props)
    (answers : k = .matching → Branching.AnswersWeighNothing W (fun m a => m.LeadsFrom start a)
      (Evaluation.inside ev) props) :
    R (Evaluation.apply env ev k node fallback props)
      (Evaluation.apply env ev' k node fallback props) := by
  unfold Evaluation.apply
  split
  · exact C.fallbackOr h hfallback _
  · refine C.bind_any ?_ fun result => C.convert h hfallback hconversion result
    have hcompute := C.graded.compute (W := W) (fun v hv => C.inside h hv) hprops permitted answers
      (fun _ _ _ _ _ _ => Nat.le_refl 0)
    refine C.bind_any (C.attempt hcompute) fun outcome => ?_
    cases outcome with
    | ok v => exact C.value v
    | error fault => exact C.fallbackOr h hfallback _

/-- **Evaluators that are related on what a node is made of are related on the node.** -/
theorem operatorBody (C : Guided env start R) (hP : Json.Ranked P)
    (h : ∀ v, P (n + 3) v → R (ev v) (ev' v))
    (made : Evaluation.MadeOf env start ev P n node) :
    R (Evaluation.operatorBody env ev node) (Evaluation.operatorBody env ev' node) := by
  have hfallback : ∀ f, Dict.get? node Key.fallback = some f → P (n + 3) f :=
    fun _ hf => made.get? hP (by decide) hf
  have hconversion : ∀ c, Evaluation.conversionOf node = some c → P (n + 3) c := by
    intro c hc
    rcases Option.or_eq_some_iff.mp hc with hc | ⟨-, hc⟩
    · exact made.get? hP (by decide) hc
    · exact made.get? hP (by decide) hc
  unfold Evaluation.operatorBody
  cases hk : Evaluation.operatorOf? env node with
  | none => exact C.fallbackOr h hfallback _
  | some k =>
      have hgather := C.gather h (fun _ hc => made.get? hP (by decide) hc) k
      refine C.bind (C.attempt hgather) fun outcome hleads => ?_
      cases outcome with
      | error failure => exact C.fallbackOr h hfallback failure
      | ok props =>
          obtain ⟨w, w', hw, hattempt⟩ := hleads
          have hrun := Run.eq_of_attempt hattempt
          have hprops := made.of_gather hP hk ⟨w, w', hw, hrun⟩
          refine C.apply (W := hP.weighing (n + 3)) h (Env.permits_of_operatorOf? hk)
            (fun f hf => ?_) hconversion (fun e he => hprops e (Evaluation.mem_of_mem_withoutFallback he))
            ?_
          · rcases Option.or_eq_some_iff.mp hf with hf | ⟨-, hf⟩
            · exact hprops _ (Dict.mem_of_get? hf)
            · exact hfallback f hf
          · -- What computed branches come to is known from the node itself.
            intro hmatching b hb hliteral v ⟨w₁, w₂, hw₁, hv⟩
            subst hmatching
            have hnone : Dict.hasKey props Key.fallback = false :=
              Evaluation.hasKey_of_gather (fun heq => by cases heq) hrun
            rw [Evaluation.withoutFallback, hnone] at hb
            have hown := Evaluation.branches_of_gather hrun hb hliteral
            exact ⟨made.branches b hown hliteral (hprops _ (Dict.mem_of_get? hb)) v
              ⟨w₁, w₂, hw₁, Evaluation.eval_of_inside hv⟩, rfl⟩

end Nodes

end Run.Guided

end JsonExpr
