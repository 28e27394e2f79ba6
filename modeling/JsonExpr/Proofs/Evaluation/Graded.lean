import JsonExpr.Evaluation
import JsonExpr.Proofs.Dict
import Mathlib.Algebra.GroupWithZero.Nat

/-!
# What operators evaluate

An operator evaluates some of its properties, or parts of those that are written out, each at most
once.  So if the values that may be evaluated have weights, and an array or an object weighs at
least what its elements or entries weigh together, then evaluation on behalf of an operator uses up
no more than its properties weigh.  What using up means is left open: it is a family of relations
between computations, graded by numbers, that the ways of building computations respect.  With all
weights zero it is just a relation that operators respect.

Three things are outside the properties: the function that an operator calls of its own, which has a
cost; the results that a computed list of branches brings with it, which have to weigh nothing; and
the property `type`, which only two operators read.

Main definitions:

* `JsonExpr.Env.Permits` — an operator that some name resolves to;
* `JsonExpr.Weighing` — weights of the values that may be evaluated;
* `JsonExpr.Run.AlwaysAsks` — a computation that asks the host whatever happens;
* `JsonExpr.Run.Graded` — a graded family of relations between computations;
* `JsonExpr.OperatorKind.reads` — the properties an operator may read.

Main results:

* `JsonExpr.Weighing.sum_weightAt_le` — different names have different properties;
* `JsonExpr.Run.Graded.select_bind` — finding a branch and evaluating it uses up no more than all
  branches weigh;
* `JsonExpr.Run.Graded.compute` — **an operator uses up no more than its properties weigh**;
* `JsonExpr.Evaluation.compute_of_operatorsAgree` — the options that operators read.
-/

set_option autoImplicit false

namespace JsonExpr

/-- Some name resolves to the operator. -/
def Env.Permits (env : Env) (k : OperatorKind) : Prop :=
  ∃ name, env.registry.resolve? name = some k

/-! ### Weights -/

/-- Weights of the values that may be evaluated: those of elements and of entries add up to no more
than that of the whole. -/
structure Weighing where
  /-- The values that may be evaluated. -/
  domain : Json → Prop
  /-- The weight of a value. -/
  weight : Json → Nat
  domain_item : ∀ {items : List Json}, domain (.array items) → ∀ v ∈ items, domain v
  domain_entry : ∀ {fields : Dict Json}, domain (.object fields) → ∀ e ∈ fields, domain e.2
  weight_items : ∀ {items : List Json}, domain (.array items) →
    (items.map weight).sum ≤ weight (.array items)
  weight_entries : ∀ {fields : Dict Json}, domain (.object fields) →
    (fields.map fun e => weight e.2).sum ≤ weight (.object fields)

namespace Weighing

theorem sum_zero {α : Type} (items : List α) : (items.map fun _ => 0).sum = 0 := by
  rw [List.map_const', List.sum_replicate_nat, Nat.mul_zero]

/-- Nothing weighs anything, among values that are closed under parts. -/
def weightless (domain : Json → Prop)
    (item : ∀ {items : List Json}, domain (.array items) → ∀ v ∈ items, domain v)
    (entry : ∀ {fields : Dict Json}, domain (.object fields) → ∀ e ∈ fields, domain e.2) :
    Weighing where
  domain := domain
  weight _ := 0
  domain_item := item
  domain_entry := entry
  weight_items {items} _ := Nat.le_of_eq (sum_zero items)
  weight_entries {fields} _ := Nat.le_of_eq (sum_zero fields)

variable (W : Weighing)

/-- All values may be evaluated. -/
def Covers (d : Dict Json) : Prop := ∀ e ∈ d, W.domain e.2

/-- What the values weigh together. -/
def total (d : Dict Json) : Nat := (d.map fun e => W.weight e.2).sum

/-- The weight of a value that may be absent. -/
def option (v : Option Json) : Nat := (v.map W.weight).getD 0

/-- The weight of the value at a key. -/
def weightAt (d : Dict Json) (key : String) : Nat := W.option (Dict.get? d key)

variable {W} {d : Dict Json}

theorem Covers.domain_of_get? (h : W.Covers d) {key : String} {v : Json}
    (hv : Dict.get? d key = some v) : W.domain v :=
  h (key, v) (Dict.mem_of_get? hv)

theorem Covers.filterKeys (h : W.Covers d) (p : String → Bool) :
    W.Covers (Dict.filterKeys p d) :=
  fun e he => h e (List.mem_filter.mp he).1

theorem weightAt_of_get? {key : String} {v : Json} (hv : Dict.get? d key = some v) :
    W.weightAt d key = W.weight v := by
  rw [Weighing.weightAt, hv]
  rfl

theorem weightAt_filterKeys (p : String → Bool) (d : Dict Json) (key : String) :
    W.weightAt (Dict.filterKeys p d) key = if p key then W.weightAt d key else 0 := by
  rw [weightAt, Dict.get?_filterKeys]
  by_cases hp : p key = true
  · rw [if_pos hp, if_pos hp]
    rfl
  · rw [if_neg hp, if_neg hp]
    rfl

/-- Different names have different values, which weigh no more than all values together. -/
theorem sum_weightAt_le_total (d : Dict Json) {names : List String} (hnodup : names.Nodup) :
    (names.map (W.weightAt d)).sum ≤ W.total d := by
  induction d generalizing names with
  | nil =>
      have hzero : ∀ name ∈ names, W.weightAt [] name = 0 := fun name _ => rfl
      rw [List.map_congr_left hzero, sum_zero]
      exact Nat.zero_le _
  | cons e rest ih =>
      -- The names other than the key in front are read from the rest.
      have hrest : ∀ name, name ≠ e.1 → W.weightAt (e :: rest) name = W.weightAt rest name := by
        intro name hne
        simp only [Weighing.weightAt, Dict.get?, Ne.symm hne, if_false]
      have htotal : W.total (e :: rest) = W.weight e.2 + W.total rest := by
        simp [total]
      rw [htotal]
      by_cases hmem : e.1 ∈ names
      · obtain ⟨hnot, hnodup'⟩ := List.nodup_cons.mp
          ((List.perm_cons_erase hmem).nodup_iff.mp hnodup)
        have hat : W.weightAt (e :: rest) e.1 = W.weight e.2 := weightAt_of_get? (by simp [Dict.get?])
        have hothers : (names.erase e.1).map (W.weightAt (e :: rest)) =
            (names.erase e.1).map (W.weightAt rest) :=
          List.map_congr_left fun name hname => hrest name fun heq => hnot (heq ▸ hname)
        have hsum := ((List.perm_cons_erase hmem).map (W.weightAt (e :: rest))).sum_nat
        rw [List.map_cons, List.sum_cons, hothers, hat] at hsum
        have hle := ih hnodup'
        omega
      · have hothers : names.map (W.weightAt (e :: rest)) = names.map (W.weightAt rest) :=
          List.map_congr_left fun name hname => hrest name fun heq => hmem (heq ▸ hname)
        rw [hothers]
        have hle := ih hnodup
        omega

theorem weightAt_le_total (d : Dict Json) (key : String) : W.weightAt d key ≤ W.total d := by
  have hsum := sum_weightAt_le_total (W := W) d (by simp : [key].Nodup)
  simpa using hsum

/-- Different names that all satisfy `p` have values among those whose key does. -/
theorem sum_weightAt_le {p : String → Bool} {names : List String} (hnodup : names.Nodup)
    (hp : ∀ name ∈ names, p name = true) :
    (names.map (W.weightAt d)).sum ≤ W.total (Dict.filterKeys p d) := by
  have hread : names.map (W.weightAt d) = names.map (W.weightAt (Dict.filterKeys p d)) := by
    refine List.map_congr_left fun name hname => ?_
    rw [weightAt_filterKeys, if_pos (hp name hname)]
  rw [hread]
  exact sum_weightAt_le_total _ hnodup

theorem domain_field {v u : Json} (hv : W.domain v) {key : String} (hu : v.field? key = some u) :
    W.domain u := by
  cases v with
  | object fields => exact W.domain_entry hv _ (Dict.mem_of_get? hu)
  | _ => cases hu

/-- Two entries of one value weigh no more than the value. -/
theorem option_field_add_le {v : Json} (hv : W.domain v) {a b : String} (hne : a ≠ b) :
    W.option (v.field? a) + W.option (v.field? b) ≤ W.weight v := by
  cases v with
  | object fields =>
      have hnodup : [a, b].Nodup := by simpa using hne
      have hsum := sum_weightAt_le_total (W := W) fields hnodup
      have hweight := W.weight_entries hv
      rw [List.map_cons, List.map_singleton, List.sum_cons, List.sum_singleton] at hsum
      exact Nat.le_trans hsum hweight
  | _ => exact Nat.zero_le _

/-- Entries with a key and a value weigh no more than the values they are. -/
theorem entries_le {items : List Json} (hitems : ∀ v ∈ items, W.domain v) :
    (∀ entry ∈ items.filterMap Branching.entry?, W.domain entry.1 ∧ W.domain entry.2) ∧
      ((items.filterMap Branching.entry?).map fun entry =>
        W.weight entry.1 + W.weight entry.2).sum ≤ (items.map W.weight).sum := by
  induction items with
  | nil => exact ⟨(fun _ h => nomatch h), Nat.le_refl _⟩
  | cons v rest ih =>
      obtain ⟨hv, hrest⟩ := List.forall_mem_cons.mp hitems
      obtain ⟨hdomain, hsum⟩ := ih hrest
      rw [List.map_cons, List.sum_cons]
      cases hentry : Branching.entry? v with
      | none =>
          rw [List.filterMap_cons_none hentry]
          exact ⟨hdomain, Nat.le_trans hsum (Nat.le_add_left _ _)⟩
      | some entry =>
          have hfields : v.field? "key" = some entry.1 ∧ v.field? "value" = some entry.2 := by
            unfold Branching.entry? at hentry
            split at hentry
            · next key value hkey hvalue =>
              cases hentry
              exact ⟨hkey, hvalue⟩
            · cases hentry
          have hboth := option_field_add_le hv (by decide : "key" ≠ "value")
          rw [hfields.1, hfields.2] at hboth
          rw [List.filterMap_cons_some hentry, List.map_cons, List.sum_cons]
          refine ⟨List.forall_mem_cons.mpr ⟨⟨domain_field hv hfields.1, domain_field hv hfields.2⟩,
            hdomain⟩, Nat.add_le_add hboth hsum⟩

end Weighing

/-! ### Computations that ask -/

/-- A computation that never ends without having asked the host something. -/
def Run.AlwaysAsks {ε α : Type} (m : Run ε α) : Prop :=
  ∀ w, w.history.length < (m w).2.history.length

/-- Nothing is taken out of the history by what follows a question. -/
theorem Run.AlwaysAsks.bind {ε α β : Type} {m : Run ε α} {f : α → Run ε β} (hm : m.AlwaysAsks)
    (hf : ∀ a w, (f a w).2.history = w.history) : (m >>= f).AlwaysAsks := by
  intro w
  have hasked := hm w
  rcases h : m w with ⟨_ | e | a, w₁⟩ <;> rw [h] at hasked
  · rwa [Run.bind_of_exhausted h]
  · rwa [Run.bind_of_error h]
  · rw [Run.bind_of_ok h, hf]
    exact hasked

theorem HostFunction.alwaysAsks (f : HostFunction) (path : String) (args : List Json) :
    (f.ask path args).AlwaysAsks := fun w => Nat.lt_succ_self w.history.length

theorem HttpClient.alwaysAsks (c : HttpClient) (request : HttpRequest) :
    (c.ask request).AlwaysAsks := fun w => Nat.lt_succ_self w.history.length

theorem SqlConnection.alwaysAsks (c : SqlConnection) (query : SqlQuery) :
    (c.ask query).AlwaysAsks := fun w => Nat.lt_succ_self w.history.length

/-! ### Graded relations -/

/-- Relations between computations of an operator, graded by what they use up, that the ways of
building computations respect, in an environment that limits what the host is asked.  What follows a
computation needs to be related only for the values that the computation leads to, and only what asks
the host is put behind the cache. -/
structure Run.Graded (env : Env) (leads : ∀ {α : Type}, Run OperatorFault α → α → Prop)
    (cost : HostFunction → Nat)
    (G : Nat → ∀ {α : Type}, Run OperatorFault α → Run OperatorFault α → Prop) : Prop where
  mono : ∀ {α : Type} {a b : Nat} {m m' : Run OperatorFault α}, a ≤ b → G a m m' → G b m m'
  ofExcept : ∀ {α : Type} (outcome : Except OperatorFault α),
    G 0 (Run.ofExcept outcome) (Run.ofExcept outcome)
  andThen : ∀ {α β : Type} {a b : Nat} {m m' : Run OperatorFault α}
    {f f' : α → Run OperatorFault β}, G a m m' →
    (∀ x, leads m x → G b (f x) (f' x)) →
    G (a + b) (Run.andThen m f) (Run.andThen m' f')
  cached : ∀ {a : Nat} (key : String) {m m' : Run OperatorFault Json}, m.AlwaysAsks →
    G a m m' → G a (Asking.cached key m) (Asking.cached key m')
  call : env.Permits .customFunctions → ∀ (f : HostFunction) (path : String) (args : List Json),
    G (cost f) (f.ask path args) (f.ask path args)
  http : env.Permits .get ∨ env.Permits .post ∨ env.Permits .graphQL →
    ∀ (c : HttpClient) (request : HttpRequest), G 0 (c.ask request) (c.ask request)
  sql : env.Permits .pgSql → ∀ (c : SqlConnection) (query : SqlQuery),
    G 0 (c.ask query) (c.ask query)

/-- Branches that a node computes come only to values that may be evaluated and weigh nothing. -/
def Branching.AnswersWeighNothing (W : Weighing)
    (leads : ∀ {α : Type}, Run OperatorFault α → α → Prop) (ev : Evaluator OperatorFault)
    (props : Props) : Prop :=
  ∀ b, Dict.get? props "branches" = some b → isLiteral b = false →
    ∀ v, leads (ev b) v → W.domain v ∧ W.weight v = 0

/-- The function that a node calls of its own costs no more than `own`. -/
def Asking.OwnCallCosts (env : Env) (leads : ∀ {α : Type}, Run OperatorFault α → α → Prop)
    (cost : HostFunction → Nat) (ev : Evaluator OperatorFault) (props : Props) (own : Nat) : Prop :=
  ∀ operands, leads (ev.operands props ["functionPath", "args", "useCache"]) operands →
    ∀ registered f, FunctionMap.find? (env.options.functions.getD [])
      ((Operands.string? operands "functionPath").getD "") = some (registered, f) → cost f ≤ own

/-- The properties an operator may read: for most of them, `type` is only the name of a
conversion. -/
def OperatorKind.reads (k : OperatorKind) (key : String) : Bool :=
  key != Key.type || k == .plus || k == .pgSql

namespace Run.Graded

variable {env : Env} {leads : ∀ {α : Type}, Run OperatorFault α → α → Prop}
  {cost : HostFunction → Nat}
  {G : Nat → ∀ {α : Type}, Run OperatorFault α → Run OperatorFault α → Prop}
  {α β γ : Type} {a b n : Nat}

/-! ### Plain computations -/

theorem value (C : Graded env leads cost G) (x : α) : G 0 (Run.value x) (Run.value x) :=
  C.ofExcept (.ok x)

theorem fail (C : Graded env leads cost G) (e : OperatorFault) :
    G 0 (Run.fail e : Run _ α) (Run.fail e) :=
  C.ofExcept (.error e)

theorem bind (C : Graded env leads cost G) {m m' : Run OperatorFault α}
    {f f' : α → Run OperatorFault β} (hm : G a m m') (hf : ∀ x, G b (f x) (f' x)) :
    G (a + b) (m >>= f) (m' >>= f') :=
  C.andThen hm fun x _ => hf x

/-- What follows uses nothing up. -/
theorem bind_free (C : Graded env leads cost G) {m m' : Run OperatorFault α}
    {f f' : α → Run OperatorFault β} (hm : G a m m') (hf : ∀ x, G 0 (f x) (f' x)) :
    G a (m >>= f) (m' >>= f') :=
  C.bind hm hf

/-- A check in front of a computation. -/
theorem guarded (C : Graded env leads cost G) (check : Except OperatorFault α)
    {f f' : α → Run OperatorFault β} (hf : ∀ x, G n (f x) (f' x)) :
    G n (Run.ofExcept check >>= f) (Run.ofExcept check >>= f') := by
  have h := C.bind (C.ofExcept check) hf
  rwa [Nat.zero_add] at h

theorem traverse (C : Graded env leads cost G) {use : α → Nat} {f f' : α → Run OperatorFault β}
    (items : List α) (hf : ∀ x ∈ items, G (use x) (f x) (f' x)) :
    G (items.map use).sum (Run.traverse f items) (Run.traverse f' items) := by
  induction items with
  | nil => exact C.value []
  | cons x rest ih =>
      obtain ⟨hx, hrest⟩ := List.forall_mem_cons.mp hf
      rw [List.map_cons, List.sum_cons]
      exact C.bind hx fun y => C.bind_free (ih hrest) fun ys => C.value (y :: ys)

theorem need (C : Graded env leads cost G) (o : Option α) (otherwise : BackendError) :
    G 0 (Asking.need o otherwise) (Asking.need o otherwise) := by
  cases o with
  | none => exact C.fail _
  | some x => exact C.value x

theorem cachedIf (C : Graded env leads cost G) (operands : Operands) (default : Bool) (key : String)
    {m m' : Run OperatorFault Json} (hasks : m.AlwaysAsks) (hm : G n m m') :
    G n (Asking.cachedIf env operands default key m)
      (Asking.cachedIf env operands default key m') := by
  unfold Asking.cachedIf
  split
  · exact C.cached key hasks hm
  · exact hm

/-! ### Operands -/

variable {W : Weighing} {ev ev' : Evaluator OperatorFault} {props : Props}

theorem optional (C : Graded env leads cost G) (h : ∀ v, W.domain v → G (W.weight v) (ev v) (ev' v))
    {node : Option Json} (hnode : ∀ v, node = some v → W.domain v) :
    G (W.option node) (ev.optional node) (ev'.optional node) := by
  cases node with
  | none => exact C.value none
  | some node => exact C.bind_free (h node (hnode node rfl)) fun v => C.value (some v)

/-- The property of a name. -/
theorem property (C : Graded env leads cost G) (h : ∀ v, W.domain v → G (W.weight v) (ev v) (ev' v))
    (covered : W.Covers props) (name : String) :
    G (W.weightAt props name) (ev.optional (Dict.get? props name))
      (ev'.optional (Dict.get? props name)) :=
  C.optional h fun _ hv => covered.domain_of_get? hv

theorem operands (C : Graded env leads cost G) (h : ∀ v, W.domain v → G (W.weight v) (ev v) (ev' v))
    (covered : W.Covers props) (names : List String) :
    G (names.map (W.weightAt props)).sum (ev.operands props names) (ev'.operands props names) :=
  C.traverse names fun name _ =>
    C.bind_free (C.property h covered name) fun v => C.value (name, v)

/-! ### Operators that choose what they evaluate -/

theorem strict (C : Graded env leads cost G) (h : ∀ v, W.domain v → G (W.weight v) (ev v) (ev' v))
    (covered : W.Covers props) (k : OperatorKind) (op : StrictOperator)
    (hn : (op.operands.map (W.weightAt props)).sum ≤ n) :
    G n (Evaluation.strict env ev k op props) (Evaluation.strict env ev' k op props) :=
  C.mono hn (C.bind_free (C.operands h covered op.operands) fun _ =>
    C.guarded _ fun _ => C.ofExcept _)

theorem scan (C : Graded env leads cost G) (h : ∀ v, W.domain v → G (W.weight v) (ev v) (ev' v))
    (wanted : Bool) {nodes : List Json} (covered : ∀ v ∈ nodes, W.domain v) :
    G (nodes.map W.weight).sum (Branching.scan ev wanted nodes)
      (Branching.scan ev' wanted nodes) := by
  induction nodes with
  | nil => exact C.value false
  | cons node rest ih =>
      obtain ⟨hnode, hrest⟩ := List.forall_mem_cons.mp covered
      rw [List.map_cons, List.sum_cons]
      refine C.bind (h node hnode) fun v => ?_
      by_cases hv : v.truthy = wanted
      · simp only [hv, if_true]
        exact C.mono (Nat.zero_le _) (C.value true)
      · simp only [hv, if_false]
        exact ih hrest

theorem meets (C : Graded env leads cost G) (h : ∀ v, W.domain v → G (W.weight v) (ev v) (ev' v))
    (covered : W.Covers props) (k : OperatorKind) (wanted : Bool) :
    G (W.weightAt props "values") (Branching.meets env ev k wanted props)
      (Branching.meets env ev' k wanted props) := by
  unfold Branching.meets
  split
  · next nodes hvalues =>
    have hdomain := covered.domain_of_get? hvalues
    rw [Weighing.weightAt_of_get? hvalues]
    exact C.mono (W.weight_items hdomain) (C.scan h wanted (W.domain_item hdomain))
  · exact C.bind_free (C.operands h covered ["values"]) fun _ => C.guarded _ fun _ => C.value _

theorem conditional (C : Graded env leads cost G)
    (h : ∀ v, W.domain v → G (W.weight v) (ev v) (ev' v)) (covered : W.Covers props)
    (hn : ∀ condition, W.weightAt props "condition" + W.weightAt props (Branching.branchName condition) ≤ n) :
    G n (Branching.conditional env ev props) (Branching.conditional env ev' props) := by
  have hle : W.weightAt props "condition" ≤ n := Nat.le_trans (Nat.le_add_right _ _) (hn none)
  have hrun : G (W.weightAt props "condition" + (n - W.weightAt props "condition"))
      (Branching.conditional env ev props) (Branching.conditional env ev' props) := by
    refine C.bind (C.property h covered "condition") fun condition => C.guarded _ fun _ => ?_
    refine C.mono ?_ (C.bind_free (C.property h covered (Branching.branchName condition))
      fun _ => C.value _)
    have := hn condition
    omega
  rwa [Nat.add_sub_cancel' hle] at hrun

/-- Finding the entry for a value and going on with it uses up no more than all entries weigh, if
going on with an entry uses up no more than the value in it weighs. -/
theorem entryFor_bind (C : Graded env leads cost G)
    (h : ∀ v, W.domain v → G (W.weight v) (ev v) (ev' v)) (value : Json)
    {K K' : Option Json → Run OperatorFault Json} {entries : List Json}
    (covered : ∀ v ∈ entries, W.domain v) (hnone : G 0 (K none) (K' none))
    (hsome : ∀ entry ∈ entries, G (W.option (entry.field? "value")) (K (some entry))
      (K' (some entry))) :
    G (entries.map W.weight).sum (Run.andThen (Branching.entryFor ev value entries) K)
      (Run.andThen (Branching.entryFor ev' value entries) K') := by
  induction entries with
  | nil => exact hnone
  | cons entry rest ih =>
      obtain ⟨hentry, hrest⟩ := List.forall_mem_cons.mp covered
      obtain ⟨hhere, hthere⟩ := List.forall_mem_cons.mp hsome
      have hlater := ih hrest hthere
      rw [List.map_cons, List.sum_cons]
      unfold Branching.entryFor
      cases hmatch : entry.field? "match" with
      | none => exact C.mono (Nat.le_add_left _ _) hlater
      | some candidate =>
          -- The candidate and the value are two entries of one object.
          have hboth := Weighing.option_field_add_le hentry (by decide : "match" ≠ "value")
          have hweight : W.option (entry.field? "match") = W.weight candidate := by
            rw [hmatch]
            rfl
          have hcandidate := Weighing.domain_field hentry hmatch
          dsimp only
          rw [Run.andThen_assoc, Run.andThen_assoc]
          refine C.mono ?_ (C.bind (b := W.option (entry.field? "value") +
            (rest.map W.weight).sum) (h candidate hcandidate) fun c => ?_)
          · omega
          · by_cases hc : c.sameValue value = true
            · simp only [hc, if_true]
              exact C.mono (Nat.le_add_right _ _) hhere
            · simp only [hc]
              exact C.mono (Nat.le_add_left _ _) hlater

/-- Finding the branch for a value and evaluating it uses up no more than all branches weigh. -/
theorem select_bind (C : Graded env leads cost G)
    (h : ∀ v, W.domain v → G (W.weight v) (ev v) (ev' v)) (value : Json) (fault : OperatorFault)
    {branches : Json}
    (hitems : ∀ items, branches = .array items →
      (∀ v ∈ items, W.domain v) ∧ (items.map W.weight).sum ≤ n)
    (hfields : ∀ fields, branches = .object fields → W.Covers fields ∧ ∀ key, W.weightAt fields key ≤ n) :
    G n (Branching.select ev value branches >>= fun branch =>
        match branch with
        | some branch => ev branch
        | none => Run.fail fault)
      (Branching.select ev' value branches >>= fun branch =>
        match branch with
        | some branch => ev' branch
        | none => Run.fail fault) := by
  have hfail : G n (Run.fail fault : Run OperatorFault Json) (Run.fail fault) :=
    C.mono (Nat.zero_le _) (C.fail fault)
  unfold Branching.select
  split
  · next fields =>
    obtain ⟨covered, hat⟩ := hfields fields rfl
    cases hbranch : Dict.get? fields value.toText with
    | none => exact hfail
    | some branch =>
        have hle := hat value.toText
        rw [Weighing.weightAt_of_get? hbranch] at hle
        exact C.mono hle (h branch (covered.domain_of_get? hbranch))
  · next entries =>
    obtain ⟨covered, hsum⟩ := hitems entries rfl
    refine C.mono hsum ?_
    have hassoc : ∀ {m : Run OperatorFault (Option Json)}
        {f : Option Json → Run OperatorFault (Option Json)}
        {g : Option Json → Run OperatorFault Json},
        (Run.andThen m f >>= g) = Run.andThen m fun entry => Run.andThen (f entry) g :=
      Run.andThen_assoc _ _ _
    rw [hassoc, hassoc]
    refine C.entryFor_bind h value covered ?_ fun entry hmem => ?_
    · exact C.fail fault
    have hentry := covered entry hmem
    rw [Option.bind_some]
    cases hvalue : entry.field? "value" with
    | none => exact C.fail fault
    | some branch =>
        exact h branch (Weighing.domain_field hentry hvalue)
  · exact hfail

/-- The same for branches that may be evaluated as a whole. -/
theorem select_bind_of_domain (C : Graded env leads cost G)
    (h : ∀ v, W.domain v → G (W.weight v) (ev v) (ev' v)) (value : Json) (fault : OperatorFault)
    {branches : Json} (hdomain : W.domain branches) :
    G (W.weight branches) (Branching.select ev value branches >>= fun branch =>
        match branch with
        | some branch => ev branch
        | none => Run.fail fault)
      (Branching.select ev' value branches >>= fun branch =>
        match branch with
        | some branch => ev' branch
        | none => Run.fail fault) := by
  refine C.select_bind h value fault (fun items hitems => ?_) fun fields hfields => ?_
  · subst hitems
    exact ⟨W.domain_item hdomain, W.weight_items hdomain⟩
  · subst hfields
    exact ⟨W.domain_entry hdomain, fun key =>
      Nat.le_trans (Weighing.weightAt_le_total fields key) (W.weight_entries hdomain)⟩

/-- Going on with the branches that a node has, written out or computed. -/
theorem branches_bind (C : Graded env leads cost G)
    (h : ∀ v, W.domain v → G (W.weight v) (ev v) (ev' v)) (covered : W.Covers props)
    (answers : Branching.AnswersWeighNothing W leads ev props)
    {K K' : Option Json → Run OperatorFault Json} (hn : W.weightAt props "branches" ≤ n)
    (hnone : G n (K none) (K' none))
    (hsome : ∀ b, W.domain b → G (W.weight b) (K (some b)) (K' (some b))) :
    G n (Branching.branches ev props >>= K) (Branching.branches ev' props >>= K') := by
  unfold Branching.branches
  cases hb : Dict.get? props "branches" with
  | none => exact hnone
  | some b =>
      have hdomain := covered.domain_of_get? hb
      rw [Weighing.weightAt_of_get? hb] at hn
      dsimp only
      by_cases hliteral : Branching.isLiteral b = true
      · rw [if_pos hliteral, if_pos hliteral]
        exact C.mono hn (hsome b hdomain)
      · rw [if_neg hliteral, if_neg hliteral]
        have hcomputed : ∀ (ev : Evaluator OperatorFault) (K : Option Json → Run _ Json),
            (ev.optional (some b) >>= K) = Run.andThen (ev b) fun v => K (some v) :=
          fun ev K => Run.andThen_assoc _ _ _
        rw [hcomputed, hcomputed]
        refine C.mono hn (C.andThen (b := 0) (h b hdomain) fun v hv => ?_)
        obtain ⟨hanswer, hfree⟩ := answers b hb (Bool.not_eq_true _ ▸ hliteral) v hv
        exact hfree ▸ hsome v hanswer

theorem matching (C : Graded env leads cost G) (h : ∀ v, W.domain v → G (W.weight v) (ev v) (ev' v))
    (covered : W.Covers props) (answers : Branching.AnswersWeighNothing W leads ev props)
    (hn : W.weightAt props "matchExpression" + W.weightAt props "branches" ≤ n)
    (hown : ∀ key, W.weightAt props "matchExpression" +
      W.weightAt (Dict.filterKeys Branching.isBranchName props) key ≤ n) :
    G n (Branching.matching env ev props) (Branching.matching env ev' props) := by
  have hle : W.weightAt props "matchExpression" ≤ n := Nat.le_trans (Nat.le_add_right _ _) hn
  have hrun : G (W.weightAt props "matchExpression" + (n - W.weightAt props "matchExpression"))
      (Branching.matching env ev props) (Branching.matching env ev' props) := by
    refine C.bind (C.property h covered "matchExpression") fun found => ?_
    refine C.branches_bind h covered answers (by omega) (C.guarded _ fun _ => ?_)
      fun b hb => C.guarded _ fun _ => C.select_bind_of_domain h _ _ hb
    -- Without branches the other properties of the node are the branches.
    refine C.select_bind h _ _ (fun _ hitems => by cases hitems) fun fields hfields => ?_
    cases hfields
    refine ⟨covered.filterKeys _, fun key => ?_⟩
    have hkey := hown key
    omega
  rwa [Nat.add_sub_cancel' hle] at hrun

theorem buildObject (C : Graded env leads cost G)
    (h : ∀ v, W.domain v → G (W.weight v) (ev v) (ev' v)) (covered : W.Covers props) :
    G (W.weightAt props "properties") (Branching.buildObject env ev props)
      (Branching.buildObject env ev' props) := by
  unfold Branching.buildObject
  split
  · next items hitems =>
    have hdomain := covered.domain_of_get? hitems
    obtain ⟨hentries, hsum⟩ := Weighing.entries_le (W.domain_item hdomain)
    rw [Weighing.weightAt_of_get? hitems]
    refine C.mono (Nat.le_trans hsum (W.weight_items hdomain)) ?_
    refine C.bind_free (C.traverse _ fun entry hmem => ?_) fun _ => C.value _
    obtain ⟨hkey, hvalue⟩ := hentries entry hmem
    exact C.bind (h entry.1 hkey) fun _ => C.bind_free (h entry.2 hvalue) fun _ => C.value _
  · exact C.bind_free (C.operands h covered ["properties"]) fun _ =>
      C.guarded _ fun _ => C.value _

/-! ### Operators that ask the host -/

theorem namedValues (C : Graded env leads cost G)
    (h : ∀ v, W.domain v → G (W.weight v) (ev v) (ev' v)) {node : Option Json}
    (hnode : ∀ v, node = some v → W.domain v) :
    G (W.option node) (Asking.namedValues ev node) (Asking.namedValues ev' node) := by
  unfold Asking.namedValues
  split
  · next entries =>
    have hdomain := hnode _ rfl
    split
    · exact C.optional h hnode
    · refine C.mono (W.weight_entries hdomain) ?_
      refine C.bind_free (C.traverse entries fun e he => ?_) fun _ => C.value _
      exact C.bind_free (h e.2 (W.domain_entry hdomain e he)) fun v => C.value (e.1, v)
  · exact C.optional h hnode

theorem requestOperands (C : Graded env leads cost G)
    (h : ∀ v, W.domain v → G (W.weight v) (ev v) (ev' v)) (covered : W.Covers props)
    (names named : List String) (hn : ((names ++ named).map (W.weightAt props)).sum ≤ n) :
    G n (Asking.requestOperands ev props names named)
      (Asking.requestOperands ev' props names named) := by
  rw [List.map_append, List.sum_append_nat] at hn
  refine C.mono hn (C.bind (C.operands h covered names) fun _ =>
    C.bind_free (C.traverse named fun name _ => ?_) fun _ => C.value _)
  exact C.bind_free (C.namedValues h fun _ hv => covered.domain_of_get? hv) fun v =>
    C.value (name, v)

theorem request (C : Graded env leads cost G) (h : ∀ v, W.domain v → G (W.weight v) (ev v) (ev' v))
    (covered : W.Covers props) {k : OperatorKind}
    (permitted : env.Permits .get ∨ env.Permits .post) (method : HttpMethod)
    (hn : (["url", "returnProperty", "useCache", "parameters", "headers"].map
      (W.weightAt props)).sum ≤ n) :
    G n (Asking.request env ev k method props) (Asking.request env ev' k method props) := by
  refine C.bind_free (C.requestOperands h covered _ _ hn) fun operands => C.guarded _ fun _ =>
    C.bind_free (C.need _ _) fun client =>
      C.cachedIf operands _ _ ((client.alwaysAsks _).bind fun _ _ => rfl) ?_
  exact C.bind_free (C.http (permitted.imp_right .inl) client _) fun _ => C.ofExcept _

theorem graphQL (C : Graded env leads cost G) (h : ∀ v, W.domain v → G (W.weight v) (ev v) (ev' v))
    (covered : W.Covers props) (permitted : env.Permits .graphQL)
    (hn : (["query", "url", "returnNode", "useCache", "variables", "headers"].map
      (W.weightAt props)).sum ≤ n) :
    G n (Asking.graphQL env ev props) (Asking.graphQL env ev' props) := by
  refine C.bind_free (C.requestOperands h covered _ _ hn) fun found => C.guarded _ fun _ =>
    C.bind_free (C.need _ _) fun connection => C.bind_free (C.need _ _) fun client =>
      C.cachedIf _ _ _ ((client.alwaysAsks _).bind fun _ _ => rfl) ?_
  exact C.bind_free (C.http (.inr (.inr permitted)) client _) fun _ => C.ofExcept _

theorem sqlQuery (C : Graded env leads cost G) (h : ∀ v, W.domain v → G (W.weight v) (ev v) (ev' v))
    (covered : W.Covers props) (permitted : env.Permits .pgSql)
    (hn : (["query", "values", "single", "flatten", "type", "useCache"].map
      (W.weightAt props)).sum ≤ n) :
    G n (Asking.sql env ev props) (Asking.sql env ev' props) := by
  refine C.mono hn (C.bind_free (C.operands h covered _) fun operands => C.guarded _ fun _ =>
    C.bind_free (C.need _ _) fun connection =>
      C.cachedIf operands _ _ ((connection.alwaysAsks _).bind fun _ _ => rfl) ?_)
  exact C.bind_free (C.sql permitted connection _) fun _ => C.value _

/-- A call of a function uses up what the operands weigh, and what the function costs. -/
theorem function (C : Graded env leads cost G) (h : ∀ v, W.domain v → G (W.weight v) (ev v) (ev' v))
    (covered : W.Covers props) (permitted : env.Permits .customFunctions) {own : Nat}
    (hown : Asking.OwnCallCosts env leads cost ev props own)
    (hn : (["functionPath", "args", "useCache"].map (W.weightAt props)).sum ≤ n) :
    G (n + own) (Asking.function env ev props) (Asking.function env ev' props) := by
  refine C.andThen (C.mono hn (C.operands h covered _)) fun operands hoperands => ?_
  have hpath := hown operands hoperands
  refine C.guarded _ fun _ => ?_
  dsimp only
  split
  · exact C.mono (Nat.zero_le _) (C.fail _)
  · next registered f hf =>
    exact C.cachedIf operands _ _ (f.alwaysAsks _ _)
      (C.mono (hpath registered f hf) (C.call permitted _ _ _))

/-- **An operator uses up no more than its properties weigh**, and what the function costs that it
calls of its own. -/
theorem compute (C : Graded env leads cost G) (h : ∀ v, W.domain v → G (W.weight v) (ev v) (ev' v))
    (covered : W.Covers props) {k : OperatorKind} (permitted : env.Permits k) {own : Nat}
    (answers : k = .matching → Branching.AnswersWeighNothing W leads ev props)
    (hown : k = .customFunctions → Asking.OwnCallCosts env leads cost ev props own) :
    G (W.total (Dict.filterKeys k.reads props) + own) (Evaluation.compute env ev k props)
      (Evaluation.compute env ev' k props) := by
  have hread : ∀ {names : List String}, names.Nodup → (∀ name ∈ names, k.reads name = true) →
      (names.map (W.weightAt props)).sum ≤ W.total (Dict.filterKeys k.reads props) :=
    Weighing.sum_weightAt_le
  have hone : ∀ {name : String}, k.reads name = true →
      W.weightAt props name ≤ W.total (Dict.filterKeys k.reads props) := by
    intro name hname
    have hsum := hread (by simp : [name].Nodup) (by simpa using hname)
    simpa using hsum
  have within : ∀ {m m' : Run OperatorFault Json},
      G (W.total (Dict.filterKeys k.reads props)) m m' →
      G (W.total (Dict.filterKeys k.reads props) + own) m m' :=
    C.mono (Nat.le_add_right _ _)
  cases k with
  | and =>
      refine within (C.bind_free (C.mono (hone ?_) (C.meets h covered .and false)) fun _ =>
        C.value _)
      decide
  | or =>
      refine within (C.bind_free (C.mono (hone ?_) (C.meets h covered .or true)) fun _ =>
        C.value _)
      decide
  | conditional =>
      refine within (C.conditional h covered fun condition => ?_)
      have hnames : ["condition", Branching.branchName condition].Nodup ∧
          ∀ name ∈ ["condition", Branching.branchName condition],
            OperatorKind.conditional.reads name = true := by
        unfold Branching.branchName
        split <;> decide
      simpa using hread hnames.1 hnames.2
  | matching =>
      have hboth := hread (by decide : ["matchExpression", "branches"].Nodup) (by decide)
      refine within (C.matching h covered (answers rfl) (by simpa using hboth) fun key => ?_)
      rw [Weighing.weightAt_filterKeys]
      by_cases hkey : Branching.isBranchName key = true
      · rw [if_pos hkey]
        simp only [Branching.isBranchName, Bool.and_eq_true, bne_iff_ne] at hkey
        have hnodup : ["matchExpression", key].Nodup := by simpa using hkey.1.1.1.symm
        have hreads : OperatorKind.matching.reads key = true := by
          simpa [OperatorKind.reads, Key.type] using hkey.1.2
        have hsum := hread hnodup (List.forall_mem_cons.mpr
          ⟨by decide, List.forall_mem_singleton.mpr hreads⟩)
        simpa using hsum
      · rw [if_neg hkey]
        exact hone (by decide)
  | buildObject => exact within (C.mono (hone (by decide)) (C.buildObject h covered))
  | get => exact within (C.request h covered (.inl permitted) .get (hread (by decide) (by decide)))
  | post => exact within (C.request h covered (.inr permitted) .post (hread (by decide) (by decide)))
  | graphQL => exact within (C.graphQL h covered permitted (hread (by decide) (by decide)))
  | pgSql => exact within (C.sqlQuery h covered permitted (hread (by decide) (by decide)))
  | customFunctions =>
      exact C.function h covered permitted (hown rfl) (hread (by decide) (by decide))
  -- All the others evaluate their operands first and compute from the values.
  | _ => exact within (C.strict h covered _ _ (hread (by decide) (by decide)))

/-- Without grades: what an operator computes is related if evaluation of its operands is. -/
theorem compute_of_forall {R : ∀ {α : Type}, Run OperatorFault α → Run OperatorFault α → Prop}
    (C : Graded env (fun _ _ => True) (fun _ => 0) (fun _ {_} m m' => R m m'))
    (h : ∀ v, R (ev v) (ev' v)) {k : OperatorKind} (permitted : env.Permits k) (props : Props) :
    R (Evaluation.compute env ev k props) (Evaluation.compute env ev' k props) := by
  let W : Weighing := .weightless (fun _ => True) (fun _ _ _ => trivial) fun _ _ _ => trivial
  have covered : W.Covers props := fun _ _ => trivial
  exact C.compute (W := W) (fun v _ => h v) covered permitted
    (fun _ _ _ _ _ _ => ⟨trivial, rfl⟩) fun _ _ _ _ _ _ => Nat.le_refl 0

end Run.Graded

/-! ### Options that operators read -/

/-- Options that are the same as far as operators read them. -/
structure Options.OperatorsAgree (o o' : Options) : Prop where
  data : o.data = o'.data
  functions : o.functions = o'.functions
  headers : o.headers = o'.headers
  httpClient : o.httpClient = o'.httpClient
  sqlConnection : o.sqlConnection = o'.sqlConnection
  graphQLConnection : o.graphQLConnection = o'.graphQLConnection
  skipRuntimeTypeCheck : o.skipRuntimeTypeCheck = o'.skipRuntimeTypeCheck
  useCache : o.useCache = o'.useCache
  baseEndpoint : o.baseEndpoint = o'.baseEndpoint

/-- What an operator computes depends on no other options, and on no other operators. -/
theorem Evaluation.compute_of_operatorsAgree {env env' : Env}
    (h : env.options.OperatorsAgree env'.options) : compute env = compute env' := by
  rcases env with ⟨o, r⟩
  rcases env' with ⟨o', r'⟩
  obtain ⟨hdata, hfunctions, hheaders, hclient, hsql, hgraphQL, hchecks, hcache, hbase⟩ := h
  cases o
  cases o'
  cases hdata
  cases hfunctions
  cases hheaders
  cases hclient
  cases hsql
  cases hgraphQL
  cases hchecks
  cases hcache
  cases hbase
  funext ev k props
  cases k <;> rfl

end JsonExpr
