import Mathlib.Data.List.Nodup
import JsonExpr.Host.Stock
import JsonExpr.Proofs.Evaluation.Written
import JsonExpr.Proofs.Registry

/-!
# How often functions are called

An operator evaluates each of its properties at most once, and a node its children, its fallback and
the name of its conversion.  So a function that is written once in a node is called at most once,
with two exceptions.  The property `type` of `PLUS` and `PG_SQL` names the conversion as well if
`outputType` is not there, and is evaluated for both.  And if an operator fails, then its fallback
stands in and goes through the conversion; if the conversion fails as well, then the fallback is
evaluated again.  A function that is written in such a place is called at most twice.

Main definitions:

* `JsonExpr.Run.LeadsTo`, `JsonExpr.Run.Calls` — what a computation may come to, and a bound for its
  calls of one function;
* `JsonExpr.Evaluation.conversionMayFail`, `JsonExpr.Evaluation.repeated` — the nodes that may
  evaluate their fallback twice, and the properties that may be evaluated twice;
* `JsonExpr.Evaluation.WritesOnce` — operator nodes that are made of literals and calls of different
  functions.

Main results:

* `JsonExpr.Run.Calls.graded` — calls add up as operators are put together;
* `JsonExpr.Evaluation.operatorBody_calls` — the calls of a node are those that are written in it;
* `JsonExpr.eval_calls` — evaluation calls no function more often than it is written;
* `JsonExpr.Evaluation.runOperator_sumOfType` — a sum evaluates its `type` twice;
* `JsonExpr.written_calls_are_made_once` — **a function that is written once in a node is called at
  most once**, or at most twice in a place that is evaluated twice.
-/

set_option autoImplicit false

namespace JsonExpr

/-! ### Counting calls -/

/-- A value that a computation comes to in some world. -/
def Run.LeadsTo {ε α : Type} (m : Run ε α) (a : α) : Prop := ∃ w w', m w = (some (.ok a), w')

/-- A computation that calls a function at most `n` times. -/
def Run.Calls {ε α : Type} (registration n : Nat) (m : Run ε α) : Prop :=
  ∀ w, (History.callsOf (m w).2.history registration).length ≤
    (History.callsOf w.history registration).length + n

namespace Run.Calls

variable {ε ε' α β : Type} {registration a b n : Nat}

theorem mono {m : Run ε α} (h : m.Calls registration a) (hle : a ≤ b) : m.Calls registration b :=
  fun w => Nat.le_trans (h w) (Nat.add_le_add_left hle _)

/-- What leaves the calls in the history alone calls nothing. -/
theorem of_history {m : Run ε α} (h : ∀ w, History.callsOf (m w).2.history registration =
    History.callsOf w.history registration) : m.Calls registration 0 := fun w => by
  rw [h]
  exact Nat.le_refl _

theorem value (x : α) : (Run.value x : Run ε α).Calls registration 0 := of_history fun _ => rfl

/-- Calls add up; the second part may count on what the first one leads to. -/
theorem andThen_of {m : Run ε α} {f : α → Run ε β} (hm : m.Calls registration a)
    (hf : ∀ x, m.LeadsTo x → (f x).Calls registration b) :
    (Run.andThen m f).Calls registration (a + b) := by
  intro w
  have hfirst := hm w
  rcases h : m w with ⟨_ | e | x, w₁⟩ <;> rw [h] at hfirst
  · rw [Run.andThen_of_exhausted h]
    exact Nat.le_trans hfirst (by omega)
  · rw [Run.andThen_of_error h]
    exact Nat.le_trans hfirst (by omega)
  · rw [Run.andThen_of_ok h]
    have hsecond := hf x ⟨w, w₁, h⟩ w₁
    dsimp only at hfirst
    omega

theorem bind_of {m : Run ε α} {f : α → Run ε β} (hm : m.Calls registration a)
    (hf : ∀ x, m.LeadsTo x → (f x).Calls registration b) :
    (m >>= f).Calls registration (a + b) :=
  andThen_of hm hf

/-- What follows calls nothing. -/
theorem bind_free {m : Run ε α} {f : α → Run ε β} (hm : m.Calls registration a)
    (hf : ∀ x, (f x).Calls registration 0) : (m >>= f).Calls registration a :=
  bind_of hm fun x _ => hf x

theorem attempt {m : Run ε α} (hm : m.Calls registration n) :
    (Run.attempt m : Run ε' _).Calls registration n := hm

theorem mapFailure (g : ε → ε') {m : Run ε α} (hm : m.Calls registration n) :
    (Run.mapFailure g m).Calls registration n := hm

theorem withFrame (frame : Frame) {m : Run ε α} (hm : m.Calls registration n) :
    (Run.withFrame frame m).Calls registration n := by
  intro w
  have hinside := hm (w.enter frame)
  rwa [World.history_enter, ← World.history_leave (m (w.enter frame)).2 frame] at hinside

theorem traverse {use : α → Nat} {f : α → Run ε β} (items : List α)
    (hf : ∀ x ∈ items, (f x).Calls registration (use x)) :
    (Run.traverse f items).Calls registration (items.map use).sum := by
  induction items with
  | nil => exact value []
  | cons x rest ih =>
      obtain ⟨hx, hrest⟩ := List.forall_mem_cons.mp hf
      rw [List.map_cons, List.sum_cons]
      refine andThen_of hx fun y _ => ?_
      exact bind_free (ih hrest) fun ys => value (y :: ys)

theorem cached (key : String) {m : Run OperatorFault Json} (hm : m.Calls registration n) :
    (Asking.cached key m).Calls registration n := by
  intro w
  unfold Asking.cached
  split
  · exact Nat.le_add_right _ _
  · have hcalls := hm w
    rcases h : m w with ⟨_ | outcome, w₁⟩ <;> rw [h] at hcalls <;> exact hcalls

/-- Asking a function is one call of it. -/
theorem ask (f : HostFunction) (path : String) (args : List Json) :
    (f.ask path args).Calls registration (if f.registration = registration then 1 else 0) := by
  intro w
  show (History.callsOf (.call f.registration path args :: w.history) registration).length ≤ _
  unfold History.callsOf
  rw [List.filterMap_cons]
  dsimp only
  split <;> split <;> simp_all

/-- **Calls add up as operators are put together.** -/
theorem graded (env : Env) (registration : Nat) :
    Run.Graded env (fun m x => m.LeadsTo x)
      (fun f => if f.registration = registration then 1 else 0)
      (fun n {_} m _ => m.Calls registration n) where
  mono hle h := h.mono hle
  ofExcept _ := of_history fun _ => rfl
  andThen := andThen_of
  cached key _ _ _ hm := cached key hm
  call _ f path args := ask f path args
  http _ _ _ := of_history fun _ => rfl
  sql _ _ _ := of_history fun _ => rfl

/-- An operator calls a function no more often than its properties weigh. -/
theorem compute {W : Weighing} {env : Env} {ev : Evaluator OperatorFault} {k : OperatorKind}
    {props : Props} {own : Nat} (h : ∀ v, W.domain v → (ev v).Calls registration (W.weight v))
    (covered : W.Covers props) (permitted : env.Permits k)
    (answers : k = .matching →
      Branching.AnswersWeighNothing W (fun m x => m.LeadsTo x) ev props)
    (hown : k = .customFunctions → Asking.OwnCallCosts env (fun m x => m.LeadsTo x)
      (fun f => if f.registration = registration then 1 else 0) ev props own) :
    (Evaluation.compute env ev k props).Calls registration
      (W.total (Dict.filterKeys k.reads props) + own) :=
  -- Only one of the two computations counts, so the other evaluator has to be named.
  @Run.Graded.compute env _ _ _ W ev ev props (graded env registration) h covered k permitted own
    answers hown

end Run.Calls

/-! ### One node -/

namespace Evaluation

/-- The conversion of a node may fail: its name is not written out, or is the name of none. -/
def conversionMayFail (node : Dict Json) : Bool :=
  match conversionOf node with
  | none => false
  | some (.string name) => (OutputType.ofName? name).isNone
  | some _ => true

/-- A conversion that does not fail is left out, or its name is written out. -/
theorem eq_of_not_conversionMayFail {node : Dict Json} (h : conversionMayFail node = false) :
    conversionOf node = none ∨ ∃ name type, conversionOf node = some (.string name) ∧
      OutputType.ofName? name = some type := by
  unfold conversionMayFail at h
  split at h
  · next hnone => exact .inl hnone
  · next name hname =>
    obtain ⟨type, htype⟩ := Option.isSome_iff_exists.mp (Option.isNone_eq_false_iff.mp h)
    exact .inr ⟨name, type, hname, htype⟩
  · cases h

/-- The second child of a node, if the children are written out. -/
def secondChild (node : Dict Json) : Option Json :=
  match Dict.get? node Key.children with
  | some (.array (_ :: v :: _)) => some v
  | _ => none

/-- The properties of a node that may be evaluated twice: the fallback if the conversion may fail,
and `type` if it is a parameter of the operator and the name of the conversion. -/
def repeated (k : OperatorKind) (node : Dict Json) : List Json :=
  (if conversionMayFail node then
    (Dict.get? node Key.fallback).toList ++
      -- The second child of an `OBJECT_PROPERTIES` node is its fallback.
      if k = .objectProperties then (secondChild node).toList else []
  else []) ++
  if (k = .plus ∨ k = .pgSql) ∧ Dict.get? node Key.outputType = none then
    (Dict.get? node Key.type).toList
  else []

/-- What the children or branches of a node are computed to weighs nothing. -/
structure ComputedWeighNothing (W : Weighing) (ev : Evaluator Failure) (k : OperatorKind)
    (node : Dict Json) : Prop where
  children : ∀ b items, Dict.get? node Key.children = some b → (∀ items, b ≠ .array items) →
    (ev b).LeadsTo (.array items) → W.domain (.array items) ∧ W.weight (.array items) = 0
  branches : k = .matching → ∀ b, Dict.get? (ownProps k.schema node) "branches" = some b →
    Branching.isLiteral b = false → ∀ v, (ev b).LeadsTo v → W.domain v ∧ W.weight v = 0

/-- A text that is evaluated stands for itself. -/
def TextsStand (W : Weighing) (ev : Evaluator Failure) : Prop :=
  ∀ s, W.domain (.string s) → ∀ w outcome w',
    ev (.string s) w = (some outcome, w') → outcome = .ok (.string s)

/-- What is evaluated to know the children of a node: nothing if they are written out. -/
def gatherCost (W : Weighing) (node : Dict Json) : Nat :=
  match Dict.get? node Key.children with
  | none | some (.array _) => 0
  | some b => W.weight b

/-- What is evaluated once the children of a node are known, its own call included. -/
def laterCost (W : Weighing) (k : OperatorKind) (node : Dict Json) (own : Nat) : Nat :=
  W.total (Dict.filterKeys (Weighing.owns k) node) +
      (W.weightAt node Key.children - gatherCost W node) + own +
    W.weightAt node Key.fallback + W.option (conversionOf node) +
    if conversionMayFail node then W.weightAt node Key.fallback +
        if k = .objectProperties then W.option (secondChild node) else 0
      else 0

section Node

variable {W : Weighing} {env : Env} {registration : Nat} {ev : Evaluator Failure}
  {k : OperatorKind} {node : Dict Json} {props : Props} {fallback : Option Json} {n own : Nat}

section Calls

variable (hev : ∀ v, W.domain v → (ev v).Calls registration (W.weight v))

include hev

theorem fallbackOr_calls (hf : ∀ f, fallback = some f → W.domain f) (failure : Failure) :
    (fallbackOr env ev fallback failure).Calls registration (W.option fallback) := by
  cases fallback with
  | none =>
      refine Run.Calls.of_history fun w => ?_
      unfold fallbackOr
      dsimp only
      split <;> rfl
  | some f => exact hev f (hf f rfl)

theorem convert_calls (texts : TextsStand W ev) (hf : ∀ f, fallback = some f → W.domain f)
    (hc : ∀ c, conversionOf node = some c → W.domain c) (result : Json) :
    (convert env ev k node fallback result).Calls registration
      (W.option (conversionOf node) + if conversionMayFail node then W.option fallback else 0) := by
  unfold convert
  cases hmay : conversionMayFail node with
  | true =>
      cases hconversion : conversionOf node with
      | none => exact (Run.Calls.value result).mono (Nat.zero_le _)
      | some conversion =>
          refine Run.Calls.bind_of (Run.Calls.attempt (hev conversion (hc conversion hconversion)))
            fun outcome _ => ?_
          rw [if_pos rfl]
          cases outcome with
          | error failure => exact fallbackOr_calls hev hf failure
          | ok name =>
              dsimp only
              cases OutputType.ofName? name.toText with
              | some type => exact (Run.Calls.value _).mono (Nat.zero_le _)
              | none => exact fallbackOr_calls hev hf _
  | false =>
      rcases eq_of_not_conversionMayFail hmay with hnone | ⟨name, type, hname, htype⟩
      · rw [hnone]
        exact (Run.Calls.value result).mono (Nat.zero_le _)
      · rw [hname]
        have hdomain := hc _ hname
        refine Run.Calls.bind_of (Run.Calls.attempt (hev _ hdomain)) fun outcome hleads => ?_
        obtain ⟨w, w', hattempt⟩ := hleads
        rw [texts name hdomain w outcome w' (Run.eq_of_attempt hattempt)]
        dsimp only [Json.toText]
        rw [htype]
        exact (Run.Calls.value _).mono (Nat.zero_le _)

theorem apply_calls (texts : TextsStand W ev) (hf : ∀ f, fallback = some f → W.domain f)
    (hc : ∀ c, conversionOf node = some c → W.domain c)
    (hcompute : (compute env (inside ev) k props).Calls registration n) :
    (apply env ev k node fallback props).Calls registration
      (n + W.option fallback + (W.option (conversionOf node) +
        if conversionMayFail node then W.option fallback else 0)) := by
  unfold apply
  cases missing k props with
  | cons name names => exact (fallbackOr_calls hev hf _).mono (by omega)
  | nil =>
      refine Run.Calls.bind_of ?_ fun result _ => convert_calls hev texts hf hc result
      refine Run.Calls.bind_of (Run.Calls.attempt hcompute) fun outcome _ => ?_
      cases outcome with
      | ok v => exact (Run.Calls.value v).mono (Nat.zero_le _)
      | error fault => exact fallbackOr_calls hev hf _

theorem gather_calls (covered : W.Covers node) :
    (gather ev k node).Calls registration (gatherCost W node) := by
  unfold gather gatherCost
  cases hchildren : Dict.get? node Key.children with
  | none => exact Run.Calls.value _
  | some children =>
      dsimp only
      refine Run.Calls.bind_free ?_ fun _ => Run.Calls.of_history fun _ => rfl
      have hcomputed := hev children (covered.domain_of_get? hchildren)
      cases children with
      | array items => exact Run.Calls.value items
      | _ =>
          refine Run.Calls.bind_free hcomputed fun v => ?_
          cases v with
          | array items => exact Run.Calls.value items
          | _ => exact Run.Calls.of_history fun _ => rfl

end Calls

theorem gatherCost_le (node : Dict Json) : gatherCost W node ≤ W.weightAt node Key.children := by
  unfold gatherCost Weighing.weightAt
  cases Dict.get? node Key.children with
  | none => exact Nat.zero_le _
  | some b => cases b <;> first | exact Nat.zero_le _ | exact Nat.le_refl _

/-- What is left of the properties when the fallback is taken out, with the fallback that the node
has then. -/
theorem fits_withoutFallback {p : String → Bool} (hp : p Key.fallback = true)
    (hfits : W.Fits p n props) :
    W.Fits p (n - W.weightAt props Key.fallback) (withoutFallback props) ∧
      W.weightAt props Key.fallback ≤ n := by
  unfold withoutFallback
  cases hkey : Dict.get? props Key.fallback with
  | none =>
      have hno : Dict.hasKey props Key.fallback = false := Dict.hasKey_eq_false_iff.mpr hkey
      rw [hno, if_neg Bool.false_ne_true, Weighing.weightAt, hkey]
      exact ⟨hfits, Nat.zero_le n⟩
  | some f =>
      have hyes : Dict.hasKey props Key.fallback = true := by
        rw [Dict.hasKey, hkey]
        rfl
      obtain ⟨hle, hremoved⟩ := hfits.swapRemove hkey hp
      rw [hyes, if_pos rfl, Weighing.weightAt_of_get? hkey]
      exact ⟨hremoved, hle⟩

section Gathered

variable (B : W.Builds W) (covered : W.Covers node)
  (plain : ∀ b items, Dict.get? node Key.children = some b → (childList ev k b).LeadsTo items →
    Children.MakesNoNode k items)
  (computed : ComputedWeighNothing W ev k node) (h : (gather ev k node).LeadsTo props)

include B covered plain computed h

/-- What is not evaluated to know the children, they weigh in their places. -/
theorem fits_of_gather {p : String → Bool} (hown : W.Fits p n (ownProps k.schema node)) :
    W.Fits p (n + (W.weightAt node Key.children - gatherCost W node)) props := by
  obtain ⟨w, w', hgather⟩ := h
  rcases gather_eq_ok hgather with ⟨-, rfl, -⟩ | ⟨b, items, hchildren, hitems, hplaced⟩
  · exact hown.mono (Nat.le_add_right _ _)
  · rw [Weighing.weightAt_of_get? hchildren, gatherCost, hchildren]
    have hb : W.domain b := covered.domain_of_get? hchildren
    have hplain := plain b items hchildren ⟨w, w', hitems⟩
    rcases childList_eq_ok hitems with ⟨rfl, -⟩ | ⟨hother, hrun⟩
    · refine (Weighing.placeChildren_fits B B hown (W.domain_item hb) hplain hplaced).mono
        (Nat.add_le_add_left ?_ n)
      exact W.weight_items hb
    · obtain ⟨hdomain, hweight⟩ := computed.children b items hchildren hother ⟨w, w', hrun⟩
      have hsum := W.weight_items hdomain
      exact (Weighing.placeChildren_fits B B hown (W.domain_item hdomain) hplain hplaced).mono
        (by omega)

/-- A fallback among the properties is one of the children. -/
theorem weightAt_fallback_le :
    W.weightAt props Key.fallback ≤ W.weightAt node Key.children - gatherCost W node := by
  have hnone : W.total (Dict.filterKeys (· == Key.fallback) (ownProps k.schema node)) = 0 := by
    have hempty : Dict.filterKeys (· == Key.fallback) (ownProps k.schema node) = [] := by
      refine List.filter_eq_nil_iff.mpr fun e he hkey => ?_
      have hmem : Key.fallback ∈ Dict.keys (ownProps k.schema node) :=
        List.mem_map.mpr ⟨e, he, beq_iff_eq.mp hkey⟩
      rw [← Dict.hasKey_iff, hasKey_ownProps] at hmem
      cases hmem
    rw [hempty]
    rfl
  have hown : W.Fits (· == Key.fallback) 0 (ownProps k.schema node) :=
    ⟨(Weighing.ownProps_fits fun e he _ => covered e he).covers, Nat.le_of_eq hnone⟩
  have hfits := fits_of_gather B covered plain computed h hown
  have hle := Weighing.weightAt_le_total (W := W)
    (Dict.filterKeys (· == Key.fallback) props) Key.fallback
  rw [Weighing.weightAt_filterKeys, if_pos (beq_self_eq_true _)] at hle
  have htotal := hfits.total_le
  omega

end Gathered

/-- Entries whose key satisfies `p` and the values of other names weigh no more than all entries. -/
theorem total_add_sum_weightAt_le (p : String → Bool) (d : Dict Json) {names : List String}
    (hnodup : names.Nodup) (hp : ∀ name ∈ names, p name = false) :
    W.total (Dict.filterKeys p d) + (names.map (W.weightAt d)).sum ≤ W.total d := by
  have hrest := Weighing.sum_weightAt_le (W := W) (d := d) (p := fun key => !p key) hnodup
    fun name hname => by rw [hp name hname]; rfl
  have hsplit : W.total d =
      W.total (Dict.filterKeys p d) + W.total (Dict.filterKeys (fun key => !p key) d) := by
    rw [← Weighing.total_append]
    exact Weighing.total_perm (List.filter_append_perm (fun e : String × Json => p e.1) d).symm
  omega

/-- The properties, children, fallback and conversion of a node weigh no more than its entries,
but for `type` where it is counted twice. -/
theorem entries_weigh (k : OperatorKind) (node : Dict Json) :
    W.total (Dict.filterKeys (Weighing.owns k) node) + W.weightAt node Key.children +
        W.weightAt node Key.fallback + W.option (conversionOf node) ≤
      W.total node + if (k = .plus ∨ k = .pgSql) ∧ Dict.get? node Key.outputType = none then
        W.weightAt node Key.type else 0 := by
  have hreserved : ∀ name ∈ [Key.children, Key.fallback, Key.outputType],
      Weighing.owns k name = false := by
    have hall : ∀ name ∈ [Key.children, Key.fallback, Key.outputType], isReserved name = true := by
      decide
    intro name hname
    rw [Weighing.owns, hall name hname]
    rfl
  have hkeys := total_add_sum_weightAt_le (W := W) (Weighing.owns k) node
    (by decide : [Key.children, Key.fallback, Key.outputType].Nodup) hreserved
  simp only [List.map_cons, List.map_nil, List.sum_cons, List.sum_nil] at hkeys
  cases houtput : Dict.get? node Key.outputType with
  | some c =>
      have hconversion : conversionOf node = some c := by rw [conversionOf, houtput, Option.or]
      have hweight : W.weightAt node Key.outputType = W.option (some c) := by
        rw [Weighing.weightAt, houtput]
      rw [hconversion, ← hweight]
      omega
  | none =>
      have hconversion : W.option (conversionOf node) = W.weightAt node Key.type := by
        rw [conversionOf, houtput, Option.none_or, Weighing.weightAt]
      rw [hconversion]
      by_cases hk : k = .plus ∨ k = .pgSql
      · rw [if_pos ⟨hk, rfl⟩]
        omega
      · -- For the other operators `type` is not among the properties.
        have htype : Weighing.owns k Key.type = false := by
          rw [Weighing.owns, OperatorKind.reads]
          obtain ⟨hplus, hsql⟩ := not_or.mp hk
          simp [hplus, hsql]
        have hmore := total_add_sum_weightAt_le (W := W) (Weighing.owns k) node
          (by decide : [Key.children, Key.fallback, Key.type].Nodup)
          (by simpa [hreserved] using htype)
        simp only [List.map_cons, List.map_nil, List.sum_cons, List.sum_nil] at hmore
        omega

/-- What the properties weigh that may be evaluated twice. -/
theorem sum_repeated (k : OperatorKind) (node : Dict Json) :
    ((repeated k node).map W.weight).sum =
      (if conversionMayFail node then W.weightAt node Key.fallback +
          if k = .objectProperties then W.option (secondChild node) else 0
        else 0) +
      if (k = .plus ∨ k = .pgSql) ∧ Dict.get? node Key.outputType = none then
        W.weightAt node Key.type else 0 := by
  have htoList : ∀ v : Option Json, (v.toList.map W.weight).sum = W.option v := by
    intro v
    cases v <;> simp [Weighing.option]
  have hif : ∀ (P : Prop) [Decidable P] (v : Option Json),
      ((if P then v.toList else []).map W.weight).sum = if P then W.option v else 0 := by
    intro P _ v
    split
    · exact htoList v
    · rfl
  unfold repeated
  rw [List.map_append, List.sum_append_nat, hif]
  cases conversionMayFail node with
  | false => rfl
  | true =>
      rw [if_pos rfl, if_pos rfl, List.map_append, List.sum_append_nat, htoList, hif]
      rfl

theorem option_secondChild_le (covered : W.Covers node) :
    W.option (secondChild node) ≤ W.weightAt node Key.children := by
  unfold secondChild Weighing.weightAt
  split
  · next u v rest hchildren =>
    rw [hchildren]
    have hsum := W.weight_items (covered.domain_of_get? hchildren)
    simp only [List.map_cons, List.sum_cons] at hsum
    show W.weight v ≤ W.weight (.array (u :: v :: rest))
    omega
  · exact Nat.zero_le _

theorem sum_repeated_le (covered : W.Covers node) (k : OperatorKind) :
    ((repeated k node).map W.weight).sum ≤ W.total node := by
  have hsecond := option_secondChild_le covered
  have hkeys := Weighing.sum_weightAt_le_total (W := W) node
    (by decide : [Key.fallback, Key.children, Key.type].Nodup)
  simp only [List.map_cons, List.map_nil, List.sum_cons, List.sum_nil] at hkeys
  rw [sum_repeated]
  split <;> split <;> first | omega | (split <;> omega)

/-- Only the children of an `OBJECT_PROPERTIES` node bring a fallback with them. -/
theorem get?_fallback_of_gather (h : (gather ev k node).LeadsTo props)
    (hk : k ≠ .objectProperties) : Dict.get? props Key.fallback = none := by
  obtain ⟨w, w', hgather⟩ := h
  exact Dict.hasKey_eq_false_iff.mp (hasKey_of_gather (fun heq => absurd heq hk) hgather)

/-- What comes to stand under the second of two names is the second value. -/
theorem second_of_byNames {d : Props} {items : List Json} {f : Json}
    (hnone : Dict.get? d Key.fallback = none)
    (hf : Dict.get? (Children.byNames ["property", Key.fallback] items d) Key.fallback = some f) :
    ∃ u rest, items = u :: f :: rest := by
  have hne : Key.fallback ≠ "property" := by decide
  match items with
  | [] =>
      rw [show Children.byNames ["property", Key.fallback] [] d = d from rfl, hnone] at hf
      cases hf
  | [u] =>
      rw [show Children.byNames ["property", Key.fallback] [u] d =
        Dict.insert d "property" u from rfl, Dict.get?_insert_of_ne _ _ hne, hnone] at hf
      cases hf
  | u :: v :: rest =>
      rw [show Children.byNames ["property", Key.fallback] (u :: v :: rest) d =
        Dict.insert (Dict.insert d "property" u) Key.fallback v from rfl,
        Dict.get?_insert_self] at hf
      cases hf
      exact ⟨u, rest, rfl⟩

/-- A fallback among the properties is the second child, if it weighs anything. -/
theorem weight_fallback_le (computed : ComputedWeighNothing W ev k node)
    (h : (gather ev k node).LeadsTo props) {f : Json} (hf : Dict.get? props Key.fallback = some f) :
    W.weight f ≤ W.option (secondChild node) := by
  have hk : k = .objectProperties := by
    by_contra hne
    rw [get?_fallback_of_gather h hne] at hf
    cases hf
  subst hk
  obtain ⟨w, w', hgather⟩ := h
  have hnone : Dict.get? (ownProps OperatorKind.objectProperties.schema node) Key.fallback = none :=
    Dict.hasKey_eq_false_iff.mp (hasKey_ownProps _ _)
  rcases gather_eq_ok hgather with ⟨-, rfl, -⟩ | ⟨b, items, hchildren, hitems, hplaced⟩
  · rw [hnone] at hf
    cases hf
  · cases hplaced
    obtain ⟨u, rest, rfl⟩ := second_of_byNames hnone hf
    rcases childList_eq_ok hitems with ⟨rfl, -⟩ | ⟨hother, hrun⟩
    · rw [secondChild, hchildren]
      exact Nat.le_refl _
    · obtain ⟨hdomain, hweight⟩ := computed.children b _ hchildren hother ⟨w, w', hrun⟩
      have hsum := W.weight_items hdomain
      simp only [List.map_cons, List.sum_cons] at hsum
      omega

theorem withoutFallback_of_gather (h : (gather ev k node).LeadsTo props)
    (hk : k ≠ .objectProperties) : withoutFallback props = props := by
  rw [withoutFallback, Dict.hasKey_eq_false_iff.mpr (get?_fallback_of_gather h hk)]
  rfl

section Whole

variable (hev : ∀ v, W.domain v → (ev v).Calls registration (W.weight v))
  (texts : TextsStand W ev) (B : W.Builds W)
  (covered : W.Covers node) (hk : operatorOf? env node = some k)
  (plain : ∀ b items, Dict.get? node Key.children = some b → (childList ev k b).LeadsTo items →
    Children.MakesNoNode k items)
  (computed : ComputedWeighNothing W ev k node)
  (hown : k = .customFunctions → ∀ props, (gather ev k node).LeadsTo props →
    Asking.OwnCallCosts env (fun m x => m.LeadsTo x)
      (fun f => if f.registration = registration then 1 else 0) (inside ev)
      (withoutFallback props) own)

include hev B covered hk plain computed hown

/-- What an operator calls, once its properties are gathered. -/
theorem compute_gathered_calls (h : (gather ev k node).LeadsTo props) :
    (compute env (inside ev) k (withoutFallback props)).Calls registration
        (W.total (Dict.filterKeys (Weighing.owns k) node) +
          (W.weightAt node Key.children - gatherCost W node) - W.weightAt props Key.fallback + own) ∧
      W.weightAt props Key.fallback ≤ W.total (Dict.filterKeys (Weighing.owns k) node) +
        (W.weightAt node Key.children - gatherCost W node) := by
  have hreads : k.reads Key.fallback = true := by
    have hne : (Key.fallback != Key.type) = true := by decide
    rw [OperatorKind.reads, hne]
    rfl
  have hfits := fits_of_gather B covered plain computed h
    (Weighing.ownProps_fits fun e he _ => covered e he)
  obtain ⟨hkept, hle⟩ := fits_withoutFallback hreads hfits
  refine ⟨?_, hle⟩
  have hanswers : k = .matching → Branching.AnswersWeighNothing W (fun m x => m.LeadsTo x)
      (inside ev) (withoutFallback props) := by
    rintro rfl b hb hliteral v ⟨w, w', hv⟩
    rw [withoutFallback_of_gather h (by decide)] at hb
    obtain ⟨w₁, w₂, hgather⟩ := h
    exact computed.branches rfl b (branches_of_gather hgather hb hliteral) hliteral v
      ⟨w, w', eval_of_inside hv⟩
  exact (Run.Calls.compute (fun v hv => hev v hv) hkept.covers (Env.permits_of_operatorOf? hk)
    hanswers fun hfunction => hown hfunction props h).mono
    (Nat.add_le_add_right hkept.total_le own)

include texts

/-- The calls of a node after its properties are gathered. -/
theorem apply_gathered_calls (h : (gather ev k node).LeadsTo props) :
    (apply env ev k node (fallbackOf node props) (withoutFallback props)).Calls registration
      (laterCost W k node own) := by
  unfold laterCost
  obtain ⟨hcompute, hle⟩ := compute_gathered_calls hev B covered hk plain computed hown h
  have hconversion : ∀ c, conversionOf node = some c → W.domain c := by
    intro c hc
    rcases Option.or_eq_some_iff.mp hc with hc | ⟨-, hc⟩ <;> exact covered.domain_of_get? hc
  have happly : ∀ fallback, (∀ f, fallback = some f → W.domain f) → _ :=
    fun fallback hf => apply_calls hev texts hf hconversion hcompute
  cases hfallback : Dict.get? props Key.fallback with
  | none =>
      -- The fallback is that of the node.
      have hof : fallbackOf node props = Dict.get? node Key.fallback := by
        rw [fallbackOf, hfallback, Option.none_or]
      rw [hof]
      refine (happly _ fun f hf => covered.domain_of_get? hf).mono ?_
      have hnode : W.option (Dict.get? node Key.fallback) = W.weightAt node Key.fallback := rfl
      rw [hnode]
      split <;> omega
  | some f =>
      -- The fallback is one of the children, and so it is not among the properties any more.
      have hof : fallbackOf node props = some f := by
        rw [fallbackOf, hfallback, Option.some_or]
      have hfits := fits_of_gather B covered plain computed h
        (Weighing.ownProps_fits fun e he _ => covered e he)
      have hdomain : W.domain f := hfits.covers.domain_of_get? hfallback
      have hweight : W.option (some f) = W.weightAt props Key.fallback := by
        rw [Weighing.weightAt, hfallback]
      have hchildren := weightAt_fallback_le B covered plain computed h
      have hsecond : W.weightAt props Key.fallback ≤ W.option (secondChild node) := by
        rw [← hweight]
        exact weight_fallback_le computed h hfallback
      have hk : k = .objectProperties := by
        by_contra hne
        rw [get?_fallback_of_gather h hne] at hfallback
        cases hfallback
      rw [hof]
      refine (happly _ fun g hg => by cases hg; exact hdomain).mono ?_
      rw [hweight, if_pos hk]
      split <;> omega

/-- **The calls of a node are those that are written in it**, once more where they are evaluated
twice, and the one that it makes of its own. -/
theorem operatorBody_calls :
    (operatorBody env ev node).Calls registration
      (W.total node + own + ((repeated k node).map W.weight).sum) := by
  have hweigh := entries_weigh (W := W) k node
  have hcost := gatherCost_le (W := W) node
  have hfallback : ∀ f, Dict.get? node Key.fallback = some f → W.domain f :=
    fun f hf => covered.domain_of_get? hf
  have hnode : W.option (Dict.get? node Key.fallback) = W.weightAt node Key.fallback := rfl
  unfold operatorBody
  rw [hk, sum_repeated]
  dsimp only
  unfold runOperator
  refine (Run.Calls.bind_of (b := laterCost W k node own)
    (Run.Calls.attempt (gather_calls (k := k) hev covered)) fun outcome hleads => ?_).mono ?_
  · cases outcome with
    | error failure =>
        refine (fallbackOr_calls hev hfallback failure).mono ?_
        rw [hnode, laterCost]
        omega
    | ok props =>
        obtain ⟨w, w', hattempt⟩ := hleads
        exact apply_gathered_calls hev texts B covered hk plain computed hown
          ⟨w, w', Run.eq_of_attempt hattempt⟩
  · rw [laterCost]
    omega

end Whole

end Node

end Evaluation

/-! ### Values made of literals and calls -/

namespace Evaluation

variable {env : Env} {registration depth : Nat}

theorem textsStand (env : Env) (registration depth : Nat) :
    TextsStand (OfCalls.weighing env registration) (eval env depth) := by
  intro s hs w outcome w' h
  cases depth with
  | zero => cases h
  | succ depth =>
      rw [((hs _ .self).2 s rfl).eval_eq depth w] at h
      cases h
      rfl

/-- A call calls the function that is written in it, and no other. -/
theorem operatorBody_call_calls
    (hev : ∀ v, OfCalls env v →
      (eval env depth v).Calls registration ((written env v).count registration))
    {call : Dict Json} (hcall : IsCall env call) :
    (operatorBody env (eval env depth) call).Calls registration
      ((callees env call).count registration) := by
  have covered : (OfCalls.weighing env registration).Covers call :=
    fun e he => (hcall.literal e he).ofCalls
  have hzero : (OfCalls.weighing env registration).total call = 0 := by
    have hentries : ∀ e ∈ call, (OfCalls.weighing env registration).weight e.2 = 0 := by
      intro e he
      show (written env e.2).count registration = 0
      rw [(hcall.literal e he).written_eq_nil]
      rfl
    rw [Weighing.total, List.map_congr_left hentries, Weighing.sum_zero]
  have hrepeated := sum_repeated_le covered .customFunctions
  have computed : ComputedWeighNothing (OfCalls.weighing env registration) (eval env depth)
      .customFunctions call :=
    { children := fun b items hb hother h => by
        obtain ⟨w, w', hrun⟩ := h
        exact absurd ((hcall.literal _ (Dict.mem_of_get? hb)).eq_of_eval hrun).symm (hother items)
      branches := fun hk => absurd hk (by decide) }
  have hown : ∀ props, (gather (eval env depth) .customFunctions call).LeadsTo props →
      Asking.OwnCallCosts env (fun m x => m.LeadsTo x)
        (fun f => if f.registration = registration then 1 else 0) (inside (eval env depth))
        (withoutFallback props) ((callees env call).count registration) := by
    rintro props h operands ⟨w₁, w₂, hoperands⟩ registered f hfind
    rw [withoutFallback_of_gather h (by decide)] at hoperands
    obtain ⟨w, w', hgather⟩ := h
    rw [callees_of_gather hcall hgather hoperands hfind, List.count_singleton]
    split <;> simp_all
  have hcalls := operatorBody_calls (W := OfCalls.weighing env registration) hev
    (textsStand env registration depth) (OfCalls.builds env registration) covered hcall.operator
    (fun _ _ _ _ => trivial) computed fun _ => hown
  exact hcalls.mono (by omega)

end Evaluation

/-- **Evaluation calls no function more often than it is written.** -/
theorem eval_calls {env : Env} (registration depth : Nat) {v : Json} (h : OfCalls env v) :
    (eval env depth v).Calls registration ((written env v).count registration) := by
  induction depth generalizing v with
  | zero => exact (Run.Calls.of_history fun _ => rfl).mono (Nat.zero_le _)
  | succ depth ih =>
      cases v with
      | array items =>
          rw [written, writtenItems_eq, List.count_flatMap]
          refine Run.Calls.bind_free ?_ fun _ => Run.Calls.value _
          exact Run.Calls.traverse items fun v hv => ih (h.item v hv)
      | object fields =>
          cases hnode : isNode (.object fields) with
          | true =>
              have hcall := h.isCall hnode
              rw [eval, Evaluation.node_operator env _ hcall.noFragment
                (Evaluation.hasKey_operator hcall.operator), written, if_pos hnode]
              exact Run.Calls.withFrame _ (Evaluation.operatorBody_call_calls (fun v => ih) hcall)
          | false =>
              rw [eval, Evaluation.node_leaf _ hnode, written_object hnode, List.count_flatMap]
              simp only [Evaluation.leaf]
              split
              · refine Run.Calls.bind_free ?_ fun _ => Run.Calls.value _
                exact Run.Calls.traverse fields fun e he =>
                  Run.Calls.bind_free (ih (h.entry e he)) fun v => Run.Calls.value (e.1, v)
              · exact (Run.Calls.value _).mono (Nat.zero_le _)
      | string s =>
          refine (Run.Calls.of_history fun w => ?_).mono (Nat.zero_le _)
          rw [((h _ .self).2 s rfl).eval_eq depth w]
      | _ => exact (Run.Calls.value _).mono (Nat.zero_le _)

/-! ### Nodes in which functions are written once -/

namespace Evaluation

/-- Where a node evaluates its children or branches and then what they come to, this is a literal. -/
def AnswersInert (env : Env) (k : OperatorKind) (node : Dict Json) : Prop :=
  ∀ b, (Dict.get? node Key.children = some b ∨
      k = .matching ∧ Dict.get? (ownProps k.schema node) "branches" = some b) →
    isNode b = true → ∀ depth v, (eval env depth b).LeadsTo v → Inert env v

/-- The function that a node calls of its own is none of these. -/
def CallsOther (env : Env) (node : Dict Json) (functions : List Nat) : Prop :=
  ∀ depth props, (gather (eval env depth) .customFunctions node).LeadsTo props →
    ∀ operands, ((inside (eval env depth)).operands (withoutFallback props)
        ["functionPath", "args", "useCache"]).LeadsTo operands →
      ∀ registered f, FunctionMap.find? (env.options.functions.getD [])
        ((Operands.string? operands "functionPath").getD "") = some (registered, f) →
          f.registration ∉ functions

/-- The functions that the calls written in a node call, not counting the one of the node itself. -/
def writtenIn (env : Env) (node : Dict Json) : List Nat := node.flatMap fun e => written env e.2

/-- An operator node that is made of literals and calls of different functions, each written once.
What it computes its children or branches to are literals, and it does not name the parameters of a
request like a node. -/
structure WritesOnce (env : Env) (k : OperatorKind) (node : Dict Json) : Prop where
  operator : operatorOf? env node = some k
  noFragment : Dict.hasKey node Key.fragment = false
  values : ∀ e ∈ node, OfCalls env e.2
  once : (writtenIn env node).Nodup
  other : k = .customFunctions → CallsOther env node (writtenIn env node)
  answers : AnswersInert env k node
  plain : ∀ depth b items, Dict.get? node Key.children = some b →
    (childList (eval env depth) k b).LeadsTo items → Children.MakesNoNode k items

section Computed

variable {env : Env} {k : OperatorKind} {node : Dict Json} {depth : Nat}

/-- An object that is no node comes to an object. -/
theorem object_of_leaf {fields : Dict Json} (hnode : isNode (.object fields) = false) {v : Json}
    (h : (eval env depth (.object fields)).LeadsTo v) : ∃ fields', v = .object fields' := by
  obtain ⟨w, w', hrun⟩ := h
  cases depth with
  | zero => cases hrun
  | succ depth =>
      rw [eval, node_leaf _ hnode] at hrun
      simp only [leaf] at hrun
      split at hrun
      · obtain ⟨e, -, he⟩ | ⟨fields', w₁, -, hobject⟩ := Run.andThen_finished hrun
        · cases he
        · cases hobject
          exact ⟨fields', rfl⟩
      · cases hrun
        exact ⟨fields, rfl⟩

/-- A value without elements and entries that is made of literals and calls is a literal. -/
theorem inert_of_leaf {v : Json} (h : OfCalls env v) (hleaf : ∀ u, Json.Part u v → u = v)
    (hnode : isNode v = false) : Inert env v := by
  intro u hu
  rw [hleaf u hu]
  exact ⟨hnode, (h v .self).2⟩

/-- What a value comes to that is no array, if it comes to an array or is no object. -/
theorem inert_of_answer {b v : Json} (hb : OfCalls env b) (harray : ∀ items, b ≠ .array items)
    (hobject : ∀ fields fields', b = .object fields → isNode b = false → v ≠ .object fields')
    (hanswer : isNode b = true → Inert env v) (h : (eval env depth b).LeadsTo v) :
    Inert env v := by
  cases hnode : isNode b with
  | true => exact hanswer hnode
  | false =>
      have hleaf : (∀ u, Json.Part u b → u = b) → Inert env v := by
        intro hparts
        have hinert := inert_of_leaf hb hparts hnode
        obtain ⟨w, w', hrun⟩ := h
        rw [hinert.eq_of_eval hrun]
        exact hinert
      cases b with
      | array items => exact absurd rfl (harray items)
      | object fields =>
          obtain ⟨fields', rfl⟩ := object_of_leaf hnode h
          exact absurd rfl (hobject fields fields' rfl hnode)
      | _ => exact hleaf fun u hu => by cases hu; rfl

theorem AnswersInert.computed (registration : Nat) (answers : AnswersInert env k node)
    (values : ∀ e ∈ node, OfCalls env e.2) :
    ComputedWeighNothing (OfCalls.weighing env registration) (eval env depth) k node := by
  have hinert : ∀ v, Inert env v → (OfCalls.weighing env registration).domain v ∧
      (OfCalls.weighing env registration).weight v = 0 := by
    refine fun v hv => ⟨hv.ofCalls, ?_⟩
    show (written env v).count registration = 0
    rw [hv.written_eq_nil]
    rfl
  refine ⟨fun b items hb hother h => hinert _ ?_, fun hk b hb hliteral v h => hinert v ?_⟩
  · exact inert_of_answer (values _ (Dict.mem_of_get? hb)) hother
      (fun _ _ _ _ heq => nomatch heq) (fun hnode => answers b (.inl hb) hnode depth _ h) h
  · have hown := Weighing.ownProps_fits (W := OfCalls.weighing env registration) (k := k)
      fun e he _ => values e he
    refine inert_of_answer (hown.covers.domain_of_get? hb) ?_ ?_
      (fun hnode => answers b (.inr ⟨hk, hb⟩) hnode depth v h) h
    · rintro items rfl
      cases hliteral
    · rintro fields fields' rfl hnode
      rw [Branching.isLiteral, hnode] at hliteral
      cases hliteral

end Computed

end Evaluation

/-! ### A property that is evaluated twice -/

namespace Evaluation

/-- A sum of given values, with a given `type`. -/
def sumOfType (values type : Json) : Dict Json :=
  [("operator", .string "+"), ("values", values), ("type", type)]

section SumOfType

variable {env : Env} {ev : Evaluator Failure} {values type : Json}

theorem ownProps_sumOfType : ownProps OperatorKind.plus.schema (sumOfType values type) =
    [("values", values), ("type", type)] := by
  have hplain : ∀ name ∈ ["values", "type"], isReserved name = false ∧
      OperatorKind.plus.schema.canonicalName? name = none := by decide
  have hnodup : ["values", "type"].Nodup := by decide
  exact ownProps_operator_cons _ hplain hnodup

theorem operatorOf?_sumOfType (known : env.registry.resolve? "+" = some .plus) :
    operatorOf? env (sumOfType values type) = some .plus := by
  have hname : Dict.get? (sumOfType values type) Key.operator = some (.string "+") := by
    simp [sumOfType, Dict.get?, Key.operator]
  rw [operatorOf?, hname, Option.bind_some, Json.asString?, Option.bind_some, known]

theorem ofNode_sumOfType : Frame.ofNode (sumOfType values type) = [] := by
  have hnames : ∀ name ∈ ["operator", "values", "type"], isBindingName name = false := by decide
  simp only [List.forall_mem_cons] at hnames
  simp [sumOfType, Frame.ofNode, Dict.filterKeys, hnames, Dict.mapValues]

/-- **A sum evaluates its `type` twice**, as an operand and as the name of its conversion. -/
theorem runOperator_sumOfType {items : List Json} {name name' : String} {w w₁ w₂ w₃ : World}
    (hvalues : ev values w = (some (.ok (.array items)), w₁))
    (hfirst : ev type w₁ = (some (.ok (.string name)), w₂))
    (hsecond : ev type w₂ = (some (.ok (.string name')), w₃))
    (hname : (OutputType.ofName? name').isSome = true) :
    (runOperator env ev .plus (sumOfType values type) w).2 = w₃ := by
  have hgather : gather ev .plus (sumOfType values type) w =
      (some (.ok [("values", values), ("type", type)]), w) := by
    rw [gather, ownProps_sumOfType]
    simp [sumOfType, Dict.get?, Key.children]
  have hoperands : (inside ev).operands [("values", values), ("type", type)] ["values", "type"] w =
      (some (.ok [("values", some (.array items)), ("type", some (.string name))]), w₂) := by
    simp [Evaluator.operands, Run.traverse, Run.andThen, Dict.get?, Evaluator.optional, inside,
      Run.mapFailure_apply, hvalues, hfirst, Except.mapError, Run.value]
  have hchecked : Run.ofExcept (env.checkOperands .plus
      [("values", some (.array items)), ("type", some (.string name))]) w₂ =
      (some (.ok ()), w₂) := by
    unfold Env.checkOperands Env.check
    split <;> rfl
  obtain ⟨v, hcompute⟩ : ∃ v, compute env (inside ev) .plus [("values", values), ("type", type)] w =
      (some (.ok v), w₂) :=
    ⟨_, (Run.bind_of_ok hoperands).trans (Run.bind_of_ok hchecked)⟩
  have hresult : computeOr env ev .plus none [("values", values), ("type", type)] w =
      (some (.ok v), w₂) := by
    rw [computeOr, Run.bind_of_ok (Run.attempt_of_finished hcompute)]
    rfl
  have hconversion : conversionOf (sumOfType values type) = some type := by
    simp [conversionOf, sumOfType, Dict.get?, Key.outputType, Key.type]
  obtain ⟨conversion, hofName⟩ := Option.isSome_iff_exists.mp hname
  have hconvert : (convert env ev .plus (sumOfType values type) none v w₂).2 = w₃ := by
    rw [convert, hconversion]
    dsimp only
    rw [Run.bind_of_ok (Run.attempt_of_finished hsecond)]
    dsimp only [Json.toText]
    rw [hofName]
    rfl
  unfold runOperator
  rw [Run.bind_of_ok (Run.attempt_of_finished hgather), ← hconvert]
  show (apply env ev .plus _ _ _ w).2 = _
  exact congrArg Prod.snd (Run.bind_of_ok hresult)

end SumOfType

end Evaluation

open Evaluation

/-- A host with two functions, the second of which answers with the name of a conversion. -/
def Env.naming : Env :=
  let functions : FunctionMap :=
    [("f", .constant 0 0 (Json.ofNat 1)), ("g", .constant 1 0 (.string "string"))]
  ⟨{ functions := some functions }, Registry.full⟩

/-- A sum of what the first function answers, with what the second one does as its `type`. -/
def namedSum : Dict Json :=
  sumOfType (.array [.object ((HostCall.mk "f" []).node false)])
    (.object ((HostCall.mk "g" []).node false))

namespace Env.naming

variable {path : String}

theorem isCall (hpath : isBindingName path = false) :
    IsCall Env.naming ((HostCall.mk path []).node false) :=
  HostCall.isCall_node _ _ (Registry.resolve?_name .customFunctions) rfl hpath (by simp)

/-- A function is called once by its call. -/
theorem eval_call {registration : Nat} {v : Json} (hpath : isBindingName path = false)
    (hfound : FunctionMap.find? (Env.naming.options.functions.getD []) path =
      some (path, .constant registration 0 v)) (depth : Nat) (cache : ResultCache)
    (history : History) :
    eval Env.naming (depth + 2) (.object ((HostCall.mk path []).node false)) ⟨[], cache, history⟩ =
      (some (.ok v), ⟨[], cache, .call registration path [] :: history⟩) := by
  have hknown : Env.naming.registry.resolve? "CUSTOM_FUNCTIONS" = some .customFunctions :=
    Registry.resolve?_name .customFunctions
  exact eval_constant rfl rfl hknown hpath hfound depth rfl

theorem written_call (hpath : isBindingName path = false) :
    written Env.naming (.object ((HostCall.mk path []).node false)) =
      (FunctionMap.find? (Env.naming.options.functions.getD []) path).toList.map fun found =>
        found.2.registration := by
  rw [(isCall hpath).written_eq, HostCall.callees_node]

theorem writtenIn_namedSum : writtenIn Env.naming namedSum = [0, 1] := by
  have hvalues : written Env.naming (.array [.object ((HostCall.mk "f" []).node false)]) = [0] := by
    rw [written, writtenItems_eq, List.flatMap_singleton, written_call (by decide)]
    rfl
  have htype : written Env.naming (.object ((HostCall.mk "g" []).node false)) = [1] :=
    written_call (by decide)
  simp only [writtenIn, namedSum, sumOfType, List.flatMap_cons, List.flatMap_nil]
  rw [hvalues, htype]
  rfl

theorem namedSum_writesOnce : WritesOnce Env.naming .plus namedSum where
  operator := operatorOf?_sumOfType (Registry.resolve?_full ⟨"+", by decide, rfl⟩)
  noFragment := by simp [namedSum, sumOfType, Dict.hasKey, Dict.get?, Key.fragment]
  values e he := by
    simp only [namedSum, sumOfType, List.mem_cons, List.not_mem_nil, or_false] at he
    obtain rfl | rfl | rfl := he
    · exact (Inert.text rfl (by decide)).ofCalls
    · refine .array fun v hv => ?_
      obtain rfl := List.mem_singleton.mp hv
      exact (isCall (by decide)).ofCalls
    · exact (isCall (by decide)).ofCalls
  once := by
    rw [writtenIn_namedSum]
    decide
  other := nofun
  answers b hb := by
    have hchildren : Dict.get? namedSum Key.children = none := by
      simp [namedSum, sumOfType, Dict.get?, Key.children]
    rw [hchildren] at hb
    simp at hb
  plain _ _ _ _ _ := trivial

/-- Only its `type` may be evaluated twice. -/
theorem repeated_namedSum :
    repeated .plus namedSum = [.object ((HostCall.mk "g" []).node false)] := by
  simp [repeated, namedSum, sumOfType, Dict.get?, Key.outputType, Key.type,
    Key.fallback]

end Env.naming

/-! ### Functions that are written once -/

/-- **A function that is written once in a node is called at most once**, whatever the operator of
the node is, in any world and whatever the functions answer; or at most twice if it is written in a
property that is evaluated twice. -/
theorem written_calls_are_made_once {env : Env} {k : OperatorKind} {node : Dict Json}
    (h : WritesOnce env k node) :
    ∀ registration ∈ writtenIn env node, ∀ depth w,
      (History.callsOf (eval env depth (.object node) w).2.history registration).length ≤
        (History.callsOf w.history registration).length +
          if registration ∈ (repeated k node).flatMap (written env) then 2 else 1 := by
  intro registration hmem depth w
  cases depth with
  | zero => exact Nat.le_add_right _ _
  | succ depth =>
      have hown : k = .customFunctions → ∀ props, (gather (eval env depth) k node).LeadsTo props →
          Asking.OwnCallCosts env (fun m x => m.LeadsTo x)
            (fun f => if f.registration = registration then 1 else 0) (inside (eval env depth))
            (withoutFallback props) 0 := by
        rintro rfl props hprops operands hoperands registered f hfind
        have hne : f.registration ≠ registration := by
          rintro rfl
          exact h.other rfl depth props hprops operands hoperands registered f hfind hmem
        exact Nat.le_of_eq (if_neg hne)
      have hcalls := Run.Calls.withFrame (Frame.ofNode node) (operatorBody_calls
        (W := OfCalls.weighing env registration) (fun v hv => eval_calls registration depth hv)
        (textsStand env registration depth) (OfCalls.builds env registration) h.values h.operator
        (h.plain depth) (h.answers.computed registration h.values) hown) w
      have htotal : (OfCalls.weighing env registration).total node ≤ 1 := by
        have hcount := List.nodup_iff_count_le_one.mp h.once registration
        rwa [writtenIn, List.count_flatMap] at hcount
      have hrepeated := sum_repeated_le (W := OfCalls.weighing env registration) h.values k
      rw [eval, node_operator env _ h.noFragment (hasKey_operator h.operator)]
      refine Nat.le_trans hcalls (Nat.add_le_add_left ?_ _)
      split
      · omega
      · next hno =>
        have hzero : ((repeated k node).map (OfCalls.weighing env registration).weight).sum = 0 := by
          have hcount := List.count_eq_zero.mpr hno
          rwa [List.count_flatMap] at hcount
        omega

open Env.naming in
/-- The function among the values is called at most once, in any world. -/
theorem named_sum_calls_its_values_once :
    WritesOnce Env.naming .plus namedSum ∧ ∀ depth w,
      (History.callsOf (eval Env.naming depth (.object namedSum) w).2.history 0).length ≤
        (History.callsOf w.history 0).length + 1 := by
  refine ⟨namedSum_writesOnce, fun depth w => ?_⟩
  have hmem : 0 ∈ writtenIn Env.naming namedSum := by
    rw [writtenIn_namedSum]
    decide
  have hother : 0 ∉ (repeated .plus namedSum).flatMap (written Env.naming) := by
    rw [repeated_namedSum, List.flatMap_singleton, written_call (by decide)]
    decide
  have hcalls := written_calls_are_made_once namedSum_writesOnce 0 hmem depth w
  rwa [if_neg hother] at hcalls

open Env.naming in
/-- The function that is written in the `type`, and nowhere else, is called twice. -/
theorem named_sum_calls_its_type_twice :
    let w : World := ⟨[], ResultCache.empty 0, []⟩
    WritesOnce Env.naming .plus namedSum ∧ writtenIn Env.naming namedSum = [0, 1] ∧
      (History.callsOf (eval Env.naming 4 (.object namedSum) w).2.history 1).length = 2 := by
  intro w
  refine ⟨namedSum_writesOnce, writtenIn_namedSum, ?_⟩
  have hvalues := eval_singleton
    (eval_call (by decide : isBindingName "f" = false) rfl 0 (ResultCache.empty 0) [])
  have htype := eval_call (by decide : isBindingName "g" = false) rfl 1 (ResultCache.empty 0)
  rw [eval_of_operator namedSum_writesOnce.noFragment namedSum_writesOnce.operator ofNode_sumOfType,
    namedSum, runOperator_sumOfType hvalues (htype _) (htype _) rfl]
  rfl

end JsonExpr
