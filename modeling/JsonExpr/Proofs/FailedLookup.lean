import JsonExpr.Proofs.Recency

/-!
# What a failed computation costs

A computation that fails gives back the place that its key took, but not what was given up for it.
The place is taken before the computation, and a full cache makes room for it with the key that was
used least recently.  So a failure is without a trace if there was room, or no room at all, and
costs a full cache its last key.  After that there is room, so however many computations fail one
after the other, the cost is never more than one key.

The queue shows this without a case distinction: after a failure it is what one place less would
have left of it (`JsonExpr.ResultCache.Paired.queue_settle_error`).

Main definitions:

* `JsonExpr.ResultCache.Lookup.Fail` — every lookup of a sequence ends with a failure.

Main results:

* `JsonExpr.ResultCache.Paired.settle_error_eq_self` — with room for the key, a failure leaves no
  trace;
* `JsonExpr.ResultCache.failed_computation_costs_a_full_cache_its_last_key` — **a failed computation
  leaves the cache as it was, unless the cache was full**;
* `JsonExpr.ResultCache.Lookup.keys_after_failures` — failures in a row cost no more than one.
-/

set_option autoImplicit false

namespace JsonExpr.ResultCache

variable {c : ResultCache} {key other : String} {ε σ : Type}

/-! ### The keys after a failure -/

/-- The place of a new key takes one from the others, and does not come back to them. -/
theorem filter_take_cons {queue : List String} (hnew : key ∉ queue) (bound : Nat) :
    ((key :: queue).take bound).filter (· != key) = queue.take (bound - 1) := by
  cases bound with
  | zero => rfl
  | succ bound =>
      rw [List.take_succ_cons, List.filter_cons_of_neg (by simp), Nat.add_sub_cancel]
      refine List.filter_eq_self.mpr fun other hother => bne_iff_ne.mpr ?_
      rintro rfl
      exact hnew (List.mem_of_mem_take hother)

/-- A key without a result leaves the queue, if it was there. -/
theorem Paired.queue_release_eq (h : Paired c) (hmiss : c.result? key = none) :
    (c.release key).queue = c.queue.filter (· != key) := by
  unfold ResultCache.release
  split
  · rfl
  · next hno =>
    have habsent : c.contains key = false := by
      unfold result? at hmiss
      unfold contains Dict.hasKey
      rcases hcell : Dict.get? c.store key with _ | _ | v
      · rfl
      · exact absurd hcell hno
      · simp [hcell] at hmiss
    refine (List.filter_eq_self.mpr fun other hother => bne_iff_ne.mpr ?_).symm
    rintro rfl
    exact h.not_mem_queue_iff.mpr habsent hother

/-- After a failure the queue is what one place less would have left of it. -/
theorem Paired.queue_settle_error (h : Paired c) (habsent : c.contains key = false) (e : ε) :
    (c.settle key (.error e)).queue = c.queue.take (c.bound - 1) := by
  have hnew : key ∉ c.queue := h.not_mem_queue_iff.mpr habsent
  rw [settle, claim_of_not_contains habsent,
    (h.reserve hnew).queue_release_eq (result?_reserve_self c key), queue_reserve,
    filter_take_cons hnew]

/-- The keys that stay keep what the store has for them. -/
theorem Paired.get?_settle_error (h : Paired c) (habsent : c.contains key = false) {e : ε}
    (hstays : other ∈ (c.settle key (.error e)).queue) :
    Dict.get? (c.settle key (.error e)).store other = Dict.get? c.store other := by
  have hnew : key ∉ c.queue := h.not_mem_queue_iff.mpr habsent
  have hne : other ≠ key := by
    rintro rfl
    rw [h.queue_settle_error habsent e] at hstays
    exact hnew (List.mem_of_mem_take hstays)
  have hplace : other ∈ (c.reserve key).queue := by
    rw [settle, claim_of_not_contains habsent,
      (h.reserve hnew).queue_release_eq (result?_reserve_self c key)] at hstays
    exact (List.mem_filter.mp hstays).1
  rw [settle, claim_of_not_contains habsent, get?_release_of_ne _ hne, ResultCache.reserve,
    (h.cons hnew).get?_trim hplace, Dict.get?_insert_of_ne c.store none hne]

/-! ### Room for one more key -/

/-- Nothing is given up within the bound. -/
theorem trim_eq_self (hfits : c.queue.length ≤ c.bound) : c.trim = c := by
  rw [trim, Nat.sub_eq_zero_of_le hfits, evictMany]

/-- Without any place, there is no key. -/
theorem Paired.eq_empty (h : Paired c) (hqueue : c.queue = []) : c = empty c.bound := by
  obtain ⟨store, queue, bound⟩ := c
  obtain rfl : queue = [] := hqueue
  have hkeys : Dict.keys store = [] := h.perm.symm.eq_nil
  rw [Dict.keys, List.map_eq_nil_iff] at hkeys
  rw [hkeys, empty]

/-- A place that was only taken is given back without a trace. -/
theorem Paired.release_cons (h : Paired c) (habsent : c.contains key = false) :
    ResultCache.release
      { c with store := Dict.insert c.store key none, queue := key :: c.queue } key = c := by
  have hnew : key ∉ c.queue := h.not_mem_queue_iff.mpr habsent
  have hqueue : c.queue.filter (· != key) = c.queue :=
    List.filter_eq_self.mpr fun other hother => bne_iff_ne.mpr fun heq => hnew (heq ▸ hother)
  have hstore : Dict.filterKeys (· != key) c.store = c.store := by
    refine List.filter_eq_self.mpr fun entry hentry => bne_iff_ne.mpr fun heq => hnew ?_
    exact h.perm.mem_iff.mpr (List.mem_map.mpr ⟨entry, hentry, heq⟩)
  have hinsert : Dict.filterKeys (· != key) (Dict.insert c.store key none) = c.store := by
    rw [Dict.insert_eq_append habsent, Dict.filterKeys, List.filter_append,
      List.filter_cons_of_neg (by simp), List.filter_nil, List.append_nil]
    exact hstore
  rw [ResultCache.release]
  dsimp only
  rw [Dict.get?_insert_self]
  dsimp only
  rw [hinsert, List.filter_cons_of_neg (by simp), hqueue]

/-- If there is room for the key, or for none at all, a failure leaves no trace. -/
theorem Paired.settle_error_eq_self (h : Paired c) (fits : c.queue.length ≤ c.bound)
    (habsent : c.contains key = false) (room : c.queue.length < c.bound ∨ c.bound = 0) (e : ε) :
    c.settle key (.error e) = c := by
  rw [settle, claim_of_not_contains habsent]
  rcases room with room | hbound
  · have hplace : c.reserve key =
        { c with store := Dict.insert c.store key none, queue := key :: c.queue } :=
      trim_eq_self room
    rw [hplace, h.release_cons habsent]
  · have hqueue : c.queue = [] := List.eq_nil_of_length_eq_zero (by omega)
    rw [h.eq_empty hqueue, hbound]
    simp [ResultCache.reserve, ResultCache.trim, ResultCache.evictMany, ResultCache.evict,
      ResultCache.release, empty, Dict.insert, Dict.filterKeys, Dict.get?]

/-! ### One failure -/

/-- **A failed computation leaves the cache as it was, unless the cache was full.**  The failure is
the answer.  If the cache had fewer keys than its bound allows, or may have none, it is the very
same as before.  If it was full, the least recently used key is gone, and all others are there in
the same order with what the store had for them. -/
theorem failed_computation_costs_a_full_cache_its_last_key (h : Paired c)
    (fits : c.keys.length ≤ c.bound) (habsent : c.contains key = false)
    {compute : σ → Except ε Json × σ} {s : σ} {e : ε} (hfails : (compute s).1 = .error e) :
    (c.getOrInsert key compute s).1 = .error e ∧
      (c.getOrInsert key compute s).2.2 = (compute s).2 ∧
      (c.keys.length < c.bound ∨ c.bound = 0 → (c.getOrInsert key compute s).2.1 = c) ∧
      (c.keys.length = c.bound → 0 < c.bound →
        (c.getOrInsert key compute s).2.1.bound = c.bound ∧
        (c.getOrInsert key compute s).2.1.keys = c.keys.dropLast ∧
        ∀ other ∈ c.keys.dropLast,
          Dict.get? (c.getOrInsert key compute s).2.1.store other = Dict.get? c.store other) := by
  have hrun : c.getOrInsert key compute s = (.error e, c.settle key (.error e), (compute s).2) := by
    rw [getOrInsert_of_no_result (result?_eq_none habsent), hfails]
  rw [hrun]
  refine ⟨rfl, rfl, fun room => h.settle_error_eq_self fits habsent room e, fun full _ => ?_⟩
  have hqueue : (c.settle key (.error e)).queue = c.keys.dropLast := by
    rw [h.queue_settle_error habsent, List.dropLast_eq_take, ← full]
    rfl
  refine ⟨bound_settle c key _, hqueue, fun other hstays => ?_⟩
  exact h.get?_settle_error habsent (hqueue ▸ hstays)

/-- A lookup whose computation has its key as result. -/
def Lookup.storing (key : String) : Lookup String Nat := ⟨key, fun n => (.ok (.string key), n)⟩

/-- A lookup whose computation fails and is counted. -/
def Lookup.failing (key : String) : Lookup String Nat := ⟨key, fun n => (.error "boom", n + 1)⟩

/-- With two places and two keys, a failure costs the key that was used first. -/
theorem first_of_two_keys_is_lost :
    let c := (Lookup.run [.storing "a", .storing "b"] (empty 2, 0)).1
    let after := c.getOrInsert "c" (Lookup.failing "c").compute 0
    Paired c ∧ c.keys = ["b", "a"] ∧ c.contains "c" = false ∧
      after.1 = .error "boom" ∧ after.2.2 = 1 ∧ after.2.1.keys = ["b"] ∧
      after.2.1.result? "b" = some (.string "b") := by
  intro c after
  have hc : Paired c := (Lookup.consistent_run (empty_consistent 2) _).toPaired
  have habsent : c.contains "c" = false := by decide
  have hfails : ((Lookup.failing "c").compute 0).1 = .error "boom" := rfl
  obtain ⟨hanswer, hstate, -, hfull⟩ :=
    failed_computation_costs_a_full_cache_its_last_key hc (by decide) habsent hfails
  obtain ⟨-, hkeys, hcells⟩ := hfull (by decide) (by decide)
  refine ⟨hc, by decide, habsent, hanswer, hstate, hkeys, ?_⟩
  rw [result?, hcells "b" (by decide)]
  rfl

/-- With one place and one key, a failure costs that key. -/
theorem failed_computation_leaves_a_trace :
    let c := (Lookup.run [.storing "a"] (empty 1, 0)).1
    let after := c.getOrInsert "b" (Lookup.failing "b").compute 0
    c.contains "b" = false ∧ after.1 = .error "boom" ∧ c.keys = ["a"] ∧ after.2.1.keys = [] :=
  ⟨rfl, rfl, rfl, rfl⟩

/-! ### Failures in a row -/

/-- A lookup that fails is of a key that is absent, and leaves what a failed computation does. -/
theorem Consistent.settle_of_error (h : Consistent c) {compute : σ → Except ε Json × σ} {s : σ}
    {e : ε} (hfails : (c.getOrInsert key compute s).1 = .error e) :
    c.contains key = false ∧ (c.getOrInsert key compute s).2.1 = c.settle key (.error e) := by
  cases hkey : c.contains key with
  | true =>
      obtain ⟨v, hv⟩ := h.contains_iff.mp hkey
      rw [getOrInsert_of_result hv] at hfails
      cases hfails
  | false =>
      rw [getOrInsert_of_no_result (result?_eq_none hkey)] at hfails ⊢
      exact ⟨rfl, congrArg (c.settle key) hfails⟩

namespace Lookup

/-- Every lookup of a sequence ends with a failure. -/
def Fail : List (Lookup ε σ) → ResultCache × σ → Prop
  | [], _ => True
  | l :: ls, p =>
    (∃ e, (p.1.getOrInsert l.key l.compute p.2).1 = .error e) ∧
      Fail ls (Operation.apply p l.operation)

/-- **Failures in a row cost no more than one.**  However many lookups fail one after the other, the
keys are those that one place less would have left, and the store has for them what it had. -/
theorem keys_after_failures {p : ResultCache × σ} (h : Consistent p.1) {l : Lookup ε σ}
    {ls : List (Lookup ε σ)} (hfail : Fail (l :: ls) p) :
    (run (l :: ls) p).1.keys = p.1.keys.take (p.1.bound - 1) ∧
      ∀ other ∈ (run (l :: ls) p).1.keys,
        Dict.get? (run (l :: ls) p).1.store other = Dict.get? p.1.store other := by
  induction ls generalizing p l with
  | nil =>
      obtain ⟨⟨e, he⟩, -⟩ := hfail
      obtain ⟨habsent, hsettle⟩ := h.settle_of_error he
      have hrun : (run [l] p).1 = p.1.settle l.key (.error e) := hsettle
      rw [hrun]
      exact ⟨h.queue_settle_error habsent e, fun _ => h.get?_settle_error habsent⟩
  | cons next ls ih =>
      obtain ⟨hfirst, hrest⟩ := hfail
      obtain ⟨hkeys, hcells⟩ := ih (Operation.consistent_apply h l.operation) hrest
      obtain ⟨e, he⟩ := hfirst
      obtain ⟨habsent, hsettle⟩ := h.settle_of_error he
      have hafter : (Operation.apply p l.operation).1 = p.1.settle l.key (.error e) := hsettle
      have hstep : (Operation.apply p l.operation).1.keys = p.1.keys.take (p.1.bound - 1) := by
        rw [hafter]
        exact h.queue_settle_error habsent e
      have hrun : (run (l :: next :: ls) p).1.keys = p.1.keys.take (p.1.bound - 1) := by
        rw [run_cons, hkeys, hstep, hafter, bound_settle, List.take_take, Nat.min_self]
      refine ⟨hrun, fun other hother => ?_⟩
      have hstays : other ∈ (Operation.apply p l.operation).1.keys := by
        rwa [hstep, ← hrun]
      rw [run_cons] at hother ⊢
      rw [hcells other hother, hafter]
      rw [hafter] at hstays
      exact h.get?_settle_error habsent hstays

end Lookup

end JsonExpr.ResultCache
