import JsonExpr.Cache
import JsonExpr.Proofs.Dict
import Mathlib.Data.List.Basic

/-!
# The store and the queue of a cache

The store and the queue of a cache are changed by different operations, each on its own: a hit moves
a key in the queue, a new key enters both, keys past the bound leave both one by one, and a failed
computation takes its key out of both again.  The two never fall apart: the queue has no key twice,
its keys are those of the store, there are never more than the bound allows, and between operations
each of them has its result.

While a new key is being computed it has a place but no result.  So the invariant is stated in two
steps: `Paired` is about the keys alone and holds throughout, `Consistent` adds the bound and the
results and holds between operations.

Main definitions:

* `JsonExpr.ResultCache.Paired`, `JsonExpr.ResultCache.Consistent` — the invariant;
* `JsonExpr.ResultCache.Operation` — what can be done to a cache, and what runs of it come to;
* `JsonExpr.ResultCache.LooksUp` — what a lookup owes to the one who asks.

Main results:

* `JsonExpr.ResultCache.queue_trim`, `JsonExpr.ResultCache.get?_trim` — which keys are given up;
* `JsonExpr.ResultCache.Consistent.getOrInsert` — a lookup keeps the invariant;
* `JsonExpr.ResultCache.cache_consistent_along_run` — **the invariant holds along every run**, and
  every lookup along it computes exactly what is not there.
-/

set_option autoImplicit false

namespace JsonExpr.ResultCache

variable {c : ResultCache} {key other : String}

/-! ### The invariant -/

/-- The queue has no key twice, and its keys are those of the store. -/
structure Paired (c : ResultCache) : Prop where
  nodup : c.queue.Nodup
  perm : c.queue.Perm (Dict.keys c.store)

/-- The keys of queue and store are the same, within the bound, and each has its result. -/
structure Consistent (c : ResultCache) : Prop extends Paired c where
  length_le : c.queue.length ≤ c.bound
  known : ∀ key, Dict.get? c.store key ≠ some none

theorem Paired.mem_queue_iff (h : Paired c) : key ∈ c.queue ↔ c.contains key = true := by
  rw [h.perm.mem_iff, contains, Dict.hasKey_iff]

theorem Paired.not_mem_queue_iff (h : Paired c) : key ∉ c.queue ↔ c.contains key = false := by
  rw [h.mem_queue_iff, Bool.not_eq_true]

theorem Paired.size_eq (h : Paired c) : c.size = c.queue.length := by
  rw [size, h.perm.length_eq, Dict.keys, List.length_map]

/-- What is known of a key is what the store has for it. -/
theorem result?_eq_some {v : Json} :
    c.result? key = some v ↔ Dict.get? c.store key = some (some v) :=
  Option.join_eq_some_iff

theorem contains_of_result? {v : Json} (h : c.result? key = some v) : c.contains key = true := by
  unfold result? at h
  unfold contains Dict.hasKey
  cases hget : Dict.get? c.store key with
  | none =>
      rw [hget] at h
      cases h
  | some cell => rfl

theorem result?_eq_none (h : c.contains key = false) : c.result? key = none := by
  rw [Option.eq_none_iff_forall_not_mem]
  intro v hv
  rw [contains_of_result? hv] at h
  cases h

/-- In a consistent cache a key has a place exactly if it has a result. -/
theorem Consistent.contains_iff (h : Consistent c) :
    c.contains key = true ↔ ∃ v, c.result? key = some v := by
  constructor
  · intro hkey
    have hknown := h.known key
    unfold contains Dict.hasKey at hkey
    unfold result?
    rcases hget : Dict.get? c.store key with _ | _ | v
    · simp [hget] at hkey
    · exact absurd hget hknown
    · exact ⟨v, rfl⟩
  · rintro ⟨v, hv⟩
    exact contains_of_result? hv

theorem empty_consistent (bound : Nat) : Consistent (empty bound) where
  nodup := List.nodup_nil
  perm := List.Perm.nil
  length_le := Nat.zero_le bound
  known _ h := nomatch h

/-! ### Giving up keys -/

@[simp] theorem queue_evict (c : ResultCache) : c.evict.queue = c.queue.dropLast := by
  unfold evict
  split
  · next h => rw [List.getLast?_eq_none_iff.mp h, List.dropLast_nil]
  · rfl

@[simp] theorem bound_evict (c : ResultCache) : c.evict.bound = c.bound := by
  unfold evict
  split <;> rfl

/-- The store after a key was given up has nothing that it did not have before. -/
theorem get?_of_get?_evict {cell : Option Json} (h : Dict.get? c.evict.store key = some cell) :
    Dict.get? c.store key = some cell := by
  unfold evict at h
  split at h
  · exact h
  · dsimp only at h
    rw [Dict.get?_filterKeys] at h
    split at h
    · exact h
    · cases h

theorem dropLast_append_last {last : String} (hlast : c.queue.getLast? = some last) :
    c.queue.dropLast ++ [last] = c.queue :=
  List.dropLast_append_getLast? last hlast

/-- The last key of the queue is none of the keys before it. -/
theorem Paired.ne_of_mem_dropLast (h : Paired c) {last : String}
    (hlast : c.queue.getLast? = some last) (hkey : key ∈ c.queue.dropLast) : key ≠ last := by
  have hnodup : (c.queue.dropLast ++ [last]).Nodup := by
    rw [dropLast_append_last hlast]
    exact h.nodup
  exact (List.nodup_append.mp hnodup).2.2 key hkey last List.mem_cons_self

/-- The keys that stay keep what the store has for them. -/
theorem Paired.get?_evict (h : Paired c) (hkey : key ∈ c.evict.queue) :
    Dict.get? c.evict.store key = Dict.get? c.store key := by
  rw [queue_evict] at hkey
  unfold evict
  split
  · rfl
  · next last hlast =>
    have hne : (key != last) = true := bne_iff_ne.mpr (h.ne_of_mem_dropLast hlast hkey)
    dsimp only
    rw [Dict.get?_filterKeys, hne, if_pos rfl]

theorem Paired.evict (h : Paired c) : Paired c.evict where
  nodup := by
    rw [queue_evict]
    exact h.nodup.sublist (List.dropLast_sublist c.queue)
  perm := by
    unfold ResultCache.evict
    split
    · exact h.perm
    · next last hlast =>
      have hkept : c.queue.filter (· != last) = c.queue.dropLast := by
        calc c.queue.filter (· != last)
            = (c.queue.dropLast ++ [last]).filter (· != last) := by
              rw [dropLast_append_last hlast]
          _ = c.queue.dropLast.filter (· != last) := by simp
          _ = c.queue.dropLast := List.filter_eq_self.mpr fun key hkey =>
              bne_iff_ne.mpr (h.ne_of_mem_dropLast hlast hkey)
      dsimp only
      rw [Dict.keys_filterKeys, ← hkept]
      exact h.perm.filter _

theorem queue_evictMany (n : Nat) (c : ResultCache) :
    (evictMany n c).queue = c.queue.take (c.queue.length - n) := by
  induction n generalizing c with
  | zero => rw [evictMany, Nat.sub_zero, List.take_length]
  | succ n ih =>
      have hlength : c.queue.dropLast.length - n = c.queue.length - (n + 1) := by
        rw [List.length_dropLast]
        omega
      rw [evictMany, ih, queue_evict, hlength, List.dropLast_eq_take, List.take_take]
      congr 1
      omega

@[simp] theorem bound_evictMany (n : Nat) (c : ResultCache) : (evictMany n c).bound = c.bound := by
  induction n generalizing c with
  | zero => rfl
  | succ n ih => rw [evictMany, ih, bound_evict]

theorem get?_of_get?_evictMany {n : Nat} {cell : Option Json}
    (h : Dict.get? (evictMany n c).store key = some cell) : Dict.get? c.store key = some cell := by
  induction n generalizing c with
  | zero => exact h
  | succ n ih => exact get?_of_get?_evict (ih h)

theorem Paired.evictMany (h : Paired c) (n : Nat) : Paired (ResultCache.evictMany n c) := by
  induction n generalizing c with
  | zero => exact h
  | succ n ih => exact ih h.evict

theorem Paired.get?_evictMany (h : Paired c) {n : Nat}
    (hkey : key ∈ (ResultCache.evictMany n c).queue) :
    Dict.get? (ResultCache.evictMany n c).store key = Dict.get? c.store key := by
  induction n generalizing c with
  | zero => rfl
  | succ n ih =>
      have hstays : key ∈ c.evict.queue := by
        rw [ResultCache.evictMany, queue_evictMany] at hkey
        exact List.mem_of_mem_take hkey
      rw [ResultCache.evictMany, ih h.evict hkey, h.get?_evict hstays]

/-- The most recently used keys stay, as many as the bound allows. -/
@[simp] theorem queue_trim (c : ResultCache) : c.trim.queue = c.queue.take c.bound := by
  rw [trim, queue_evictMany]
  by_cases h : c.queue.length ≤ c.bound
  · rw [Nat.sub_eq_zero_of_le h, Nat.sub_zero, List.take_length, List.take_of_length_le h]
  · congr 1
    omega

@[simp] theorem bound_trim (c : ResultCache) : c.trim.bound = c.bound := bound_evictMany _ c

theorem length_trim_le (c : ResultCache) : c.trim.queue.length ≤ c.trim.bound := by
  rw [queue_trim, bound_trim]
  exact List.length_take_le c.bound c.queue

theorem get?_of_get?_trim {cell : Option Json} (h : Dict.get? c.trim.store key = some cell) :
    Dict.get? c.store key = some cell :=
  get?_of_get?_evictMany h

theorem Paired.trim (h : Paired c) : Paired c.trim := h.evictMany _

/-- The keys that stay keep what the store has for them. -/
theorem Paired.get?_trim (h : Paired c) (hkey : key ∈ c.trim.queue) :
    Dict.get? c.trim.store key = Dict.get? c.store key :=
  h.get?_evictMany hkey

/-! ### A new bound, and no keys at all -/

theorem Paired.withBound (h : Paired c) (bound : Nat) : Paired { c with bound := bound } :=
  ⟨h.nodup, h.perm⟩

theorem Consistent.setBound (h : Consistent c) (bound : Nat) : Consistent (c.setBound bound) where
  toPaired := (h.toPaired.withBound bound).trim
  length_le := length_trim_le _
  known key hkey := h.known key (get?_of_get?_trim (c := { c with bound := bound }) hkey)

theorem Consistent.clear (_h : Consistent c) : Consistent c.clear := empty_consistent c.bound

/-! ### Places -/

@[simp] theorem store_touch (c : ResultCache) (key : String) : (c.touch key).store = c.store := by
  unfold touch
  split <;> rfl

@[simp] theorem bound_touch (c : ResultCache) (key : String) : (c.touch key).bound = c.bound := by
  unfold touch
  split <;> rfl

/-- A key that is there moves to the front, and the others keep their order. -/
theorem queue_touch (h : key ∈ c.queue) : (c.touch key).queue = key :: c.queue.erase key := by
  simp only [touch, h, if_true]

theorem Paired.touch (h : Paired c) (key : String) : Paired (c.touch key) := by
  by_cases hkey : key ∈ c.queue
  · have hperm : (c.touch key).queue.Perm c.queue := by
      rw [queue_touch hkey]
      exact (List.perm_cons_erase hkey).symm
    refine ⟨hperm.nodup_iff.mpr h.nodup, ?_⟩
    rw [store_touch]
    exact hperm.trans h.perm
  · simp only [ResultCache.touch, hkey, if_false]
    exact h

theorem Consistent.touch (h : Consistent c) (hkey : key ∈ c.queue) : Consistent (c.touch key) where
  toPaired := h.toPaired.touch key
  length_le := by
    rw [queue_touch hkey, bound_touch, ← (List.perm_cons_erase hkey).length_eq]
    exact h.length_le
  known other := by
    rw [store_touch]
    exact h.known other

/-- A new key in front of the others, before any is given up. -/
theorem Paired.cons (h : Paired c) (hkey : key ∉ c.queue) :
    Paired { c with store := Dict.insert c.store key none, queue := key :: c.queue } where
  nodup := List.nodup_cons.mpr ⟨hkey, h.nodup⟩
  perm := by
    have hnew : key ∉ Dict.keys c.store := fun hmem => hkey (h.perm.mem_iff.mpr hmem)
    dsimp only
    rw [Dict.keys_insert, if_neg hnew]
    exact (List.Perm.cons key h.perm).trans (List.perm_append_singleton key _).symm

theorem queue_reserve (c : ResultCache) (key : String) :
    (c.reserve key).queue = (key :: c.queue).take c.bound := by
  rw [reserve, queue_trim]

@[simp] theorem bound_reserve (c : ResultCache) (key : String) :
    (c.reserve key).bound = c.bound := by
  rw [reserve, bound_trim]

theorem Paired.reserve (h : Paired c) (hkey : key ∉ c.queue) : Paired (c.reserve key) :=
  (h.cons hkey).trim

/-- Reserving a place gives no other key anything. -/
theorem get?_of_get?_reserve {cell : Option Json} (hne : other ≠ key)
    (h : Dict.get? (c.reserve key).store other = some cell) :
    Dict.get? c.store other = some cell := by
  have hinsert := get?_of_get?_trim h
  rwa [Dict.get?_insert_of_ne c.store none hne] at hinsert

/-- The place of a new key, while it has one, has no result yet. -/
theorem get?_of_get?_reserve_self {cell : Option Json}
    (h : Dict.get? (c.reserve key).store key = some cell) : cell = none := by
  have hinsert := get?_of_get?_trim h
  rw [Dict.get?_insert_self] at hinsert
  exact (Option.some.inj hinsert).symm

/-- A new key has no result while it is being computed. -/
theorem result?_reserve_self (c : ResultCache) (key : String) :
    (c.reserve key).result? key = none := by
  unfold result?
  cases hcell : Dict.get? (c.reserve key).store key with
  | none => rfl
  | some cell =>
      rw [get?_of_get?_reserve_self hcell]
      rfl

theorem claim_of_not_contains (h : c.contains key = false) : c.claim key = c.reserve key := by
  rw [claim, h]
  rfl

/-- A key without a result has none while it has its place. -/
theorem result?_claim_self (h : c.result? key = none) : (c.claim key).result? key = none := by
  unfold claim
  split
  · rwa [result?, store_touch]
  · exact result?_reserve_self c key

/-! ### Places after the computation -/

@[simp] theorem queue_fill (c : ResultCache) (key : String) (v : Json) :
    (c.fill key v).queue = c.queue := by
  unfold fill
  split <;> rfl

@[simp] theorem bound_fill (c : ResultCache) (key : String) (v : Json) :
    (c.fill key v).bound = c.bound := by
  unfold fill
  split <;> rfl

theorem keys_store_fill (c : ResultCache) (key : String) (v : Json) :
    Dict.keys (c.fill key v).store = Dict.keys c.store := by
  unfold fill
  split
  · next h => rw [Dict.keys_insert, if_pos (Dict.hasKey_iff.mp h)]
  · rfl

theorem get?_fill_of_ne (c : ResultCache) (v : Json) (hne : other ≠ key) :
    Dict.get? (c.fill key v).store other = Dict.get? c.store other := by
  unfold fill
  split
  · exact Dict.get?_insert_of_ne c.store _ hne
  · rfl

/-- A key that has a place has the result afterwards. -/
theorem get?_fill_self {cell : Option Json} {v : Json}
    (h : Dict.get? (c.fill key v).store key = some cell) : cell = some v := by
  unfold fill at h
  split at h
  · rw [Dict.get?_insert_self] at h
    exact (Option.some.inj h).symm
  · next hkey =>
    rw [contains, Dict.hasKey, h] at hkey
    exact absurd rfl hkey

theorem Paired.fill (h : Paired c) (key : String) (v : Json) : Paired (c.fill key v) where
  nodup := by
    rw [queue_fill]
    exact h.nodup
  perm := by
    rw [queue_fill, keys_store_fill]
    exact h.perm

@[simp] theorem bound_release (c : ResultCache) (key : String) :
    (c.release key).bound = c.bound := by
  unfold release
  split <;> rfl

theorem get?_release_of_ne (c : ResultCache) (hne : other ≠ key) :
    Dict.get? (c.release key).store other = Dict.get? c.store other := by
  unfold release
  split
  · dsimp only
    rw [Dict.get?_filterKeys, bne_iff_ne.mpr hne, if_pos rfl]
  · rfl

/-- A key without a result has no place afterwards. -/
theorem get?_release_self (h : c.result? key = none) :
    Dict.get? (c.release key).store key = none := by
  unfold result? at h
  unfold release
  rcases hget : Dict.get? c.store key with _ | _ | v
  · exact hget
  · dsimp only
    rw [Dict.get?_filterKeys, bne_self_eq_false]
    rfl
  · simp [hget] at h

theorem queue_release (c : ResultCache) (key : String) :
    (c.release key).queue = c.queue ∨ (c.release key).queue = c.queue.filter (· != key) := by
  unfold release
  split
  · exact .inr rfl
  · exact .inl rfl

theorem length_release_le (c : ResultCache) (key : String) :
    (c.release key).queue.length ≤ c.queue.length := by
  rcases queue_release c key with h | h
  · exact Nat.le_of_eq (congrArg List.length h)
  · rw [h]
    exact List.length_filter_le _ c.queue

theorem Paired.release (h : Paired c) (key : String) : Paired (c.release key) := by
  unfold ResultCache.release
  split
  · refine ⟨h.nodup.filter _, ?_⟩
    rw [Dict.keys_filterKeys]
    exact h.perm.filter _
  · exact h

/-! ### The cache after a computation -/

section Settle

variable {ε : Type}

@[simp] theorem bound_settle (c : ResultCache) (key : String) (outcome : Except ε Json) :
    (c.settle key outcome).bound = c.bound := by
  have hclaim : (c.claim key).bound = c.bound := by
    unfold claim
    split
    · exact bound_touch c key
    · exact bound_reserve c key
  cases outcome with
  | ok v => rw [settle, bound_fill, hclaim]
  | error e => rw [settle, bound_release, hclaim]

/-- A computation gives no other key a result. -/
theorem get?_of_get?_settle {outcome : Except ε Json} {cell : Option Json} (hne : other ≠ key)
    (h : Dict.get? (c.settle key outcome).store other = some cell) :
    Dict.get? c.store other = some cell := by
  have hclaim : Dict.get? (c.claim key).store other = some cell := by
    cases outcome with
    | ok v => rwa [settle, get?_fill_of_ne _ v hne] at h
    | error e => rwa [settle, get?_release_of_ne _ hne] at h
  unfold claim at hclaim
  split at hclaim
  · rwa [store_touch] at hclaim
  · exact get?_of_get?_reserve hne hclaim

/-- A key that had no result has that of its computation afterwards, if any. -/
theorem eq_ok_of_result?_settle (h : c.result? key = none) {outcome : Except ε Json} {v : Json}
    (hv : (c.settle key outcome).result? key = some v) : outcome = .ok v := by
  rw [result?_eq_some] at hv
  cases outcome with
  | ok u =>
      cases get?_fill_self hv
      rfl
  | error e =>
      rw [settle, get?_release_self (result?_claim_self h)] at hv
      cases hv

/-- A result is kept for a new key if there is place for any. -/
theorem Paired.result?_settle_ok (h : Paired c) (hkey : c.contains key = false)
    (hbound : 0 < c.bound) (v : Json) : (c.settle key (.ok v : Except ε Json)).result? key = some v := by
  have hnew : key ∉ c.queue := h.not_mem_queue_iff.mpr hkey
  have hplace : key ∈ (c.reserve key).queue := by
    rw [queue_reserve, ← Nat.succ_pred_eq_of_pos hbound]
    exact List.mem_cons_self
  have hcontains := (h.reserve hnew).mem_queue_iff.mp hplace
  rw [settle, claim_of_not_contains hkey, ResultCache.fill, if_pos hcontains, result?_eq_some]
  exact Dict.get?_insert_self _ key (some v)

theorem Consistent.settle (h : Consistent c) (hkey : c.contains key = false)
    (outcome : Except ε Json) : Consistent (c.settle key outcome) := by
  have hnew : key ∉ c.queue := h.not_mem_queue_iff.mpr hkey
  have hplace := h.toPaired.reserve hnew
  have hknown : ∀ other, other ≠ key → Dict.get? (c.reserve key).store other ≠ some none :=
    fun other hne hget => h.known other (get?_of_get?_reserve hne hget)
  have hlength : (c.reserve key).queue.length ≤ (c.reserve key).bound := length_trim_le _
  unfold ResultCache.settle
  rw [claim_of_not_contains hkey]
  cases outcome with
  | ok v =>
      refine ⟨hplace.fill key v, by rwa [queue_fill, bound_fill], fun other hget => ?_⟩
      by_cases hne : other = key
      · subst hne
        cases get?_fill_self hget
      · rw [get?_fill_of_ne _ v hne] at hget
        exact hknown other hne hget
  | error e =>
      refine ⟨hplace.release key, ?_, fun other hget => ?_⟩
      · rw [bound_release]
        exact Nat.le_trans (length_release_le _ key) hlength
      · by_cases hne : other = key
        · subst hne
          rw [get?_release_self (result?_reserve_self c other)] at hget
          cases hget
        · rw [get?_release_of_ne _ hne] at hget
          exact hknown other hne hget

end Settle

/-! ### What all results have in common -/

/-- Every result has a property, which may depend on its key. -/
def EachResult (P : String → Json → Prop) (c : ResultCache) : Prop :=
  ∀ key v, c.result? key = some v → P key v

section EachResult

variable {P : String → Json → Prop}

theorem eachResult_empty (bound : Nat) : (empty bound).EachResult P := fun _ _ h => nomatch h

/-- A cache whose results are all results of another has no property to prove. -/
theorem EachResult.of_store {c' : ResultCache} (h : c.EachResult P)
    (hsub : ∀ key cell, Dict.get? c'.store key = some cell → Dict.get? c.store key = some cell) :
    c'.EachResult P := by
  intro key v hv
  rw [result?_eq_some] at hv
  exact h key v (result?_eq_some.mpr (hsub key _ hv))

theorem EachResult.touch (h : c.EachResult P) (key : String) : (c.touch key).EachResult P :=
  h.of_store fun _ _ hcell => by rwa [store_touch] at hcell

theorem EachResult.setBound (h : c.EachResult P) (bound : Nat) : (c.setBound bound).EachResult P :=
  h.of_store fun _ _ => get?_of_get?_trim (c := { c with bound := bound })

theorem EachResult.clear (_h : c.EachResult P) : c.clear.EachResult P := eachResult_empty c.bound

/-- The result of a computation is all that is new after it. -/
theorem EachResult.settle {ε : Type} (h : c.EachResult P) (hmiss : c.result? key = none)
    {outcome : Except ε Json} (hP : ∀ v, outcome = .ok v → P key v) :
    (c.settle key outcome).EachResult P := by
  intro other v hv
  by_cases hne : other = key
  · subst hne
    exact hP v (eq_ok_of_result?_settle hmiss hv)
  · rw [result?_eq_some] at hv
    exact h other v (result?_eq_some.mpr (get?_of_get?_settle hne hv))

end EachResult

/-! ### Lookups -/

section Lookup

variable {ε σ : Type} {compute : σ → Except ε Json × σ} {s : σ}

theorem getOrInsert_of_result {v : Json} (h : c.result? key = some v) :
    c.getOrInsert key compute s = (.ok v, c.touch key, s) := by
  rw [getOrInsert, hit?, h]
  rfl

theorem getOrInsert_of_no_result (h : c.result? key = none) :
    c.getOrInsert key compute s =
      ((compute s).1, c.settle key (compute s).1, (compute s).2) := by
  rw [getOrInsert, hit?, h]
  rfl

theorem Consistent.getOrInsert (h : Consistent c) (key : String)
    (compute : σ → Except ε Json × σ) (s : σ) : Consistent (c.getOrInsert key compute s).2.1 := by
  cases hkey : c.contains key with
  | true =>
      obtain ⟨v, hv⟩ := h.contains_iff.mp hkey
      rw [getOrInsert_of_result hv]
      exact h.touch (h.mem_queue_iff.mpr hkey)
  | false =>
      rw [getOrInsert_of_no_result (result?_eq_none hkey)]
      exact h.settle hkey _

/-- What a lookup owes to the one who asks.  The computation runs exactly if the key is absent, and
then it decides the answer; a key that is there answers with the result it has and moves to the
front, past the others, which keep their order and their results; and a key whose computation fails
is absent afterwards. -/
structure LooksUp (c : ResultCache) (key : String) (compute : σ → Except ε Json × σ) (s : σ) :
    Prop where
  runs : (c.getOrInsert key compute s).2.2 = if c.contains key then s else (compute s).2
  computed : c.contains key = false → (c.getOrInsert key compute s).1 = (compute s).1
  stored : c.contains key = true →
    ∃ v, c.result? key = some v ∧ (c.getOrInsert key compute s).1 = .ok v
  moved : c.contains key = true →
    (c.getOrInsert key compute s).2.1.queue = key :: c.queue.erase key ∧
      (c.getOrInsert key compute s).2.1.store = c.store
  failed : c.contains key = false → ∀ e, (compute s).1 = .error e →
    (c.getOrInsert key compute s).2.1.contains key = false

theorem contains_settle_error (h : c.contains key = false) (e : ε) :
    (c.settle key (.error e)).contains key = false := by
  rw [settle, claim_of_not_contains h, contains, Dict.hasKey,
    get?_release_self (result?_reserve_self c key)]
  rfl

theorem Consistent.looksUp (h : Consistent c) (key : String) (compute : σ → Except ε Json × σ)
    (s : σ) : LooksUp c key compute s := by
  cases hkey : c.contains key with
  | true =>
      obtain ⟨v, hv⟩ := h.contains_iff.mp hkey
      have hrun : c.getOrInsert key compute s = (.ok v, c.touch key, s) := getOrInsert_of_result hv
      refine ⟨?_, fun habsent => ?_, fun _ => ⟨v, hv, ?_⟩, fun _ => ?_, fun habsent => ?_⟩
      · rw [hrun, hkey, if_pos rfl]
      · exact absurd (habsent.symm.trans hkey) Bool.false_ne_true
      · rw [hrun]
      · rw [hrun]
        exact ⟨queue_touch (h.mem_queue_iff.mpr hkey), store_touch c key⟩
      · exact absurd (habsent.symm.trans hkey) Bool.false_ne_true
  | false =>
      have hrun : c.getOrInsert key compute s =
          ((compute s).1, c.settle key (compute s).1, (compute s).2) :=
        getOrInsert_of_no_result (result?_eq_none hkey)
      refine ⟨?_, fun _ => ?_, fun hthere => ?_, fun hthere => ?_, fun _ e he => ?_⟩
      · rw [hrun, hkey]
        rfl
      · rw [hrun]
      · exact absurd (hkey.symm.trans hthere) Bool.false_ne_true
      · exact absurd (hkey.symm.trans hthere) Bool.false_ne_true
      · rw [hrun]
        dsimp only
        rw [he]
        exact contains_settle_error hkey e

end Lookup

/-! ### Runs -/

/-- What can be done to a cache. -/
inductive Operation (ε σ : Type) where
  /-- Looking a key up, with a computation in case it is absent. -/
  | getOrInsert (key : String) (compute : σ → Except ε Json × σ)
  /-- Setting a new bound. -/
  | setBound (bound : Nat)
  /-- Giving up every key. -/
  | clear

namespace Operation

variable {ε σ : Type}

/-- The cache after an operation, and the state that computations depend on. -/
def apply (p : ResultCache × σ) : Operation ε σ → ResultCache × σ
  | getOrInsert key compute => (p.1.getOrInsert key compute p.2).2
  | setBound bound => (p.1.setBound bound, p.2)
  | clear => (p.1.clear, p.2)

/-- The cache after several operations, and the state that computations depend on. -/
def run (ops : List (Operation ε σ)) (p : ResultCache × σ) : ResultCache × σ := ops.foldl apply p

/-- The bound that is in effect after an operation. -/
def boundAfter (bound : Nat) : Operation ε σ → Nat
  | setBound bound => bound
  | _ => bound

theorem run_cons (op : Operation ε σ) (ops : List (Operation ε σ)) (p : ResultCache × σ) :
    run (op :: ops) p = run ops (apply p op) := rfl

/-- One operation keeps the invariant. -/
theorem consistent_apply {p : ResultCache × σ} (h : Consistent p.1) (op : Operation ε σ) :
    Consistent (apply p op).1 := by
  cases op with
  | getOrInsert key compute => exact h.getOrInsert key compute p.2
  | setBound bound => exact h.setBound bound
  | clear => exact h.clear

theorem consistent_run {p : ResultCache × σ} (h : Consistent p.1) (ops : List (Operation ε σ)) :
    Consistent (run ops p).1 := by
  induction ops generalizing p with
  | nil => exact h
  | cons op ops ih => exact ih (consistent_apply h op)

theorem bound_apply (p : ResultCache × σ) (op : Operation ε σ) :
    (apply p op).1.bound = boundAfter p.1.bound op := by
  cases op with
  | getOrInsert key compute =>
      simp only [apply, boundAfter]
      cases hkey : p.1.result? key with
      | some v => rw [getOrInsert_of_result hkey, bound_touch]
      | none => rw [getOrInsert_of_no_result hkey, bound_settle]
  | setBound bound => exact bound_trim _
  | clear => rfl

/-- The bound after a run is the one that was set last. -/
theorem bound_run (ops : List (Operation ε σ)) (p : ResultCache × σ) :
    (run ops p).1.bound = ops.foldl boundAfter p.1.bound := by
  induction ops generalizing p with
  | nil => rfl
  | cons op ops ih => rw [run_cons, ih, bound_apply, List.foldl_cons]

/-- A key that one cache took over from another has the result that it had there. -/
theorem result?_eq_of_contains {c' : ResultCache} {v : Json}
    (h : ∀ cell, Dict.get? c'.store key = some cell → Dict.get? c.store key = some cell)
    (hv : c.result? key = some v) (hkey : c'.contains key = true) : c'.result? key = some v := by
  obtain ⟨cell, hcell⟩ := Option.isSome_iff_exists.mp hkey
  rw [result?, hcell, ← h cell hcell]
  exact hv

/-- One operation leaves a key its result as long as the key stays. -/
theorem result?_apply {p : ResultCache × σ} (op : Operation ε σ) {v : Json}
    (hv : p.1.result? key = some v) (hkey : (apply p op).1.contains key = true) :
    (apply p op).1.result? key = some v := by
  cases op with
  | getOrInsert k compute =>
      simp only [apply] at hkey ⊢
      cases hk : p.1.result? k with
      | some u =>
          rw [getOrInsert_of_result hk, result?, store_touch]
          exact hv
      | none =>
          -- The key that is computed is another one, since this one has a result.
          have hne : key ≠ k := by
            rintro rfl
            rw [hv] at hk
            cases hk
          rw [getOrInsert_of_no_result hk] at hkey ⊢
          exact result?_eq_of_contains (fun _ hcell => get?_of_get?_settle hne hcell) hv hkey
  | setBound bound =>
      refine result?_eq_of_contains (fun cell hcell => ?_) hv hkey
      exact get?_of_get?_trim (c := { p.1 with bound := bound }) hcell
  | clear => cases hkey

/-- A run leaves a key its result as long as the key stays. -/
theorem result?_run {p : ResultCache × σ} (ops : List (Operation ε σ)) {v : Json}
    (hv : p.1.result? key = some v)
    (hstays : ∀ first, first <+: ops → (run first p).1.contains key = true) :
    (run ops p).1.result? key = some v := by
  induction ops generalizing p with
  | nil => exact hv
  | cons op ops ih =>
      have hnext := hstays [op] (List.prefix_append [op] ops)
      refine ih (result?_apply op hv hnext) fun first hfirst => ?_
      exact hstays (op :: first) (List.cons_prefix_cons.mpr ⟨rfl, hfirst⟩)

end Operation

/-- **The store and the queue of a cache never fall apart.**  After any operations on a cache that
starts empty, whatever its bound: the queue has no key twice, its keys are those of the store, there
are at most as many as the bound allows that was set last, and each has its result.  From there,
every lookup computes exactly what is not there, answers with the result that is there and moves its
key to the front, and leaves no trace of a key whose computation fails; and whatever else is done, a
key keeps its result for as long as it stays in the cache. -/
theorem cache_consistent_along_run {ε σ : Type} (bound : Nat) (ops : List (Operation ε σ)) (s : σ) :
    Consistent (Operation.run ops (empty bound, s)).1 ∧
      (Operation.run ops (empty bound, s)).1.bound = ops.foldl Operation.boundAfter bound ∧
      (∀ (key : String) (compute : σ → Except ε Json × σ) (t : σ),
        LooksUp (Operation.run ops (empty bound, s)).1 key compute t) ∧
      ∀ (key : String) (v : Json) (more : List (Operation ε σ)),
        (Operation.run ops (empty bound, s)).1.result? key = some v →
        (∀ first, first <+: more →
          (Operation.run first (Operation.run ops (empty bound, s))).1.contains key = true) →
        (Operation.run more (Operation.run ops (empty bound, s))).1.result? key = some v := by
  have hconsistent : Consistent (Operation.run ops (empty bound, s)).1 :=
    Operation.consistent_run (empty_consistent bound) ops
  exact ⟨hconsistent, Operation.bound_run ops _, fun key compute t => hconsistent.looksUp key compute t,
    fun _ v more hv hstays => Operation.result?_run more hv hstays⟩

end JsonExpr.ResultCache
