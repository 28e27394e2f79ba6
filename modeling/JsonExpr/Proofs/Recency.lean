import JsonExpr.Proofs.Cache

/-!
# The cache keeps the keys used last

What a cache has after a sequence of lookups is told by the sequence alone: read it backwards, leave
out every key that was met before, and stop at the bound.  A key that was given up and asked for
again is no exception, nor is a bound of zero.

The queue of a cache is shorter than the history that it stands for.  So the proof follows the whole
history: the *distinct keys of the past*, last used first, change by one rule at every lookup, which
does not know the bound, and the queue is what the bound leaves of them.  That the rule for the
queue, which only sees the first keys, agrees with the rule for all of them is the one step of the
induction (`JsonExpr.ResultCache.moveToFront_take`).

Main definitions:

* `JsonExpr.ResultCache.Lookup` — a key and the computation in case it is absent;
* `JsonExpr.ResultCache.Lookup.Succeed` — every lookup of a sequence is answered with a result;
* `JsonExpr.ResultCache.lastUsed` — the distinct keys of a sequence read backwards.

Main results:

* `JsonExpr.ResultCache.Consistent.queue_getOrInsert` — the queue after one lookup;
* `JsonExpr.ResultCache.Lookup.queue_run` — the queue after a sequence of lookups;
* `JsonExpr.ResultCache.keys_are_the_keys_last_used` — **a cache has the keys used last**, a lookup
  finds its key if it is one of them, and a smaller cache has the first keys of a larger one.
-/

set_option autoImplicit false

namespace JsonExpr.ResultCache

variable {c : ResultCache} {ε σ : Type}

/-! ### The keys last used -/

/-- The distinct keys of a sequence of lookups, the last used first. -/
def lastUsed (keys : List String) : List String := keys.reverse.eraseDups

/-- Distinct elements are the same before and after some are left out. -/
theorem eraseDups_filter (p : String → Bool) (keys : List String) :
    (keys.filter p).eraseDups = keys.eraseDups.filter p := by
  -- Erasing duplicates recurses into a filtered list, so the induction is on the length.
  induction hn : keys.length using Nat.strongRecOn generalizing keys with
  | ind n ih =>
    cases keys with
    | nil => rfl
    | cons key rest =>
        have hshort : (rest.filter fun other => !other == key).length < n := by
          have hle := List.length_filter_le (fun other => !other == key) rest
          rw [List.length_cons] at hn
          omega
        have hrest := ih _ hshort (rest.filter fun other => !other == key) rfl
        cases hp : p key with
        | true =>
            rw [List.filter_cons_of_pos hp, List.eraseDups_cons, List.eraseDups_cons,
              List.filter_cons_of_pos hp, ← hrest, List.filter_filter, List.filter_filter]
            simp only [Bool.and_comm]
        | false =>
            have hsame : (rest.filter fun other => !other == key).filter p = rest.filter p := by
              rw [List.filter_filter]
              refine List.filter_congr fun other _ => ?_
              by_cases h : other = key
              · simp [h, hp]
              · simp [h]
            rw [List.filter_cons_of_neg (by simp [hp]), List.eraseDups_cons,
              List.filter_cons_of_neg (by simp [hp]), ← hrest, hsame]

theorem nodup_eraseDups (keys : List String) : keys.eraseDups.Nodup := by
  induction keys with
  | nil => exact List.nodup_nil
  | cons key rest ih =>
      rw [List.eraseDups_cons, eraseDups_filter]
      refine List.nodup_cons.mpr ⟨?_, ih.filter _⟩
      simp

/-- One more key comes to the front, and leaves the place that it had. -/
theorem lastUsed_concat (keys : List String) (key : String) :
    lastUsed (keys ++ [key]) = key :: (lastUsed keys).filter (· != key) := by
  rw [lastUsed, List.reverse_append, List.reverse_singleton, List.singleton_append,
    List.eraseDups_cons, eraseDups_filter]
  rfl

theorem nodup_lastUsed (keys : List String) : (lastUsed keys).Nodup := nodup_eraseDups _

/-! ### One lookup -/

/-- The queue after a lookup with a result: a key that is there comes to the front, and a new one
takes its place before the keys past the bound are given up. -/
def moveToFront (bound : Nat) (queue : List String) (key : String) : List String :=
  if key ∈ queue then key :: queue.erase key else (key :: queue).take bound

/-- **The queue follows the history.**  Of all the distinct keys of the past, the queue only has as
many as the bound allows.  Moving a key to the front of the queue gives what the bound leaves of the
history in which the key was moved to the front, whether the queue still had it or not. -/
theorem moveToFront_take (bound : Nat) {past : List String} (h : past.Nodup) (key : String) :
    moveToFront bound (past.take bound) key = (key :: past.filter (· != key)).take bound := by
  have hsplit : past.filter (· != key) =
      (past.take bound).filter (· != key) ++ (past.drop bound).filter (· != key) := by
    rw [← List.filter_append, List.take_append_drop]
  unfold moveToFront
  by_cases hkey : key ∈ past.take bound
  · -- The key leaves one place among the first keys, which is the one that it takes in front.
    have hlength : (key :: (past.take bound).erase key).length = (past.take bound).length :=
      (List.perm_cons_erase hkey).length_eq.symm
    rw [if_pos hkey, hsplit, ← (h.sublist (List.take_sublist bound past)).erase_eq_filter,
      ← List.cons_append]
    rcases Nat.lt_or_ge past.length bound with hshort | hlong
    · have hdrop : past.drop bound = [] := List.drop_eq_nil_of_le (by omega)
      have hfits : (key :: (past.take bound).erase key).length ≤ bound := by
        rw [hlength]
        exact List.length_take_le bound past
      rw [hdrop, List.filter_nil, List.append_nil, List.take_of_length_le hfits]
    · rw [List.take_left' (by rw [hlength, List.length_take]; omega)]
  · -- The key is past the bound or new; none of the first keys leaves its place.
    have hfirst : (past.take bound).filter (· != key) = past.take bound := by
      refine List.filter_eq_self.mpr fun other hother => bne_iff_ne.mpr ?_
      rintro rfl
      exact hkey hother
    rw [if_neg hkey, hsplit, hfirst]
    cases bound with
    | zero => rfl
    | succ bound =>
        rw [List.take_succ_cons, List.take_succ_cons, List.cons_inj_right]
        rcases Nat.lt_or_ge past.length (bound + 1) with hshort | hlong
        · have hdrop : past.drop (bound + 1) = [] := List.drop_eq_nil_of_le (by omega)
          rw [hdrop, List.filter_nil, List.append_nil]
        · rw [List.take_append_of_le_length]
          rw [List.length_take]
          omega

/-- The queue after a lookup that is answered with a result. -/
theorem Consistent.queue_getOrInsert (h : Consistent c) (key : String)
    {compute : σ → Except ε Json × σ} {s : σ} {v : Json}
    (hv : (c.getOrInsert key compute s).1 = .ok v) :
    (c.getOrInsert key compute s).2.1.queue = moveToFront c.bound c.queue key := by
  unfold moveToFront
  cases hkey : c.contains key with
  | true =>
      have hmem : key ∈ c.queue := h.mem_queue_iff.mpr hkey
      obtain ⟨u, hu⟩ := h.contains_iff.mp hkey
      rw [getOrInsert_of_result hu, queue_touch hmem, if_pos hmem]
  | false =>
      have hnew : key ∉ c.queue := h.not_mem_queue_iff.mpr hkey
      rw [getOrInsert_of_no_result (result?_eq_none hkey)] at hv ⊢
      dsimp only at hv ⊢
      rw [hv, ResultCache.settle, queue_fill, claim_of_not_contains hkey, queue_reserve, if_neg hnew]

/-! ### Sequences of lookups -/

/-- A key and the computation in case it is absent. -/
structure Lookup (ε σ : Type) where
  /-- What is looked up. -/
  key : String
  /-- The computation, which may depend on a state and change it. -/
  compute : σ → Except ε Json × σ

namespace Lookup

/-- A lookup as an operation on a cache. -/
def operation (l : Lookup ε σ) : Operation ε σ := .getOrInsert l.key l.compute

/-- The cache and the state after lookups, one after the other. -/
def run (ls : List (Lookup ε σ)) (p : ResultCache × σ) : ResultCache × σ :=
  Operation.run (ls.map operation) p

/-- The keys that are looked up, in order. -/
def keys (ls : List (Lookup ε σ)) : List String := ls.map key

/-- Whether a lookup finds its key. -/
def Hits (l : Lookup ε σ) (c : ResultCache) : Prop := (c.hit? l.key).isSome = true

/-- Every lookup of a sequence is answered with a result: each computation that runs has one. -/
def Succeed : List (Lookup ε σ) → ResultCache × σ → Prop
  | [], _ => True
  | l :: ls, p =>
    (∃ v, (p.1.getOrInsert l.key l.compute p.2).1 = .ok v) ∧
      Succeed ls (Operation.apply p l.operation)

theorem run_cons (l : Lookup ε σ) (ls : List (Lookup ε σ)) (p : ResultCache × σ) :
    run (l :: ls) p = run ls (Operation.apply p l.operation) := rfl

theorem run_concat (ls : List (Lookup ε σ)) (l : Lookup ε σ) (p : ResultCache × σ) :
    run (ls ++ [l]) p = Operation.apply (run ls p) l.operation := by
  rw [run, List.map_append, Operation.run, List.foldl_append]
  rfl

theorem consistent_run {p : ResultCache × σ} (h : Consistent p.1) (ls : List (Lookup ε σ)) :
    Consistent (run ls p).1 :=
  Operation.consistent_run h _

/-- Lookups whose computations always have a result succeed. -/
theorem succeed_of_forall {ls : List (Lookup ε σ)}
    (h : ∀ l ∈ ls, ∀ t, ∃ v, (l.compute t).1 = .ok v) (p : ResultCache × σ) : Succeed ls p := by
  induction ls generalizing p with
  | nil => trivial
  | cons l ls ih =>
      refine ⟨?_, ih (fun l' hl' => h l' (List.mem_cons_of_mem l hl')) _⟩
      cases hkey : p.1.result? l.key with
      | some v => exact ⟨v, by rw [getOrInsert_of_result hkey]⟩
      | none =>
          rw [getOrInsert_of_no_result hkey]
          exact h l List.mem_cons_self p.2

/-- A key is found exactly if it is in the queue. -/
theorem hits_iff (h : Consistent c) (l : Lookup ε σ) : l.Hits c ↔ l.key ∈ c.queue := by
  rw [Hits, hit?, Option.isSome_map, h.mem_queue_iff, h.contains_iff, Option.isSome_iff_exists]

/-- Lookups turn what the bound leaves of a past into what it leaves of the past with the lookups
behind it. -/
theorem queue_run {p : ResultCache × σ} (h : Consistent p.1) (past : List String)
    (hqueue : p.1.queue = (lastUsed past).take p.1.bound) (ls : List (Lookup ε σ))
    (hsucceed : Succeed ls p) :
    (run ls p).1.queue = (lastUsed (past ++ keys ls)).take p.1.bound := by
  induction ls generalizing p past with
  | nil =>
      rw [keys, List.map_nil, List.append_nil]
      exact hqueue
  | cons l ls ih =>
      obtain ⟨⟨v, hv⟩, hrest⟩ := hsucceed
      have hbound : (Operation.apply p l.operation).1.bound = p.1.bound :=
        Operation.bound_apply p l.operation
      have hstep : (Operation.apply p l.operation).1.queue =
          (lastUsed (past ++ [l.key])).take p.1.bound := by
        calc (Operation.apply p l.operation).1.queue
            = moveToFront p.1.bound p.1.queue l.key := h.queue_getOrInsert l.key hv
          _ = (l.key :: (lastUsed past).filter (· != l.key)).take p.1.bound := by
              rw [hqueue, moveToFront_take _ (nodup_lastUsed past)]
          _ = (lastUsed (past ++ [l.key])).take p.1.bound := by rw [lastUsed_concat]
      rw [← hbound] at hstep
      rw [run_cons, ih (Operation.consistent_apply h _) (past ++ [l.key]) hstep hrest, hbound,
        List.append_assoc]
      rfl

/-- After lookups on an empty cache, the queue has the keys used last. -/
theorem queue_run_empty (bound : Nat) (ls : List (Lookup ε σ)) (s : σ)
    (hsucceed : Succeed ls (empty bound, s)) :
    (run ls (empty bound, s)).1.queue = (lastUsed (keys ls)).take bound :=
  queue_run (empty_consistent bound) [] (List.take_nil).symm ls hsucceed

end Lookup

/-- **A cache has the keys used last.**  After any lookups on an empty cache that are answered with
results, whatever the bound, the keys of the cache are the first distinct keys of the lookups read
backwards, as many as the bound allows.  One more lookup finds its key exactly if it is one of them,
and runs its computation exactly if it is not.  So after the same lookups a cache with a smaller
bound has the first keys of a cache with a larger one. -/
theorem keys_are_the_keys_last_used (bound : Nat) (ls : List (Lookup ε σ)) (s : σ)
    (hsucceed : Lookup.Succeed ls (empty bound, s)) :
    (Lookup.run ls (empty bound, s)).1.keys = (lastUsed (Lookup.keys ls)).take bound ∧
      (∀ l : Lookup ε σ,
        (l.Hits (Lookup.run ls (empty bound, s)).1 ↔
          l.key ∈ (lastUsed (Lookup.keys ls)).take bound) ∧
        (Lookup.run (ls ++ [l]) (empty bound, s)).2 =
          if l.key ∈ (lastUsed (Lookup.keys ls)).take bound then
            (Lookup.run ls (empty bound, s)).2
          else (l.compute (Lookup.run ls (empty bound, s)).2).2) ∧
      ∀ larger, bound ≤ larger → Lookup.Succeed ls (empty larger, s) →
        (Lookup.run ls (empty bound, s)).1.keys <+: (Lookup.run ls (empty larger, s)).1.keys := by
  have hconsistent : Consistent (Lookup.run ls (empty bound, s)).1 :=
    Lookup.consistent_run (empty_consistent bound) ls
  have hqueue := Lookup.queue_run_empty bound ls s hsucceed
  refine ⟨hqueue, fun l => ⟨?_, ?_⟩, fun larger hle hlarger => ?_⟩
  · rw [Lookup.hits_iff hconsistent, hqueue]
  · rw [Lookup.run_concat]
    have hruns := (hconsistent.looksUp l.key l.compute (Lookup.run ls (empty bound, s)).2).runs
    rw [← hqueue]
    simp only [hconsistent.mem_queue_iff]
    exact hruns
  · rw [keys, keys, hqueue, Lookup.queue_run_empty larger ls s hlarger]
    exact List.take_prefix_take_left hle

/-- A lookup that counts how often computations ran. -/
def Lookup.counted (key : String) : Lookup Empty Nat := ⟨key, fun n => (.ok (.string key), n + 1)⟩

/-- With two places, the third key takes the place of the second, since the first was used again; the
second has to be computed again.  With one place only the third is left. -/
theorem second_key_is_given_up :
    let ls := ["a", "b", "a", "c"].map Lookup.counted
    Lookup.Succeed ls (empty 2, 0) ∧ Lookup.Succeed ls (empty 1, 0) ∧
      (Lookup.run ls (empty 1, 0)).1.keys = ["c"] ∧
      (Lookup.run ls (empty 2, 0)).1.keys = ["c", "a"] ∧
      ¬ (Lookup.counted "b").Hits (Lookup.run ls (empty 2, 0)).1 ∧
      (Lookup.run (ls ++ [Lookup.counted "b"]) (empty 2, 0)).2 =
        (Lookup.run ls (empty 2, 0)).2 + 1 := by
  intro ls
  have hsucceed : ∀ bound, Lookup.Succeed ls (empty bound, 0) := fun bound =>
    Lookup.succeed_of_forall (by simp [ls, Lookup.counted]) _
  have hone : (lastUsed (Lookup.keys ls)).take 1 = ["c"] := by decide
  have htwo : (lastUsed (Lookup.keys ls)).take 2 = ["c", "a"] := by decide
  obtain ⟨hkeys, hlookup, -⟩ := keys_are_the_keys_last_used 2 ls 0 (hsucceed 2)
  obtain ⟨hhits, hruns⟩ := hlookup (Lookup.counted "b")
  rw [htwo] at hkeys hhits hruns
  have hgone : (Lookup.counted "b").key ∉ ["c", "a"] := by decide
  refine ⟨hsucceed 2, hsucceed 1, ?_, hkeys, fun h => hgone (hhits.mp h), ?_⟩
  · rw [(keys_are_the_keys_last_used 1 ls 0 (hsucceed 1)).1, hone]
  · rw [hruns, if_neg hgone]
    rfl

end JsonExpr.ResultCache
