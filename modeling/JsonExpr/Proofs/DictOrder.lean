import JsonExpr.Proofs.Dict
import Mathlib.Data.List.Induction

/-!
# Dictionaries up to order

A dictionary has its entries in an order that no reading of one key shows.  Two dictionaries are the
same up to order if they read the same at every key; writes keep this, whatever is written, and so
does taking a key out of dictionaries that have no key twice.

Some readers do depend on the order of a few entries: which of two entries with the same key counts,
or which of two spellings of the same thing.  What such a reader looks at are the entries whose keys
satisfy some condition, in order.  Choosing entries by their keys goes along with writing.

Main definitions:

* `JsonExpr.Dict.UpToOrder` — the same values at the same keys.

Main results:

* `JsonExpr.Dict.UpToOrder.of_perm` — other orders of the same entries, if no key is there twice;
* `JsonExpr.Dict.UpToOrder.insert`, `JsonExpr.Dict.UpToOrder.filterKeys`,
  `JsonExpr.Dict.UpToOrder.swapRemove` — **operations keep dictionaries the same up to order**;
* `JsonExpr.Dict.swapRemove_insertIdx` — an entry that is put in and taken out again;
* `JsonExpr.Dict.keys_ofPairs`, `JsonExpr.Dict.get?_extend` — after several writes, keys stand where
  they were first written, with what was last written there;
* `JsonExpr.Dict.filterKeys_extend` — entries of chosen keys after writes;
* `JsonExpr.Dict.filterKeys_eq_of_perm` — a single entry has no order.
-/

set_option autoImplicit false

namespace JsonExpr.Dict

variable {α β : Type} {d d' : Dict α} {key : String}

/-! ### Keys that occur once -/

theorem get?_insert (d : Dict α) (key other : String) (value : α) :
    get? (insert d key value) other = if other = key then some value else get? d other := by
  by_cases h : other = key
  · rw [if_pos h, h, get?_insert_self]
  · rw [if_neg h, get?_insert_of_ne d value h]

theorem get?_insertIfNew (d : Dict α) (key other : String) (value : α) :
    get? (insertIfNew d key value) other =
      if other = key then (get? d key).or (some value) else get? d other := by
  unfold insertIfNew
  cases hkey : hasKey d key with
  | true =>
      obtain ⟨v, hv⟩ := Option.isSome_iff_exists.mp hkey
      by_cases h : other = key
      · simp [h, hv]
      · simp [h]
  | false =>
      have hnone := hasKey_eq_false_iff.mp hkey
      simp [get?_insert, hnone]

theorem keysNodup_insert (h : KeysNodup d) (key : String) (value : α) :
    KeysNodup (insert d key value) := by
  unfold KeysNodup at h ⊢
  rw [keys_insert]
  split
  · exact h
  · next hnew =>
    refine List.nodup_append.mpr ⟨h, by simp, fun a ha b hb hab => hnew ?_⟩
    rwa [← List.mem_singleton.mp hb, ← hab]

/-- The last of several writes to a key is what is read. -/
theorem get?_extend (d newer : Dict α) (key : String) :
    get? (extend d newer) key = (get? newer.reverse key).or (get? d key) := by
  unfold extend
  induction newer generalizing d with
  | nil => rfl
  | cons e rest ih =>
      rw [List.foldl_cons, ih, List.reverse_cons, get?_append, Option.or_assoc, get?_insert]
      by_cases h : e.1 = key
      · simp [get?, h]
      · simp [get?, h, Ne.symm h]

/-- A key stands where it was first written. -/
theorem keys_ofPairs (entries : List (String × α)) :
    keys (ofPairs entries) = (keys entries).eraseDups := by
  induction entries using List.reverseRecOn with
  | nil => rfl
  | append_singleton entries e ih =>
      have hlast : ofPairs (entries ++ [e]) = insert (ofPairs entries) e.1 e.2 :=
        List.foldl_append
      have hkeys : keys (entries ++ [e]) = keys entries ++ [e.1] := List.map_append
      rw [hlast, keys_insert, ih, hkeys, List.eraseDups_append]
      by_cases h : e.1 ∈ keys entries
      · simp [h, List.mem_eraseDups, List.removeAll]
      · simp [h, List.mem_eraseDups, List.removeAll, List.eraseDups_cons]

/-- Taking out a key that is there takes its entry away. -/
theorem perm_swapRemove {v : α} (h : get? d key = some v) :
    d.Perm ((key, v) :: swapRemove d key) := by
  induction d with
  | nil => cases h
  | cons e rest ih =>
      obtain ⟨k, a⟩ := e
      by_cases hk : k = key
      · subst hk
        have hav : a = v := by simpa [get?] using h
        subst hav
        simp only [swapRemove, if_true]
        cases hlast : rest.getLast? with
        | none => rw [List.getLast?_eq_none_iff.mp hlast]
        | some last =>
            obtain ⟨before, rfl⟩ := List.getLast?_eq_some_iff.mp hlast
            rw [List.dropLast_concat]
            exact (List.perm_append_singleton last before).cons _
      · have hrest : get? rest key = some v := by simpa [get?, hk] using h
        have hremove : swapRemove ((k, a) :: rest) key = (k, a) :: swapRemove rest key := by
          simp [swapRemove, hk]
        rw [hremove]
        exact ((ih hrest).cons (k, a)).trans (List.Perm.swap _ _ _)

/-! ### The same up to order -/

/-- The same values at the same keys. -/
def UpToOrder (d d' : Dict α) : Prop := ∀ key, get? d key = get? d' key

namespace UpToOrder

theorem refl (d : Dict α) : UpToOrder d d := fun _ => rfl

theorem symm (h : UpToOrder d d') : UpToOrder d' d := fun key => (h key).symm

theorem hasKey_eq (h : UpToOrder d d') (key : String) : hasKey d key = hasKey d' key := by
  rw [hasKey, h key, hasKey]

/-- A dictionary with entries reads differently from one without. -/
theorem isEmpty_eq (h : UpToOrder d d') : d.isEmpty = d'.isEmpty := by
  cases d with
  | nil =>
      cases d' with
      | nil => rfl
      | cons e rest => simpa [get?] using h e.1
  | cons e rest =>
      cases d' with
      | nil => simpa [get?] using h e.1
      | cons _ _ => rfl

/-- Another order of entries whose keys are all different. -/
theorem of_perm (hnodup : KeysNodup d) (h : d.Perm d') : UpToOrder d d' := by
  have hnodup' : KeysNodup d' := (h.map Prod.fst).nodup_iff.mp hnodup
  intro key
  cases hget : get? d key with
  | some v => exact (get?_of_mem hnodup' (h.mem_iff.mp (mem_of_get? hget))).symm
  | none =>
      cases hget' : get? d' key with
      | none => rfl
      | some v =>
          rw [get?_of_mem hnodup (h.mem_iff.mpr (mem_of_get? hget'))] at hget
          cases hget

theorem insert (h : UpToOrder d d') (key : String) (value : α) :
    UpToOrder (Dict.insert d key value) (Dict.insert d' key value) := by
  intro other
  rw [get?_insert, get?_insert, h other]

theorem filterKeys (h : UpToOrder d d') (p : String → Bool) :
    UpToOrder (Dict.filterKeys p d) (Dict.filterKeys p d') := by
  intro key
  rw [get?_filterKeys, get?_filterKeys, h key]

theorem mapValues (h : UpToOrder d d') (f : α → β) :
    UpToOrder (Dict.mapValues f d) (Dict.mapValues f d') := by
  intro key
  rw [get?_mapValues, get?_mapValues, h key]

end UpToOrder

/-- What is read after a key was taken out. -/
theorem get?_swapRemove (hnodup : KeysNodup d) {v : α} (h : get? d key = some v) (other : String) :
    get? (swapRemove d key) other = if other = key then none else get? d other := by
  have hperm := perm_swapRemove h
  have hread := UpToOrder.of_perm hnodup hperm other
  by_cases hother : other = key
  · subst hother
    have hnodup' : KeysNodup ((other, v) :: swapRemove d other) :=
      (hperm.map Prod.fst).nodup_iff.mp hnodup
    have habsent : other ∉ keys (swapRemove d other) := (List.nodup_cons.mp hnodup').1
    rw [if_pos rfl, ← hasKey_eq_false_iff, Bool.eq_false_iff, ne_eq, hasKey_iff]
    exact habsent
  · rw [if_neg hother, hread]
    simp only [get?, Ne.symm hother, if_false]

/-- Taking a key out of two dictionaries that have no key twice. -/
theorem UpToOrder.swapRemove (h : UpToOrder d d') (hnodup : KeysNodup d) (hnodup' : KeysNodup d')
    (hkey : hasKey d key = true) : UpToOrder (Dict.swapRemove d key) (Dict.swapRemove d' key) := by
  obtain ⟨v, hv⟩ := Option.isSome_iff_exists.mp hkey
  intro other
  rw [get?_swapRemove hnodup hv, get?_swapRemove hnodup' ((h key).symm.trans hv), h other]

/-- Taking out a key that is not there changes nothing. -/
theorem swapRemove_eq_self (h : hasKey d key = false) : swapRemove d key = d := by
  induction d with
  | nil => rfl
  | cons e rest ih =>
      obtain ⟨k, v⟩ := e
      by_cases hk : k = key
      · simp [hasKey, get?, hk] at h
      · have hrest : hasKey rest key = false := by simpa [hasKey, get?, hk] using h
        rw [swapRemove, if_neg hk, ih hrest]

/-- What is left when an entry with a new key is put in at some position and taken out again: what
was before it, and then what was behind it, the last of which has moved to the front. -/
theorem swapRemove_insertIdx (h : hasKey d key = false) (value : α) (i : Nat) :
    ∃ behind, (d.drop i).Perm behind ∧ ((d.drop i).length ≤ 1 → behind = d.drop i) ∧
      swapRemove (d.insertIdx i (key, value)) key = d.take i ++ behind := by
  induction d generalizing i with
  | nil => cases i <;> exact ⟨[], .refl _, fun _ => rfl, by simp [swapRemove]⟩
  | cons e rest ih =>
      obtain ⟨k, v⟩ := e
      have hk : k ≠ key := by
        rintro rfl
        simp [hasKey, get?] at h
      have hrest : hasKey rest key = false := by simpa [hasKey, get?, hk] using h
      cases i with
      | succ i =>
          obtain ⟨behind, hperm, hshort, hremove⟩ := ih hrest i
          refine ⟨behind, hperm, hshort, ?_⟩
          rw [List.insertIdx_succ_cons, swapRemove, if_neg hk, hremove]
          rfl
      | zero =>
          obtain ⟨before, last, hlast⟩ : ∃ before last, (k, v) :: rest = before ++ [last] :=
            ⟨_, _, (List.dropLast_concat_getLast (List.cons_ne_nil _ _)).symm⟩
          refine ⟨last :: before, ?_, ?_, ?_⟩
          · rw [List.drop_zero, hlast]
            exact List.perm_append_singleton last before
          · rw [List.drop_zero, hlast]
            intro hshort
            have hnil : before = [] := List.eq_nil_of_length_eq_zero (by simpa using hshort)
            rw [hnil]
            rfl
          · rw [List.insertIdx_zero, swapRemove, if_pos rfl, hlast, List.getLast?_concat,
              List.dropLast_concat]
            rfl

/-! ### Entries of chosen keys -/

theorem filterKeys_insert (p : String → Bool) (d : Dict α) (key : String) (value : α) :
    filterKeys p (insert d key value) =
      if p key then insert (filterKeys p d) key value else filterKeys p d := by
  unfold filterKeys
  induction d with
  | nil => by_cases hp : p key = true <;> simp [insert, hp]
  | cons entry rest ih =>
      obtain ⟨k, v⟩ := entry
      by_cases hk : k = key
      · subst hk
        by_cases hp : p k = true <;> simp [insert, hp]
      · by_cases hp : p k = true
        · by_cases hkey : p key = true <;> simp [insert, hk, hp, hkey, ih]
        · by_cases hkey : p key = true <;> simp [insert, hk, hp, hkey, ih]

/-- Entries of chosen keys after writes are what writes of such keys leave. -/
theorem filterKeys_extend (p : String → Bool) (d newer : Dict α) :
    filterKeys p (extend d newer) = extend (filterKeys p d) (filterKeys p newer) := by
  unfold extend
  induction newer generalizing d with
  | nil => rfl
  | cons entry rest ih =>
      rw [List.foldl_cons, ih, filterKeys_insert]
      by_cases hp : p entry.1 = true <;> simp [filterKeys, hp]

theorem filterKeys_map (p : String → Bool) (f : String → α → β) (d : Dict α) :
    filterKeys p (d.map fun e => (e.1, f e.1 e.2)) =
      (filterKeys p d).map fun e => (e.1, f e.1 e.2) := by
  rw [filterKeys, filterKeys, List.filter_map]
  rfl

/-- Taking a key away leaves the entries of other chosen keys. -/
theorem filterKeys_without {p : String → Bool} (hp : p key = false) (d : Dict α) :
    filterKeys p (filterKeys (· != key) d) = filterKeys p d := by
  rw [filterKeys, filterKeys, List.filter_filter, filterKeys]
  refine List.filter_congr fun e _ => ?_
  by_cases he : e.1 = key
  · simp [he, hp]
  · simp [he]

theorem filterKeys_comm (p q : String → Bool) (d : Dict α) :
    filterKeys p (filterKeys q d) = filterKeys q (filterKeys p d) := by
  simp only [filterKeys, List.filter_filter, Bool.and_comm]

/-- Where only one key satisfies `p`, another order has the same entries of such keys. -/
theorem filterKeys_eq_of_perm {p : String → Bool} (hnodup : KeysNodup d) (h : d.Perm d')
    (hone : ∀ a ∈ keys d, ∀ b ∈ keys d, p a = true → p b = true → a = b) :
    filterKeys p d = filterKeys p d' := by
  have hperm : (filterKeys p d).Perm (filterKeys p d') := h.filter _
  have hkeys : keys (filterKeys p d) = (keys d).filter p := keys_filterKeys p d
  have hnodup' : ((keys d).filter p).Nodup := hnodup.filter p
  rw [← hkeys] at hnodup'
  have hall : ∀ a ∈ keys (filterKeys p d), ∀ b ∈ keys (filterKeys p d), a = b := by
    rw [hkeys]
    intro a ha b hb
    obtain ⟨ha, hpa⟩ := List.mem_filter.mp ha
    obtain ⟨hb, hpb⟩ := List.mem_filter.mp hb
    exact hone a ha b hb hpa hpb
  -- Two different entries would have two different keys.
  generalize filterKeys p d = chosen at *
  match chosen with
  | [] => exact (List.nil_perm.mp hperm).symm
  | [e] => exact (List.singleton_perm.mp hperm)
  | e :: e' :: rest =>
      have heq : e.1 = e'.1 := hall _ (by simp [keys]) _ (by simp [keys])
      simp [keys, heq] at hnodup'

end JsonExpr.Dict
