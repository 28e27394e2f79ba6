import JsonExpr.Dict

/-!
# Dictionaries key by key

What the operations on dictionaries do to the keys, and dictionaries with the same keys whose values
are related key by key.  Every operation keeps such a relation, as long as related values are
written.

Main definitions:

* `JsonExpr.Dict.Related` — the same keys in the same order, with related values.

Main results:

* `JsonExpr.Dict.hasKey_insert`, `JsonExpr.Dict.hasKey_extend` — the keys after a write;
* `JsonExpr.Dict.get?_extend_of_get?`, `JsonExpr.Dict.extend_eq_append` — writes of keys that occur
  once;
* `JsonExpr.Dict.get?_filterKeys`, `JsonExpr.Dict.get?_mapValues` — what is read among some of the
  entries, and after every value was mapped;
* `JsonExpr.Dict.Related.get?` — what is read from related dictionaries;
* `JsonExpr.Dict.Related.insert`, `JsonExpr.Dict.Related.extend` — **writes keep dictionaries
  related**.
-/

set_option autoImplicit false

namespace JsonExpr.Dict

variable {α β : Type}

/-! ### Keys -/

theorem mem_of_get? {d : Dict α} {key : String} {v : α} (h : get? d key = some v) :
    (key, v) ∈ d := by
  induction d with
  | nil => cases h
  | cons entry rest ih =>
      obtain ⟨k, a⟩ := entry
      by_cases hk : k = key
      · simp only [get?, hk, if_true, Option.some.injEq] at h
        rw [hk, h]
        exact List.mem_cons_self
      · simp only [get?, hk, if_false] at h
        exact List.mem_cons_of_mem _ (ih h)

theorem hasKey_iff {d : Dict α} {key : String} : hasKey d key = true ↔ key ∈ keys d := by
  induction d with
  | nil => simp [hasKey, get?, keys]
  | cons entry rest ih =>
      obtain ⟨k, v⟩ := entry
      by_cases h : k = key
      · simp [hasKey, get?, keys, h]
      · simp only [hasKey, keys] at ih
        simp [hasKey, get?, keys, h, ih, Ne.symm h]

theorem hasKey_eq_false_iff {d : Dict α} {key : String} :
    hasKey d key = false ↔ get? d key = none := by
  simp [hasKey]

/-- Of two dictionaries one after the other, the first counts. -/
theorem get?_append (d d' : Dict α) (key : String) :
    get? (d ++ d') key = (get? d key).or (get? d' key) := by
  induction d with
  | nil => rfl
  | cons entry rest ih =>
      obtain ⟨k, v⟩ := entry
      by_cases h : k = key
      · simp [get?, h]
      · simpa [get?, h] using ih

theorem hasKey_insert (d : Dict α) (key other : String) (value : α) :
    hasKey (insert d key value) other = (decide (other = key) || hasKey d other) := by
  by_cases h : other = key
  · simp [hasKey, h, get?_insert_self]
  · simp [hasKey, h, get?_insert_of_ne d value h]

theorem hasKey_extend (d newer : Dict α) (key : String) :
    hasKey (extend d newer) key = (hasKey d key || hasKey newer key) := by
  unfold extend
  induction newer generalizing d with
  | nil => simp [hasKey, get?]
  | cons entry rest ih =>
      obtain ⟨k, v⟩ := entry
      rw [List.foldl_cons, ih, hasKey_insert]
      by_cases h : k = key
      · simp [hasKey, get?, h]
      · simp [hasKey, get?, h, Ne.symm h]

/-- Names paired with values have no other keys. -/
theorem hasKey_zip {names : List String} {key : String} (h : key ∉ names) (values : List α) :
    hasKey (names.zip values) key = false := by
  rw [Bool.eq_false_iff, ne_eq, hasKey_iff]
  intro hk
  obtain ⟨⟨k, v⟩, hmem, rfl⟩ := List.mem_map.mp hk
  exact h (List.of_mem_zip hmem).1

/-- A new key is written at the end. -/
theorem insert_eq_append {d : Dict α} {key : String} (h : hasKey d key = false) (value : α) :
    insert d key value = d ++ [(key, value)] := by
  induction d with
  | nil => rfl
  | cons entry rest ih =>
      obtain ⟨k, v⟩ := entry
      by_cases hk : k = key
      · simp [hasKey, get?, hk] at h
      · have hrest : hasKey rest key = false := by simpa [hasKey, get?, hk] using h
        simp [insert, hk, ih hrest]

/-- Writing to a key that is there keeps the keys. -/
theorem keys_insert_of_get? {d : Dict α} {key : String} {old : α} (h : get? d key = some old)
    (value : α) : keys (insert d key value) = keys d := by
  have hmem : key ∈ keys d := hasKey_iff.mp (by simp [hasKey, h])
  rw [keys_insert, if_pos hmem]

/-- Writing what is there changes nothing. -/
theorem insert_of_get? {d : Dict α} {key : String} {value : α} (h : get? d key = some value) :
    insert d key value = d := by
  induction d with
  | nil => cases h
  | cons entry rest ih =>
      obtain ⟨k, v⟩ := entry
      by_cases hk : k = key
      · simp only [get?, hk, if_true, Option.some.injEq] at h
        simp only [insert, hk, if_true, h]
      · simp only [get?, hk, if_false] at h
        simp only [insert, hk, if_false, ih h]

/-- What is there after a write was there before it or was written. -/
theorem mem_of_mem_insert {d : Dict α} {key : String} {value : α} {e : String × α}
    (h : e ∈ insert d key value) : e ∈ d ∨ e = (key, value) := by
  induction d with
  | nil => exact .inr (List.mem_singleton.mp h)
  | cons entry rest ih =>
      obtain ⟨k, v⟩ := entry
      by_cases hk : k = key
      · simp only [insert, hk, if_true, List.mem_cons] at h
        exact h.symm.imp_left (List.mem_cons_of_mem _)
      · simp only [insert, hk, if_false, List.mem_cons] at h
        rcases h with rfl | h
        · exact .inl List.mem_cons_self
        · exact (ih h).imp_left (List.mem_cons_of_mem _)

theorem mem_of_mem_extend {d newer : Dict α} {e : String × α} (h : e ∈ extend d newer) :
    e ∈ d ∨ e ∈ newer := by
  unfold extend at h
  induction newer generalizing d with
  | nil => exact .inl h
  | cons entry rest ih =>
      rcases ih h with h | h
      · rcases mem_of_mem_insert h with h | rfl
        · exact .inl h
        · exact .inr List.mem_cons_self
      · exact .inr (List.mem_cons_of_mem _ h)

/-- New keys are written at the end, one after the other. -/
theorem extend_eq_append {d newer : Dict α} (h : KeysNodup (d ++ newer)) :
    extend d newer = d ++ newer := by
  unfold extend
  induction newer generalizing d with
  | nil => rw [List.foldl_nil, List.append_nil]
  | cons entry rest ih =>
      have hnew : hasKey d entry.1 = false := by
        rw [Bool.eq_false_iff, ne_eq, hasKey_iff]
        intro hmem
        rw [KeysNodup, keys, List.map_append, List.map_cons, List.nodup_append] at h
        exact h.2.2 _ hmem _ List.mem_cons_self rfl
      rw [List.append_cons] at h
      rw [List.foldl_cons, insert_eq_append hnew, ih h, ← List.append_cons]

theorem ofPairs_eq_self {d : Dict α} (h : KeysNodup d) : ofPairs d = d := extend_eq_append h

/-- Later writes to other keys change nothing. -/
theorem get?_extend_of_not_hasKey {d newer : Dict α} {key : String}
    (h : hasKey newer key = false) : get? (extend d newer) key = get? d key := by
  unfold extend
  induction newer generalizing d with
  | nil => rfl
  | cons entry rest ih =>
      obtain ⟨k, v⟩ := entry
      by_cases hk : k = key
      · simp [hasKey, get?, hk] at h
      · have hrest : hasKey rest key = false := by simpa [hasKey, get?, hk] using h
        rw [List.foldl_cons, ih hrest, get?_insert_of_ne d v (Ne.symm hk)]

/-- What is written last, and only once, is read. -/
theorem get?_extend_of_get? {d newer : Dict α} (hnodup : KeysNodup newer) {key : String} {v : α}
    (h : get? newer key = some v) : get? (extend d newer) key = some v := by
  induction newer generalizing d with
  | nil => cases h
  | cons entry rest ih =>
      obtain ⟨k, a⟩ := entry
      obtain ⟨hnew, hrest⟩ := List.nodup_cons.mp hnodup
      by_cases hk : k = key
      · subst hk
        have habsent : hasKey rest k = false := by
          rw [Bool.eq_false_iff, ne_eq, hasKey_iff]
          exact hnew
        have hread : get? (extend (insert d k a) rest) k = some a := by
          rw [get?_extend_of_not_hasKey habsent, get?_insert_self]
        simp only [get?, if_true] at h
        rw [← h]
        exact hread
      · simp only [get?, hk, if_false] at h
        exact ih hrest h

/-- Among keys that occur once, an entry is what is read at its key. -/
theorem get?_of_mem {d : Dict α} (hnodup : KeysNodup d) {key : String} {v : α}
    (h : (key, v) ∈ d) : get? d key = some v := by
  induction d with
  | nil => cases h
  | cons entry rest ih =>
      obtain ⟨k, a⟩ := entry
      obtain ⟨hnew, hrest⟩ := List.nodup_cons.mp hnodup
      rcases List.mem_cons.mp h with heq | hmem
      · cases heq
        simp [get?]
      · have hk : k ≠ key := by
          rintro rfl
          exact hnew (List.mem_map.mpr ⟨_, hmem, rfl⟩)
        simp only [get?, hk, if_false]
        exact ih hrest hmem

theorem keys_filterKeys (p : String → Bool) (d : Dict α) :
    keys (filterKeys p d) = (keys d).filter p := by
  rw [keys, keys, filterKeys, List.filter_map]
  rfl

/-- What is read among the entries whose key satisfies `p`. -/
theorem get?_filterKeys (p : String → Bool) (d : Dict α) (key : String) :
    get? (filterKeys p d) key = if p key then get? d key else none := by
  induction d with
  | nil => simp [filterKeys, get?]
  | cons entry rest ih =>
      obtain ⟨k, v⟩ := entry
      unfold filterKeys at ih
      by_cases hk : k = key
      · subst hk
        by_cases hp : p k = true
        · simp [filterKeys, hp, get?]
        · simp [filterKeys, hp, ih]
      · by_cases hp : p k = true
        · simp [filterKeys, hp, get?, hk, ih]
        · simp [filterKeys, hp, get?, hk, ih]

/-- What is read after every value was mapped, by a map that knows the key. -/
theorem get?_map (f : String → α → β) (d : Dict α) (key : String) :
    get? (d.map fun e => (e.1, f e.1 e.2)) key = (get? d key).map (f key) := by
  induction d with
  | nil => rfl
  | cons entry rest ih =>
      obtain ⟨k, v⟩ := entry
      by_cases hk : k = key
      · simp [get?, hk]
      · simpa [get?, hk] using ih

/-- What is read after every value was mapped. -/
theorem get?_mapValues (f : α → β) (d : Dict α) (key : String) :
    get? (mapValues f d) key = (get? d key).map f :=
  get?_map (fun _ => f) d key

theorem hasKey_map (f : String → α → β) (d : Dict α) (key : String) :
    hasKey (d.map fun e => (e.1, f e.1 e.2)) key = hasKey d key := by
  rw [hasKey, get?_map, Option.isSome_map, hasKey]

theorem keysNodup_map (f : String → α → β) {d : Dict α} (h : KeysNodup d) :
    KeysNodup (d.map fun e => (e.1, f e.1 e.2)) := by
  unfold KeysNodup keys at h ⊢
  rw [List.map_map]
  exact h

/-- Two maps give the same exactly if no entry tells them apart. -/
theorem map_eq_map_iff {f g : String → α → β} {d : Dict α} :
    (d.map fun e => (e.1, f e.1 e.2)) = (d.map fun e => (e.1, g e.1 e.2)) ↔
      ∀ e ∈ d, f e.1 e.2 = g e.1 e.2 := by
  rw [List.map_inj_left]
  exact forall₂_congr fun e _ => ⟨fun h => (Prod.mk.inj h).2, fun h => by rw [h]⟩

theorem map_eq_self_iff {f : String → α → α} {d : Dict α} :
    (d.map fun e => (e.1, f e.1 e.2)) = d ↔ ∀ e ∈ d, f e.1 e.2 = e.2 := by
  have hself : (d.map fun e => (e.1, (fun _ v => v) e.1 e.2)) = d := List.map_id' d
  have hiff := map_eq_map_iff (d := d) (f := f) (g := fun _ v => v)
  rwa [hself] at hiff

/-- It makes no difference whether values are mapped before or after they are written. -/
theorem map_insert (f : String → α → β) (d : Dict α) (key : String) (value : α) :
    (insert d key value).map (fun e => (e.1, f e.1 e.2)) =
      insert (d.map fun e => (e.1, f e.1 e.2)) key (f key value) := by
  induction d with
  | nil => rfl
  | cons entry rest ih =>
      obtain ⟨k, v⟩ := entry
      by_cases hk : k = key
      · simp [insert, hk]
      · simpa [insert, hk] using ih

theorem map_extend (f : String → α → β) (d newer : Dict α) :
    (extend d newer).map (fun e => (e.1, f e.1 e.2)) =
      extend (d.map fun e => (e.1, f e.1 e.2)) (newer.map fun e => (e.1, f e.1 e.2)) := by
  unfold extend
  induction newer generalizing d with
  | nil => rfl
  | cons entry rest ih => rw [List.foldl_cons, ih, map_insert, List.map_cons, List.foldl_cons]

/-! ### Related dictionaries -/

/-- The same keys in the same order, with values that are related at their keys. -/
inductive Related (R : String → α → β → Prop) : Dict α → Dict β → Prop where
  | nil : Related R [] []
  | cons {key : String} {a : α} {b : β} {d : Dict α} {d' : Dict β} :
      R key a b → Related R d d' → Related R ((key, a) :: d) ((key, b) :: d')

namespace Related

variable {R : String → α → β → Prop} {d : Dict α} {d' : Dict β}

theorem refl {S : String → α → α → Prop} (h : ∀ key a, S key a a) (d : Dict α) : Related S d d := by
  induction d with
  | nil => exact .nil
  | cons entry rest ih => exact .cons (h entry.1 entry.2) ih

/-- A key is in both dictionaries, with related values, or in none. -/
theorem get? (h : Related R d d') (key : String) :
    (Dict.get? d key = none ∧ Dict.get? d' key = none) ∨
      ∃ a b, Dict.get? d key = some a ∧ Dict.get? d' key = some b ∧ R key a b := by
  induction h with
  | nil => exact .inl ⟨rfl, rfl⟩
  | @cons k a b _ _ hr _ ih =>
      by_cases hk : k = key
      · subst hk
        exact .inr ⟨a, b, by simp [Dict.get?], by simp [Dict.get?], hr⟩
      · simpa only [Dict.get?, hk, if_false] using ih

theorem hasKey_eq (h : Related R d d') (key : String) : hasKey d' key = hasKey d key := by
  rcases h.get? key with ⟨h₁, h₂⟩ | ⟨a, b, h₁, h₂, -⟩ <;> rw [hasKey, hasKey, h₁, h₂] <;> rfl

/-- What is read from both dictionaries is related. -/
theorem rel_get? {S : α → β → Prop} (h : Related (fun _ => S) d d') (key : String) :
    Option.Rel S (Dict.get? d key) (Dict.get? d' key) := by
  rcases h.get? key with ⟨h₁, h₂⟩ | ⟨a, b, h₁, h₂, hr⟩ <;> rw [h₁, h₂]
  · exact .none
  · exact .some hr

theorem insert (h : Related R d d') {key : String} {a : α} {b : β} (hr : R key a b) :
    Related R (Dict.insert d key a) (Dict.insert d' key b) := by
  induction h with
  | nil => exact .cons hr .nil
  | @cons k _ _ _ _ hr' hrest ih =>
      by_cases hk : k = key
      · simp only [Dict.insert, hk, if_true]
        exact .cons hr hrest
      · simp only [Dict.insert, hk, if_false]
        exact .cons hr' ih

theorem insertIfNew (h : Related R d d') {key : String} {a : α} {b : β} (hr : R key a b) :
    Related R (Dict.insertIfNew d key a) (Dict.insertIfNew d' key b) := by
  unfold Dict.insertIfNew
  rw [h.hasKey_eq]
  split
  · exact h
  · exact h.insert hr

theorem extend (h : Related R d d') {newer : Dict α} {newer' : Dict β}
    (hn : Related R newer newer') :
    Related R (Dict.extend d newer) (Dict.extend d' newer') := by
  unfold Dict.extend
  induction hn generalizing d d' with
  | nil => exact h
  | cons hr _ ih => exact ih (h.insert hr)

theorem dropLast (h : Related R d d') : Related R d.dropLast d'.dropLast := by
  induction h with
  | nil => exact .nil
  | cons hr hrest ih =>
      cases hrest with
      | nil => exact .nil
      | cons _ _ => exact .cons hr ih

/-- The last entries, if there are any, have the same key. -/
theorem getLast? (h : Related R d d') :
    (d.getLast? = none ∧ d'.getLast? = none) ∨
      ∃ key a b, d.getLast? = some (key, a) ∧ d'.getLast? = some (key, b) ∧ R key a b := by
  induction h with
  | nil => exact .inl ⟨rfl, rfl⟩
  | @cons key a b _ _ hr hrest ih =>
      cases hrest with
      | nil => exact .inr ⟨key, a, b, rfl, rfl, hr⟩
      | cons _ _ =>
          rw [List.getLast?_cons_cons, List.getLast?_cons_cons]
          exact ih

theorem swapRemove (h : Related R d d') (key : String) :
    Related R (Dict.swapRemove d key) (Dict.swapRemove d' key) := by
  induction h with
  | nil => exact .nil
  | @cons k _ _ _ _ hr hrest ih =>
      unfold Dict.swapRemove
      split
      · rcases hrest.getLast? with ⟨h₁, h₂⟩ | ⟨last, a, b, h₁, h₂, hlast⟩ <;> rw [h₁, h₂]
        · exact .nil
        · exact .cons hlast hrest.dropLast
      · exact .cons hr ih

theorem mono {S : String → α → β → Prop} (hrs : ∀ key a b, R key a b → S key a b)
    (h : Related R d d') : Related S d d' := by
  induction h with
  | nil => exact .nil
  | cons hr _ ih => exact .cons (hrs _ _ _ hr) ih

theorem append {e : Dict α} {e' : Dict β} (h : Related R d d') (he : Related R e e') :
    Related R (d ++ e) (d' ++ e') := by
  induction h with
  | nil => exact he
  | cons hr _ ih => exact .cons hr ih

theorem filterKeys (h : Related R d d') (p : String → Bool) :
    Related R (Dict.filterKeys p d) (Dict.filterKeys p d') := by
  induction h with
  | nil => exact .nil
  | @cons key _ _ _ _ hr _ ih =>
      by_cases hp : p key = true
      · simpa [Dict.filterKeys, hp] using Related.cons hr ih
      · simpa [Dict.filterKeys, hp] using ih

theorem mapValues {γ δ : Type} {S : String → γ → δ → Prop} {f : α → γ} {g : β → δ}
    (h : Related R d d') (hs : ∀ key a b, R key a b → S key (f a) (g b)) :
    Related S (Dict.mapValues f d) (Dict.mapValues g d') := by
  induction h with
  | nil => exact .nil
  | cons hr _ ih => exact .cons (hs _ _ _ hr) ih

end Related

end JsonExpr.Dict
