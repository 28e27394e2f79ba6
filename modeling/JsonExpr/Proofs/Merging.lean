import JsonExpr.Options
import JsonExpr.Proofs.DictOrder

/-!
# Layers of options are a monoid

Options lie in layers, and it does not matter in which order neighbouring layers are put together,
nor whether a layer is laid over itself.  For an option that is taken as a whole this is so because
the last layer that sets it counts.  Data, functions and headers go key by key: a key keeps the
place where the lowest layer puts it, and has the value of the highest one.  A key that is written
twice in one layer would spoil this, since a later layer sees only one of its places.

Main definitions:

* `JsonExpr.Options.KeysNodup` — options whose dictionaries have no key twice.

Main results:

* `JsonExpr.Dict.extend_assoc`, `JsonExpr.Dict.extend_self` — dictionaries laid over dictionaries;
* `JsonExpr.Options.merge_assoc`, `JsonExpr.Options.merge_self` — the laws for options;
* `JsonExpr.Options.merging_is_an_idempotent_monoid` — **options with distinct keys are an
  idempotent monoid**.
-/

set_option autoImplicit false

namespace JsonExpr

/-! ### Dictionaries over dictionaries -/

namespace Dict

variable {α : Type} {d newer : Dict α}

theorem extend_cons (d : Dict α) (e : String × α) (rest : Dict α) :
    extend d (e :: rest) = extend (insert d e.1 e.2) rest := rfl

theorem keysNodup_extend (h : KeysNodup d) (newer : Dict α) : KeysNodup (extend d newer) := by
  induction newer generalizing d with
  | nil => exact h
  | cons e rest ih => exact ih (keysNodup_insert h e.1 e.2)

/-- Of two writes to one key the second counts. -/
theorem insert_insert_self (d : Dict α) (key : String) (value value' : α) :
    insert (insert d key value) key value' = insert d key value' := by
  induction d with
  | nil => simp [insert]
  | cons entry rest ih =>
      obtain ⟨k, v⟩ := entry
      by_cases hk : k = key
      · simp [insert, hk]
      · simp [insert, hk, ih]

/-- A write in place goes along with writes to other keys. -/
theorem insert_comm_of_hasKey {key other : String} (hkey : hasKey d key = true)
    (hne : other ≠ key) (value value' : α) :
    insert (insert d other value') key value = insert (insert d key value) other value' := by
  induction d with
  | nil => cases hkey
  | cons entry rest ih =>
      obtain ⟨k, v⟩ := entry
      by_cases hk : k = key
      · subst hk
        simp [insert, hne.symm]
      · have hrest : hasKey rest key = true := by simpa [hasKey, get?, hk] using hkey
        by_cases hother : k = other
        · subst hother
          simp [insert, hk]
        · simp [insert, hk, hother, ih hrest]

/-- A key that later writes leave alone may be written before them, if it has its place already. -/
theorem insert_extend_of_hasKey {key : String} (hkey : hasKey d key = true)
    (hnewer : hasKey newer key = false) (value : α) :
    insert (extend d newer) key value = extend (insert d key value) newer := by
  induction newer generalizing d with
  | nil => rfl
  | cons entry rest ih =>
      obtain ⟨k, v⟩ := entry
      have hne : k ≠ key := by
        rintro rfl
        simp [hasKey, get?] at hnewer
      have hrest : hasKey rest key = false := by simpa [hasKey, get?, hne] using hnewer
      have hkept : hasKey (insert d k v) key = true := by
        rw [hasKey_insert, hkey, Bool.or_true]
      calc insert (extend (insert d k v) rest) key value
          = extend (insert (insert d k v) key value) rest := ih hkept hrest
        _ = extend (insert (insert d key value) k v) rest := by
          rw [insert_comm_of_hasKey hkey hne]

/-- A write over two layers is a write over the upper one. -/
theorem insert_extend (hnodup : KeysNodup newer) (d : Dict α) (key : String) (value : α) :
    insert (extend d newer) key value = extend d (insert newer key value) := by
  induction newer generalizing d with
  | nil => rfl
  | cons entry rest ih =>
      obtain ⟨k, v⟩ := entry
      obtain ⟨hnew, hrest⟩ := List.nodup_cons.mp hnodup
      by_cases hk : k = key
      · subst hk
        have habsent : hasKey rest k = false := by
          rw [Bool.eq_false_iff, ne_eq, hasKey_iff]
          exact hnew
        have hplace : hasKey (insert d k v) k = true := by rw [hasKey_insert]; simp
        have hinsert : insert ((k, v) :: rest) k value = (k, value) :: rest := by simp [insert]
        calc insert (extend (insert d k v) rest) k value
            = extend (insert (insert d k v) k value) rest :=
              insert_extend_of_hasKey hplace habsent value
          _ = extend d (insert ((k, v) :: rest) k value) := by
              rw [insert_insert_self, hinsert, extend_cons]
      · have hinsert : insert ((k, v) :: rest) key value = (k, v) :: insert rest key value := by
          simp [insert, hk]
        rw [hinsert, extend_cons, extend_cons]
        exact ih hrest (insert d k v)

/-- **Layers of dictionaries may be put together from either end**, if the middle one has no key
twice. -/
theorem extend_assoc (hnodup : KeysNodup newer) (d newest : Dict α) :
    extend (extend d newer) newest = extend d (extend newer newest) := by
  induction newest generalizing newer with
  | nil => rfl
  | cons e rest ih =>
      calc extend (insert (extend d newer) e.1 e.2) rest
          = extend (extend d (insert newer e.1 e.2)) rest := by rw [insert_extend hnodup]
        _ = extend d (extend (insert newer e.1 e.2) rest) := ih (keysNodup_insert hnodup e.1 e.2)

/-- Writing entries that are there already changes nothing. -/
theorem extend_of_get? (h : ∀ e ∈ newer, get? d e.1 = some e.2) : extend d newer = d := by
  induction newer with
  | nil => rfl
  | cons e rest ih =>
      obtain ⟨he, hrest⟩ := List.forall_mem_cons.mp h
      rw [extend_cons, insert_of_get? he, ih hrest]

/-- **A dictionary laid over itself is the same dictionary.** -/
theorem extend_self (hnodup : KeysNodup d) : extend d d = d :=
  extend_of_get? fun _ he => get?_of_mem hnodup he

end Dict

/-! ### Options over options -/

namespace Options

section Layers

variable {α : Type}

theorem layer_assoc (a b c : Option α) : layer (layer a b) c = layer a (layer b c) := by
  unfold layer
  rw [Option.or_assoc]

theorem layer_self (a : Option α) : layer a a = a := by cases a <;> rfl

@[simp] theorem layer_none (a : Option α) : layer a none = a := rfl

@[simp] theorem none_layer (a : Option α) : layer none a = a := Option.or_none

@[simp] theorem mergeDict_none (a : Option (Dict α)) : mergeDict a none = a := by cases a <;> rfl

@[simp] theorem none_mergeDict (a : Option (Dict α)) : mergeDict none a = a := by cases a <;> rfl

theorem mergeDict_assoc {b : Option (Dict α)} (h : ∀ d ∈ b, Dict.KeysNodup d)
    (a c : Option (Dict α)) : mergeDict (mergeDict a b) c = mergeDict a (mergeDict b c) := by
  cases b with
  | none => rw [mergeDict_none, none_mergeDict]
  | some middle =>
      cases a with
      | none => rw [none_mergeDict, none_mergeDict]
      | some lower =>
          cases c with
          | none => rw [mergeDict_none, mergeDict_none]
          | some upper => exact congrArg some (Dict.extend_assoc (h middle rfl) lower upper)

theorem mergeDict_self {a : Option (Dict α)} (h : ∀ d ∈ a, Dict.KeysNodup d) :
    mergeDict a a = a := by
  cases a with
  | none => rfl
  | some d => exact congrArg some (Dict.extend_self (h d rfl))

theorem keysNodup_mergeDict {a b : Option (Dict α)} (ha : ∀ d ∈ a, Dict.KeysNodup d)
    (hb : ∀ d ∈ b, Dict.KeysNodup d) : ∀ d ∈ mergeDict a b, Dict.KeysNodup d := by
  cases a with
  | none => rwa [none_mergeDict]
  | some lower =>
      cases b with
      | none => rwa [mergeDict_none]
      | some upper =>
          rintro d hd
          cases hd
          exact Dict.keysNodup_extend (ha lower rfl) upper

end Layers

/-- The options that are merged key by key have no key twice. -/
structure KeysNodup (o : Options) : Prop where
  data : ∀ d ∈ o.data, Dict.KeysNodup d
  functions : ∀ d ∈ o.functions, Dict.KeysNodup d
  headers : ∀ d ∈ o.headers, Dict.KeysNodup d

theorem keysNodup_empty : empty.KeysNodup :=
  ⟨(fun _ h => nomatch h), (fun _ h => nomatch h), (fun _ h => nomatch h)⟩

theorem KeysNodup.merge {a b : Options} (ha : a.KeysNodup) (hb : b.KeysNodup) :
    (a.merge b).KeysNodup where
  data := keysNodup_mergeDict ha.data hb.data
  functions := keysNodup_mergeDict ha.functions hb.functions
  headers := keysNodup_mergeDict ha.headers hb.headers

/-- Unset options laid over others change nothing. -/
@[simp] theorem merge_empty (o : Options) : o.merge empty = o := by simp [merge, empty]

/-- Options laid over unset ones are all that is set. -/
@[simp] theorem empty_merge (o : Options) : empty.merge o = o := by simp [merge, empty]

theorem merge_assoc {b : Options} (hb : b.KeysNodup) (a c : Options) :
    (a.merge b).merge c = a.merge (b.merge c) := by
  simp only [merge, mergeDict_assoc hb.data, mergeDict_assoc hb.functions,
    mergeDict_assoc hb.headers, layer_assoc]

theorem merge_self {a : Options} (ha : a.KeysNodup) : a.merge a = a := by
  simp only [merge, mergeDict_self ha.data, mergeDict_self ha.functions, mergeDict_self ha.headers,
    layer_self]

/-- **Options with distinct keys are an idempotent monoid.**  Unset options have distinct keys and
merging keeps them so; unset options change nothing, below or above others; three layers may be put
together from either end; and options over themselves are the same options.  These are equations of
all options at once, in which an option that is unset differs from an empty dictionary, and
dictionaries with their keys in another order differ from each other. -/
theorem merging_is_an_idempotent_monoid {a b : Options} (ha : a.KeysNodup) (hb : b.KeysNodup)
    (c : Options) :
    (empty.KeysNodup ∧ (a.merge b).KeysNodup) ∧ empty.merge a = a ∧ a.merge empty = a ∧
      (a.merge b).merge c = a.merge (b.merge c) ∧ a.merge a = a :=
  ⟨⟨keysNodup_empty, ha.merge hb⟩, empty_merge a, merge_empty a, merge_assoc hb a c, merge_self ha⟩

/-- Three layers of data and headers: the keys stay where the lowest layer has them, and an empty
dictionary is something else than none. -/
theorem three_layers_merge :
    let a : Options := { data := some [("x", .int 1), ("y", .int 2)], headers := some [] }
    let b : Options := { data := some [("z", .int 3), ("y", .int 4)], useCache := some true }
    let c : Options := { data := some [("y", .int 5), ("w", .int 6)], useCache := some false }
    a.KeysNodup ∧ b.KeysNodup ∧
      ((a.merge b).merge c = a.merge (b.merge c) ∧ a.merge a = a ∧ empty.merge a = a ∧
        a.merge empty = a) ∧
      ((a.merge b).merge c).data =
        some [("x", .int 1), ("y", .int 5), ("z", .int 3), ("w", .int 6)] ∧
      ((a.merge b).merge c).headers = some [] ∧ ((a.merge b).merge c).functions = none ∧
      ((a.merge b).merge c).useCache = some false := by
  intro a b c
  have hnone : ∀ {α : Type} (d : Dict α), d ∈ (none : Option (Dict α)) → d.KeysNodup :=
    fun _ h => nomatch h
  have ha : a.KeysNodup :=
    ⟨fun d hd => by cases hd; decide, hnone, fun d hd => by cases hd; decide⟩
  have hb : b.KeysNodup := ⟨fun d hd => by cases hd; decide, hnone, hnone⟩
  obtain ⟨-, hleft, hright, hassoc, hself⟩ := merging_is_an_idempotent_monoid ha hb c
  exact ⟨ha, hb, ⟨hassoc, hself, hleft, hright⟩, rfl, rfl, rfl, rfl⟩

end Options

end JsonExpr
