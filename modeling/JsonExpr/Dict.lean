/-!
# Insertion-ordered dictionaries

A dictionary keeps its entries in the order in which their keys were first inserted.  Writing to a
key that is there replaces the value and keeps the place; taking a key out moves the last entry into
the hole.

Main definitions:

* `JsonExpr.Dict` — the entries, in order;
* `JsonExpr.Dict.get?`, `JsonExpr.Dict.insert`, `JsonExpr.Dict.swapRemove` — access by key;
* `JsonExpr.Dict.extend`, `JsonExpr.Dict.ofPairs` — several writes, one after the other;
* `JsonExpr.Dict.KeysNodup` — no key twice, which every operation preserves.
-/

set_option autoImplicit false

namespace JsonExpr

/-- A dictionary from strings, as its entries in order. -/
abbrev Dict (α : Type) := List (String × α)

namespace Dict

variable {α β : Type}

/-- The keys in order. -/
def keys (d : Dict α) : List String := d.map Prod.fst

/-- The values in order. -/
def values (d : Dict α) : List α := d.map Prod.snd

/-- The value at a key. -/
def get? : Dict α → String → Option α
  | [], _ => none
  | (k, v) :: rest, key => if k = key then some v else get? rest key

/-- Whether a key is there. -/
def hasKey (d : Dict α) (key : String) : Bool := (get? d key).isSome

/-- Writes a value: in place if the key is there, at the end otherwise. -/
def insert : Dict α → String → α → Dict α
  | [], key, value => [(key, value)]
  | (k, v) :: rest, key, value =>
    if k = key then (key, value) :: rest else (k, v) :: insert rest key value

/-- Writes a value unless the key is there. -/
def insertIfNew (d : Dict α) (key : String) (value : α) : Dict α :=
  if hasKey d key then d else insert d key value

/-- Writes the entries of `newer` one after the other. -/
def extend (d newer : Dict α) : Dict α :=
  newer.foldl (fun acc entry => insert acc entry.1 entry.2) d

/-- The dictionary after writing the given entries one after the other. -/
def ofPairs (entries : List (String × α)) : Dict α := extend [] entries

/-- Takes a key out; the last entry moves into its place. -/
def swapRemove : Dict α → String → Dict α
  | [], _ => []
  | (k, v) :: rest, key =>
    if k = key then
      match rest.getLast? with
      | none => []
      | some last => last :: rest.dropLast
    else (k, v) :: swapRemove rest key

/-- The same keys with every value mapped. -/
def mapValues (f : α → β) (d : Dict α) : Dict β := d.map fun entry => (entry.1, f entry.2)

/-- The entries whose key satisfies `p`. -/
def filterKeys (p : String → Bool) (d : Dict α) : Dict α := d.filter fun entry => p entry.1

/-- No key occurs twice. -/
def KeysNodup (d : Dict α) : Prop := (keys d).Nodup

instance (d : Dict α) : Decidable (KeysNodup d) := inferInstanceAs (Decidable (keys d).Nodup)

/-! ### Reading after writing -/

theorem get?_insert_self (d : Dict α) (key : String) (value : α) :
    get? (insert d key value) key = some value := by
  induction d with
  | nil => simp [insert, get?]
  | cons entry rest ih =>
    obtain ⟨k, v⟩ := entry
    by_cases h : k = key <;> simp [insert, get?, h, ih]

theorem get?_insert_of_ne (d : Dict α) {key other : String} (value : α) (h : other ≠ key) :
    get? (insert d key value) other = get? d other := by
  induction d with
  | nil => simp [insert, get?, Ne.symm h]
  | cons entry rest ih =>
    obtain ⟨k, v⟩ := entry
    by_cases hk : k = key
    · subst hk; simp [insert, get?, Ne.symm h]
    · simp [insert, get?, hk, ih]

/-- Writing adds a key at the end exactly when it is new. -/
theorem keys_insert (d : Dict α) (key : String) (value : α) :
    keys (insert d key value) = if key ∈ keys d then keys d else keys d ++ [key] := by
  induction d with
  | nil => simp [insert, keys]
  | cons entry rest ih =>
    obtain ⟨k, v⟩ := entry
    by_cases h : k = key
    · simp [insert, keys, h]
    · have h' : ¬ key = k := fun e => h e.symm
      simp only [keys] at ih
      simp only [insert, h, if_false, keys, List.map_cons, List.mem_cons, h', false_or, ih]
      split <;> simp_all

end Dict

end JsonExpr
