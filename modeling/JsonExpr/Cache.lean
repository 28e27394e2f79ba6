import JsonExpr.Json.Printer

/-!
# The result cache

Results of host calls are kept under a key.  Two structures make up the cache: a store, which has
the result of each key, and a queue of the keys, the most recently used first.  At most a given
number of keys is kept; past it the least recently used ones are given up.

A key whose computation is under way already takes a place in both: when it is new, the keys past
the bound are given up before the computation, whether it succeeds or not.  A failed computation
gives the place back.

Main definitions:

* `JsonExpr.ResultCache` — the store, the queue and the bound;
* `JsonExpr.ResultCache.trim` — the cache with the keys past its bound given up;
* `JsonExpr.ResultCache.claim` — a place for a key, which becomes the most recent one;
* `JsonExpr.ResultCache.fill`, `JsonExpr.ResultCache.release` — the place after the computation;
* `JsonExpr.ResultCache.hit?` — the result of a key, which becomes the most recent one;
* `JsonExpr.ResultCache.settle` — the cache after the computation for a new key;
* `JsonExpr.ResultCache.getOrInsert` — the result of a key, computed if it is new;
* `JsonExpr.ResultCache.key` — the key of a list of arguments.
-/

set_option autoImplicit false

namespace JsonExpr

/-- Results by key, and the keys by their last use. -/
structure ResultCache where
  /-- The result of each key; `none` while it is being computed. -/
  store : Dict (Option Json)
  /-- The keys, the most recently used first. -/
  queue : List String
  /-- How many keys there may be. -/
  bound : Nat

namespace ResultCache

/-- The bound in effect when none is given. -/
def defaultBound : Nat := 50

/-- A cache without keys. -/
def empty (bound : Nat) : ResultCache := ⟨[], [], bound⟩

/-- The keys, the most recently used first. -/
def keys (c : ResultCache) : List String := c.queue

/-- The number of keys. -/
def size (c : ResultCache) : Nat := c.store.length

/-- Whether a key has a place. -/
def contains (c : ResultCache) (key : String) : Bool := Dict.hasKey c.store key

/-- The result of a key, if it is known. -/
def result? (c : ResultCache) (key : String) : Option Json := (Dict.get? c.store key).join

/-! ### Giving up keys -/

/-- Gives up the least recently used key. -/
def evict (c : ResultCache) : ResultCache :=
  match c.queue.getLast? with
  | none => c
  | some key =>
    { c with store := Dict.filterKeys (· != key) c.store, queue := c.queue.dropLast }

/-- Gives up the `n` least recently used keys, one after the other. -/
def evictMany : Nat → ResultCache → ResultCache
  | 0, c => c
  | n + 1, c => evictMany n c.evict

/-- Gives up the keys past the bound. -/
def trim (c : ResultCache) : ResultCache := evictMany (c.queue.length - c.bound) c

/-- Sets a new bound and gives up the keys past it. -/
def setBound (c : ResultCache) (bound : Nat) : ResultCache := trim { c with bound := bound }

/-- Gives up every key. -/
def clear (c : ResultCache) : ResultCache := { c with store := [], queue := [] }

/-! ### Places -/

/-- Makes a key that is there the most recent one. -/
def touch (c : ResultCache) (key : String) : ResultCache :=
  if key ∈ c.queue then { c with queue := key :: c.queue.erase key } else c

/-- A place for a new key.  The keys past the bound are given up, the new one among them if there is
no place at all. -/
def reserve (c : ResultCache) (key : String) : ResultCache :=
  trim { c with store := Dict.insert c.store key none, queue := key :: c.queue }

/-- A place for a key, old or new. -/
def claim (c : ResultCache) (key : String) : ResultCache :=
  if c.contains key then c.touch key else c.reserve key

/-- Puts a result in the place of its key, if the key still has one. -/
def fill (c : ResultCache) (key : String) (v : Json) : ResultCache :=
  if c.contains key then { c with store := Dict.insert c.store key (some v) } else c

/-- Gives back the place of a key that has no result. -/
def release (c : ResultCache) (key : String) : ResultCache :=
  match Dict.get? c.store key with
  | some none =>
    { c with store := Dict.filterKeys (· != key) c.store, queue := c.queue.filter (· != key) }
  | _ => c

/-! ### Looking up and computing -/

/-- The result of a key and the cache in which the key is the most recent one, if it has a
result. -/
def hit? (c : ResultCache) (key : String) : Option (Json × ResultCache) :=
  (c.result? key).map fun v => (v, c.touch key)

/-- The cache after the computation for a key without a result ended.  The key took its place before
the computation and keeps it if there is a result. -/
def settle {ε : Type} (c : ResultCache) (key : String) (outcome : Except ε Json) : ResultCache :=
  match outcome with
  | .ok v => (c.claim key).fill key v
  | .error _ => (c.claim key).release key

/-- The result of a key, by `compute` if it has none, and the cache afterwards.  The computation may
depend on a state and change it. -/
def getOrInsert {ε σ : Type} (c : ResultCache) (key : String) (compute : σ → Except ε Json × σ)
    (s : σ) : Except ε Json × ResultCache × σ :=
  match c.hit? key with
  | some (v, c) => (.ok v, c, s)
  | none =>
    let (outcome, s) := compute s
    (outcome, c.settle key outcome, s)

/-! ### Keys -/

/-- A value inside a key: strings raw, anything else as JSON text. -/
def keyPart : Json → String
  | .string s => s
  | v => v.compact

/-- The key of a list of arguments. -/
def key (args : List Json) : String := Text.joinStrings "_" (args.map keyPart)

end ResultCache

end JsonExpr
