import JsonExpr.Json.Basic

/-!
# The parts of a value

A value is made of parts: itself, and the parts of its elements and of the values of its entries.
What holds of all parts is stated with them, and what is true of every value because it is true of
its elements and entries is proved by one induction, so that no proof has to go through the lists in
which they stand.

Main definitions:

* `JsonExpr.Json.Part` — the parts of a value;
* `JsonExpr.Json.Within` — a bound for the strings of a value.

Main results:

* `JsonExpr.Json.inductionOnParts` — **induction on the elements and entries of a value**.
-/

set_option autoImplicit false

namespace JsonExpr.Json

/-! ### Induction -/

/-- **Induction on the elements and entries of a value.** -/
@[elab_as_elim] theorem inductionOnParts {motive : Json → Prop} (null : motive .null)
    (bool : ∀ b, motive (.bool b)) (number : ∀ n, motive (.number n))
    (string : ∀ s, motive (.string s))
    (array : ∀ items, (∀ v ∈ items, motive v) → motive (.array items))
    (object : ∀ fields, (∀ e ∈ fields, motive e.2) → motive (.object fields)) (v : Json) :
    motive v :=
  -- The recursor also goes through lists of values, lists of entries, and entries.
  @Json.rec motive (fun items => ∀ v ∈ items, motive v) (fun fields => ∀ e ∈ fields, motive e.2)
    (fun e => motive e.2) null bool number string array object
    (fun _ h => nomatch h) (fun _ _ hv hitems => List.forall_mem_cons.mpr ⟨hv, hitems⟩)
    (fun _ h => nomatch h) (fun _ _ he hfields => List.forall_mem_cons.mpr ⟨he, hfields⟩)
    (fun _ _ hv => hv) v

theorem eq_string_of_isString {v : Json} (h : v.isString = true) : ∃ s, v = .string s := by
  cases v with
  | string s => exact ⟨s, rfl⟩
  | _ => cases h

theorem eq_array_of_isArray {v : Json} (h : v.isArray = true) : ∃ items, v = .array items := by
  cases v with
  | array items => exact ⟨items, rfl⟩
  | _ => cases h

theorem eq_object_of_isObject {v : Json} (h : v.isObject = true) : ∃ fields, v = .object fields := by
  cases v with
  | object fields => exact ⟨fields, rfl⟩
  | _ => cases h

/-! ### Parts -/

/-- A value that is another one or stands anywhere inside of it. -/
inductive Part (u : Json) : Json → Prop where
  | self : Part u u
  | item {items : List Json} {v : Json} : v ∈ items → Part u v → Part u (.array items)
  | entry {fields : Dict Json} {e : String × Json} : e ∈ fields → Part u e.2 →
      Part u (.object fields)

/-- No string in a value is longer than `n`. -/
def Within (n : Nat) (v : Json) : Prop := ∀ s, Part (.string s) v → s.toList.length ≤ n

namespace Within

variable {n m : Nat} {v : Json}

theorem mono (h : Within n v) (hle : n ≤ m) : Within m v := fun s hs => Nat.le_trans (h s hs) hle

theorem null : Within n .null := fun _ hs => nomatch hs

theorem bool (b : Bool) : Within n (.bool b) := fun _ hs => nomatch hs

theorem number (i : Number) : Within n (.number i) := fun _ hs => nomatch hs

theorem string {s : String} (h : s.toList.length ≤ n) : Within n (.string s) := by
  intro s' hs
  cases hs
  exact h

theorem array {items : List Json} (h : ∀ v ∈ items, Within n v) : Within n (.array items) := by
  intro s hs
  cases hs with
  | item hmem hpart => exact h _ hmem s hpart

theorem object {fields : Dict Json} (h : ∀ e ∈ fields, Within n e.2) :
    Within n (.object fields) := by
  intro s hs
  cases hs with
  | entry hmem hpart => exact h _ hmem s hpart

end Within

end JsonExpr.Json
