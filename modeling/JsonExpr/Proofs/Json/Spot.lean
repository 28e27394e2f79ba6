import JsonExpr.Path
import JsonExpr.Proofs.Dict

/-!
# Values that differ at one spot

A spot is a list of steps into a value, by key and by index.  Two values agree off a spot if they
are the same, or have the same shape on the way to the spot and differ only there.  What lies at the
spot may be anything in either of them.

Main definitions:

* `JsonExpr.Spot` — a place in a value;
* `JsonExpr.Json.AgreeOff` — values that differ at most at a spot;
* `JsonExpr.Dict.AgreeOff` — the same for the entries of an object.
-/

set_option autoImplicit false

namespace JsonExpr

/-- A place in a value, by the steps that lead there. -/
abbrev Spot := List Path.Segment

/-- Two values that differ at most at a spot. -/
def Json.AgreeOff : Spot → Json → Json → Prop
  | [], _, _ => True
  | .key name :: rest, v, v' => v = v' ∨ ∃ d d', v = .object d ∧ v' = .object d' ∧
      Dict.Related (fun key a b => a = b ∨ key = name ∧ Json.AgreeOff rest a b) d d'
  | .index i :: rest, v, v' => v = v' ∨ ∃ before a b after,
      v = .array (before ++ a :: after) ∧ v' = .array (before ++ b :: after) ∧ before.length = i ∧
        Json.AgreeOff rest a b

/-- Two dictionaries that differ at most at a spot in the value of a key. -/
def Dict.AgreeOff (name : String) (rest : Spot) : Dict Json → Dict Json → Prop :=
  Dict.Related fun key a b => a = b ∨ key = name ∧ Json.AgreeOff rest a b

theorem Json.AgreeOff.refl (spot : Spot) (v : Json) : Json.AgreeOff spot v v := by
  cases spot with
  | nil => trivial
  | cons step rest =>
      cases step with
      | key name => exact .inl rfl
      | index i => exact .inl rfl

theorem Json.AgreeOff.object {name : String} {rest : Spot} {d d' : Dict Json}
    (h : Dict.AgreeOff name rest d d') :
    Json.AgreeOff (.key name :: rest) (.object d) (.object d') :=
  .inr ⟨d, d', rfl, rfl, h⟩

theorem Json.AgreeOff.array {rest : Spot} {a b : Json} (h : Json.AgreeOff rest a b)
    (before after : List Json) :
    Json.AgreeOff (.index before.length :: rest) (.array (before ++ a :: after))
      (.array (before ++ b :: after)) :=
  .inr ⟨before, a, b, after, rfl, rfl, rfl, h⟩

/-- What agrees with an array off an element is the array, or an array with another such element. -/
theorem Json.AgreeOff.of_array {i : Nat} {rest : Spot} {items : List Json} {v : Json}
    (h : Json.AgreeOff (.index i :: rest) (.array items) v) :
    v = .array items ∨ ∃ before a b after, items = before ++ a :: after ∧
      v = .array (before ++ b :: after) ∧ before.length = i ∧ Json.AgreeOff rest a b := by
  rcases h with h | ⟨before, a, b, after, h₁, h₂, hi, h⟩
  · exact .inl h.symm
  · cases h₁
    exact .inr ⟨before, a, b, after, rfl, h₂, hi, h⟩

/-- Another element in front moves the spot. -/
theorem Json.AgreeOff.cons {i : Nat} {rest : Spot} {items items' : List Json}
    (h : Json.AgreeOff (.index i :: rest) (.array items) (.array items')) (v : Json) :
    Json.AgreeOff (.index (i + 1) :: rest) (.array (v :: items)) (.array (v :: items')) := by
  rcases h with h | ⟨before, a, b, after, h₁, h₂, rfl, h⟩
  · cases h
    exact .inl rfl
  · cases h₁
    cases h₂
    exact Json.AgreeOff.array h (v :: before) after

namespace Dict.AgreeOff

variable {name : String} {rest : Spot} {d d' : Dict Json}

theorem refl (name : String) (rest : Spot) (d : Dict Json) : AgreeOff name rest d d :=
  Related.refl (fun _ _ => .inl rfl) d

/-- What agrees with an object off a key is an object whose entries agree. -/
theorem of_object {v : Json} (h : Json.AgreeOff (.key name :: rest) (.object d) v) :
    ∃ d', v = .object d' ∧ AgreeOff name rest d d' := by
  rcases h with rfl | ⟨_, d', h₁, rfl, h⟩
  · exact ⟨d, rfl, refl name rest d⟩
  · cases h₁
    exact ⟨d', rfl, h⟩

theorem get?_eq (h : AgreeOff name rest d d') {key : String} (hkey : key ≠ name) :
    Dict.get? d' key = Dict.get? d key := by
  rcases Related.get? h key with ⟨h₁, h₂⟩ | ⟨a, b, h₁, h₂, rfl | ⟨rfl, -⟩⟩
  · rw [h₁, h₂]
  · rw [h₁, h₂]
  · exact absurd rfl hkey

/-- At the key of the spot, too, only the spot differs. -/
theorem get?_of_some (h : AgreeOff name rest d d') {v : Json} (hv : Dict.get? d name = some v) :
    ∃ v', Dict.get? d' name = some v' ∧ Json.AgreeOff rest v v' := by
  rcases Related.get? h name with ⟨h₁, -⟩ | ⟨a, b, h₁, h₂, hab⟩
  · rw [h₁] at hv
    cases hv
  · rw [h₁] at hv
    cases hv
    rcases hab with rfl | ⟨-, hab⟩
    · exact ⟨_, h₂, Json.AgreeOff.refl rest _⟩
    · exact ⟨b, h₂, hab⟩

/-- Only keys off the spot are left: nothing differs. -/
theorem filterKeys_eq (h : AgreeOff name rest d d') {p : String → Bool} (hp : p name = false) :
    Dict.filterKeys p d' = Dict.filterKeys p d := by
  induction h with
  | nil => rfl
  | @cons key a b _ _ hr _ ih =>
      by_cases hkey : p key = true
      · rcases hr with rfl | ⟨rfl, -⟩
        · simpa [Dict.filterKeys, hkey] using ih
        · rw [hp] at hkey
          cases hkey
      · simpa [Dict.filterKeys, hkey] using ih

end Dict.AgreeOff

end JsonExpr
