import JsonExpr.Json.Printer
import JsonExpr.Proofs.Dict
import JsonExpr.Proofs.Json.Part
import Mathlib.Algebra.GroupWithZero.Nat
import Mathlib.Algebra.Order.BigOperators.Group.List
import Mathlib.Algebra.Order.Group.Nat

/-!
# How much room a value takes

A text that holds a value is not shorter than the value needs.  Every value needs one character, a
string as many as it has, and an entry two more than its value, for the key and the colon.  More
could be said, since strings have quotes and elements have commas between them; but a reader of
arguments takes strings without quotes too, and for those nothing more is true.

The room of a value bounds the number of values in it and the length of its strings.

Main definitions:

* `JsonExpr.Json.count` — the number of values in a value;
* `JsonExpr.Json.room` — how many characters a value needs at least.

Main results:

* `JsonExpr.Dict.sum_extend_le` — writing entries adds no more than they are worth;
* `JsonExpr.Json.within_room` — no string is longer than the room of the value;
* `JsonExpr.Json.room_le_length_render` — **the text of a value has room for it**.
-/

set_option autoImplicit false

namespace JsonExpr

/-! ### What entries are worth -/

namespace Dict

variable {α : Type}

/-- A write adds no more than the entry is worth. -/
theorem sum_insert_le (f : String × α → Nat) (d : Dict α) (key : String) (value : α) :
    ((insert d key value).map f).sum ≤ (d.map f).sum + f (key, value) := by
  induction d with
  | nil => simp [insert]
  | cons entry rest ih =>
      obtain ⟨k, v⟩ := entry
      by_cases hk : k = key
      · simp only [insert, hk, if_true, List.map_cons, List.sum_cons]
        omega
      · simp only [insert, hk, if_false, List.map_cons, List.sum_cons]
        omega

/-- Writing entries adds no more than they are worth. -/
theorem sum_extend_le (f : String × α → Nat) (d newer : Dict α) :
    ((extend d newer).map f).sum ≤ (d.map f).sum + (newer.map f).sum := by
  unfold extend
  induction newer generalizing d with
  | nil => exact Nat.le_refl _
  | cons e rest ih =>
      have hfirst : ((insert d e.1 e.2).map f).sum ≤ (d.map f).sum + f e :=
        sum_insert_le f d e.1 e.2
      have hrest := ih (insert d e.1 e.2)
      rw [List.foldl_cons, List.map_cons, List.sum_cons]
      omega

end Dict

namespace Json

/-! ### Counting values -/

mutual

/-- The number of values in a value, itself among them; keys are no values. -/
def count : Json → Nat
  | .array items => 1 + countItems items
  | .object fields => 1 + countFields fields
  | _ => 1

/-- The number of values in the elements of an array. -/
def countItems : List Json → Nat
  | [] => 0
  | v :: rest => count v + countItems rest

/-- The number of values in the values of entries. -/
def countFields : List (String × Json) → Nat
  | [] => 0
  | (_, v) :: rest => count v + countFields rest

end

@[simp] theorem count_string (s : String) : count (.string s) = 1 := rfl

theorem count_array (items : List Json) : count (.array items) = 1 + (items.map count).sum := by
  have hsum : countItems items = (items.map count).sum := by
    induction items with
    | nil => rfl
    | cons v rest ih => rw [countItems, ih, List.map_cons, List.sum_cons]
  rw [count, hsum]

theorem count_object (fields : Dict Json) :
    count (.object fields) = 1 + (fields.map fun e => count e.2).sum := by
  have hsum : countFields fields = (fields.map fun e => count e.2).sum := by
    induction fields with
    | nil => rfl
    | cons e rest ih => rw [countFields, ih, List.map_cons, List.sum_cons]
  rw [count, hsum]

/-! ### The room of a value -/

mutual

/-- How many characters a value needs at least. -/
def room : Json → Nat
  | .string s => max 1 s.toList.length
  | .array items => 1 + roomOfItems items
  | .object fields => 1 + roomOfFields fields
  | _ => 1

/-- How many characters the elements of an array need at least. -/
def roomOfItems : List Json → Nat
  | [] => 0
  | v :: rest => room v + roomOfItems rest

/-- How many characters entries need at least, two of each for its key. -/
def roomOfFields : List (String × Json) → Nat
  | [] => 0
  | (_, v) :: rest => room v + 2 + roomOfFields rest

end

@[simp] theorem room_null : room .null = 1 := rfl

@[simp] theorem room_bool (b : Bool) : room (.bool b) = 1 := rfl

@[simp] theorem room_number (n : Number) : room (.number n) = 1 := rfl

@[simp] theorem room_string (s : String) : room (.string s) = max 1 s.toList.length := rfl

theorem room_array (items : List Json) : room (.array items) = 1 + (items.map room).sum := by
  have hsum : roomOfItems items = (items.map room).sum := by
    induction items with
    | nil => rfl
    | cons v rest ih => rw [roomOfItems, ih, List.map_cons, List.sum_cons]
  rw [room, hsum]

theorem room_object (fields : Dict Json) :
    room (.object fields) = 1 + (fields.map fun e => room e.2 + 2).sum := by
  have hsum : roomOfFields fields = (fields.map fun e => room e.2 + 2).sum := by
    induction fields with
    | nil => rfl
    | cons e rest ih => rw [roomOfFields, ih, List.map_cons, List.sum_cons]
  rw [room, hsum]

theorem room_item_le {items : List Json} {v : Json} (h : v ∈ items) :
    room v ≤ room (.array items) := by
  have hle := List.le_sum_of_mem (List.mem_map_of_mem (f := room) h)
  rw [room_array]
  omega

theorem room_entry_le {fields : Dict Json} {e : String × Json} (h : e ∈ fields) :
    room e.2 ≤ room (.object fields) := by
  have hle := List.le_sum_of_mem (List.mem_map_of_mem (f := fun e => room e.2 + 2) h)
  rw [room_object]
  omega

theorem room_le_of_part {u v : Json} (h : Part u v) : room u ≤ room v := by
  induction h with
  | self => exact Nat.le_refl _
  | item hv _ ih => exact Nat.le_trans ih (room_item_le hv)
  | entry he _ ih => exact Nat.le_trans ih (room_entry_le he)

/-- No string in a value is longer than the room of the value. -/
theorem within_room (v : Json) : Within (room v) v := by
  intro s hs
  have hle := room_le_of_part hs
  rw [room_string] at hle
  omega

/-- Of entries that are written one after the other, no more are left. -/
theorem room_ofPairs_le (entries : List (String × Json)) :
    room (.object (Dict.ofPairs entries)) ≤ 1 + (entries.map fun e => room e.2 + 2).sum := by
  have hle := Dict.sum_extend_le (fun e : String × Json => room e.2 + 2) [] entries
  rw [room_object, Dict.ofPairs]
  simpa using hle

/-! ### The text of a value -/

theorem renderItems_eq (items : List Json) : renderItems items = items.map render := by
  induction items with
  | nil => rfl
  | cons v rest ih => rw [renderItems, ih, List.map_cons]

theorem renderFields_eq (fields : Dict Json) :
    renderFields fields = fields.map fun e => quote e.1 ++ ':' :: render e.2 := by
  induction fields with
  | nil => rfl
  | cons e rest ih => rw [renderFields, ih, List.map_cons]

/-- Joined texts are at least as long as they are together. -/
theorem sum_length_le_length_join (texts : List (List Char)) :
    (texts.map List.length).sum ≤ (Text.joinWith [','] texts).length := by
  unfold Text.joinWith
  induction texts with
  | nil => exact Nat.zero_le _
  | cons first texts ih =>
      cases texts with
      | nil => simp
      | cons second texts =>
          rw [List.intercalate_cons_cons, List.length_append, List.length_append, List.map_cons,
            List.sum_cons]
          omega

theorem length_le_length_escapes (s : List Char) : s.length ≤ (s.flatMap escape).length := by
  have hescape : ∀ c, 1 ≤ (escape c).length := by
    intro c
    unfold escape
    split
    case h_8 => split <;> simp
    all_goals simp
  induction s with
  | nil => exact Nat.le_refl _
  | cons c s ih =>
      have hc := hescape c
      rw [List.flatMap_cons, List.length_append, List.length_cons]
      omega

theorem length_quote (s : String) :
    (quote s).length = (s.toList.flatMap escape).length + 2 := by
  simp [quote]

/-! ### The text of a number -/

theorem length_digitChars_pos (n : Nat) : 1 ≤ (Decimal.digitChars n).length :=
  Nat.length_toDigits_pos

theorem length_positional_pos (pointed : Bool) (s : Decimal.Scientific) :
    1 ≤ (Decimal.positional pointed s).length := by
  have hdigits := length_digitChars_pos s.coefficient
  unfold Decimal.positional
  dsimp only
  split
  · simp only [List.length_append]
    omega
  · split
    · rw [List.length_append, List.length_cons]
      omega
    · simp

theorem length_withExponent_pos (s : Decimal.Scientific) :
    1 ≤ (Decimal.withExponent s).length := by
  rw [Decimal.withExponent, List.length_append, List.length_cons]
  omega

theorem length_numeral_pos (style : Decimal.NumeralStyle) (f : Float) :
    1 ≤ (style.write f).length := by
  have hsign : ∀ (negative : Bool) (text : List Char), 1 ≤ text.length →
      1 ≤ (if negative then '-' :: text else text).length := by
    intro negative text h
    split
    · simp
    · exact h
  unfold Decimal.NumeralStyle.write
  dsimp only
  split
  · exact hsign _ _ (length_positional_pos _ _)
  · refine hsign _ _ ?_
    split
    · exact length_positional_pos _ _
    · exact length_withExponent_pos _

theorem length_write_pos (n : Number) : 1 ≤ n.write.toList.length := by
  cases n with
  | int i fits =>
      change 1 ≤ (toString i).toList.length
      rw [Int.toString_eq_repr, Int.repr_eq_if]
      split
      · rw [Nat.toList_repr]
        exact length_digitChars_pos _
      · simp
  | float f finite =>
      change 1 ≤ (String.ofList _).toList.length
      rw [String.toList_ofList]
      exact length_numeral_pos _ f

/-- **The text of a value has room for it.** -/
theorem room_le_length_render (v : Json) : room v ≤ (render v).length := by
  induction v using Json.inductionOnParts with
  | null => simp [render]
  | bool b => cases b <;> simp [render]
  | number n => exact length_write_pos n
  | string s =>
      have hle := length_le_length_escapes s.toList
      rw [room_string, render, length_quote]
      omega
  | array items ih =>
      have hsum : (items.map room).sum ≤ ((items.map render).map List.length).sum := by
        rw [List.map_map]
        exact List.sum_le_sum ih
      have hjoin := sum_length_le_length_join (items.map render)
      rw [room_array, render, renderItems_eq, List.length_cons, List.length_append]
      omega
  | object fields ih =>
      have hsum : (fields.map fun e => room e.2 + 2).sum ≤
          ((fields.map fun e => quote e.1 ++ ':' :: render e.2).map List.length).sum := by
        rw [List.map_map]
        refine List.sum_le_sum fun e he => ?_
        have hvalue := ih e he
        simp only [Function.comp_apply, List.length_append, List.length_cons, length_quote]
        omega
      have hjoin := sum_length_le_length_join
        (fields.map fun e => quote e.1 ++ ':' :: render e.2)
      rw [room_object, render, renderFields_eq, List.length_cons, List.length_append]
      omega

end Json

end JsonExpr
