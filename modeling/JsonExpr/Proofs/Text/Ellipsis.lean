import JsonExpr.Proofs.Text.Trimming
import JsonExpr.Text.Ellipsis

/-!
# Texts that were cut

A text that was cut to a length may be one character longer than that, for the mark is longer than
what is taken away; and it may be shorter, for what is left is trimmed.  Cut again it stays the
same, with one exception: if it has just the length, then it counts as too long, and what is left
of it ends in one of its own three dots.  So it has four dots then, and stays the same from there
on.

Main results:

* `JsonExpr.Text.shorten_shorten` — **a text that was cut stays the same when it is cut again, unless
  it has just the length**;
* `JsonExpr.Text.shorten_shorten_shorten` — cutting a third time changes nothing.
-/

set_option autoImplicit false

namespace JsonExpr.Text

variable {limit : Nat} {text : List Char}

theorem shorten_of_lt (h : text.length < limit) : shorten limit text = text := if_pos h

theorem shorten_of_le (h : limit ≤ text.length) :
    shorten limit text = trim (text.take (limit - 2)) ++ ellipsis := if_neg (Nat.not_lt.mpr h)

/-- A text that was cut: short enough as it was, or a trimmed start with its mark. -/
theorem shorten_cases (limit : Nat) (text : List Char) :
    (shorten limit text).length < limit ∨
      ∃ start, shorten limit text = trim start ++ ellipsis ∧ (trim start).length ≤ limit - 2 := by
  by_cases h : text.length < limit
  · rw [shorten_of_lt h]
    exact .inl h
  · refine .inr ⟨_, shorten_of_le (Nat.not_lt.mp h), ?_⟩
    exact (length_trim_le _).trans (List.length_take_le _ _)

/-- What a text that was cut becomes when it is cut again. -/
theorem shorten_marked {start : List Char} (hlimit : 3 ≤ limit)
    (h : (trim start).length ≤ limit - 2) :
    shorten limit (trim start ++ ellipsis) =
      if (trim start).length = limit - 3 then trim start ++ ellipsis ++ ['.']
      else trim start ++ ellipsis := by
  have hlength : (trim start ++ ellipsis).length = (trim start).length + 3 := List.length_append
  split
  · next heq =>
    -- Two characters less than the limit leave the first of the three dots.
    have htake : (trim start ++ ellipsis).take (limit - 2) = trim start ++ ['.'] := by
      rw [show limit - 2 = (trim start).length + 1 by omega, List.take_length_add_append]
      rfl
    rw [shorten_of_le (by omega), htake, trim_concat (by decide), List.append_assoc,
      List.append_assoc]
    rfl
  · next hne =>
    by_cases hshort : (trim start ++ ellipsis).length < limit
    · exact shorten_of_lt hshort
    · have htake : (trim start ++ ellipsis).take (limit - 2) = trim start := by
        rw [show limit - 2 = (trim start).length by omega, List.take_left]
      rw [shorten_of_le (Nat.not_lt.mp hshort), htake, trim_trim]

/-- A text that was cut stays the same when it is cut again, unless it has just the length: then it
gets one more dot. -/
theorem shorten_shorten (hlimit : 3 ≤ limit) (text : List Char) :
    shorten limit (shorten limit text) =
      if (shorten limit text).length = limit then shorten limit text ++ ['.']
      else shorten limit text := by
  rcases shorten_cases limit text with h | ⟨start, heq, hle⟩
  · rw [shorten_of_lt h, if_neg (by omega)]
  · have hlength : (trim start ++ ellipsis).length = (trim start).length + 3 := List.length_append
    rw [heq, shorten_marked hlimit hle, hlength]
    exact if_congr (by omega) rfl rfl

/-- **Cutting a third time changes nothing.** -/
theorem shorten_shorten_shorten (hlimit : 3 ≤ limit) (text : List Char) :
    shorten limit (shorten limit (shorten limit text)) = shorten limit (shorten limit text) := by
  rw [shorten_shorten hlimit (shorten limit text)]
  refine if_neg ?_
  rw [shorten_shorten hlimit]
  split
  · next h =>
    rw [List.length_append, h]
    simp
  · next h => exact h

end JsonExpr.Text
