import JsonExpr.Text.Pieces
import Mathlib.Logic.Basic

/-!
# Cutting at one character

Where the delimiter is one character, its occurrences cannot overlap, and a text is cut as the
standard library cuts lists.  So a cut at the place where two texts meet leaves the cuts of both as
they are.

Main results:

* `JsonExpr.Text.splitOn_eq` — **cutting at one character is cutting a list**;
* `JsonExpr.Text.splitOn_append_cons` — the pieces on both sides of a delimiter;
* `JsonExpr.Text.splitOn_append` — what stands in front of a text without a delimiter in it belongs
  to the first piece.
-/

set_option autoImplicit false

namespace JsonExpr.Text

theorem splitOn_cons (d c : Char) (text : List Char) :
    splitOn d [] (c :: text) =
      if d = c then [] :: splitOn d [] text else consHead c (splitOn d [] text) := by
  have hafter : after? [d] (c :: text) = if d = c then some text else none := rfl
  rw [splitOn]
  split
  · next left hleft =>
    by_cases h : d = c
    · rw [hafter, if_pos h] at hleft
      rw [if_pos h, Option.some.inj hleft]
    · rw [hafter, if_neg h] at hleft
      cases hleft
  · next hnone =>
    by_cases h : d = c
    · rw [hafter, if_pos h] at hnone
      cases hnone
    · rw [if_neg h]

theorem consHead_eq (c : Char) {pieces : List (List Char)} (h : pieces ≠ []) :
    consHead c pieces = pieces.modifyHead (c :: ·) := by
  cases pieces with
  | nil => exact absurd rfl h
  | cons piece pieces => rfl

/-- Cutting at one character, as lists do it. -/
theorem splitOn_eq (d : Char) (text : List Char) : splitOn d [] text = text.splitOn d := by
  induction text with
  | nil => rw [splitOn, List.splitOn_nil]
  | cons c text ih =>
      rw [splitOn_cons, List.splitOn_cons_eq_if_modifyHead, ih,
        consHead_eq c (List.splitOn_ne_nil d text)]
      exact if_congr (by rw [beq_iff_eq]; exact eq_comm) rfl rfl

theorem splitOn_append_cons (d : Char) (text after : List Char) :
    splitOn d [] (text ++ d :: after) = splitOn d [] text ++ splitOn d [] after := by
  simp only [splitOn_eq, List.splitOn_eq_splitOnP]
  exact List.splitOnP_append_cons text after (beq_self_eq_true d)

/-- What stands in front of a text without a delimiter in it belongs to the first piece. -/
theorem splitOn_append {d : Char} {front text piece : List Char} {pieces : List (List Char)}
    (hfront : d ∉ front) (h : splitOn d [] text = piece :: pieces) :
    splitOn d [] (front ++ text) = (front ++ piece) :: pieces := by
  induction front with
  | nil => exact h
  | cons c front ih =>
      rw [List.mem_cons, not_or] at hfront
      rw [List.cons_append, splitOn_cons, if_neg hfront.1, ih hfront.2]
      rfl

end JsonExpr.Text
