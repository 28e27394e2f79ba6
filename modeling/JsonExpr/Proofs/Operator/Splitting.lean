import JsonExpr.Proofs.Evaluation.Operands
import JsonExpr.Proofs.Text.Delimiters
import JsonExpr.Proofs.Text.Trimming

/-!
# Splitting loses nothing

The pieces of a text, as they stand, are the text with the delimiter taken out, and the delimiter is
left in none of them.  A last piece that is blank may be left out; whether it is blank is looked at
before anything is trimmed, which makes no difference, and pieces in front of it stay even if they
are blank.  White space is taken from the ends of each piece that is left, so pieces may end up
empty, but none disappears.

Main results:

* `JsonExpr.Splitting.joinWith_pieces` — the pieces with the delimiter between them are the text;
* `JsonExpr.Splitting.splitting_loses_nothing` — **texts are cut at every delimiter, and nothing but
  a blank last piece and white space around pieces is left out**.
-/

set_option autoImplicit false

namespace JsonExpr.Splitting

open Text (joinWith isBlank TrimmedTo)

variable {delimiter text : List Char}

theorem split_false_false (delimiter text : List Char) :
    split false false delimiter text = pieces delimiter text := rfl

/-! ### Pieces as they stand -/

/-- Characters with nothing between them. -/
theorem joinWith_characters (text : List Char) : joinWith [] (text.map fun c => [c]) = text := by
  induction text with
  | nil => rfl
  | cons c text ih =>
      cases text with
      | nil => rfl
      | cons d text =>
          rw [List.map_cons, List.map_cons, joinWith, List.intercalate_cons_cons]
          exact congrArg (c :: ·) ih

/-- The pieces with the delimiter between them are the text. -/
theorem joinWith_pieces (delimiter text : List Char) :
    joinWith delimiter (pieces delimiter text) = text := by
  cases delimiter with
  | nil => exact joinWith_characters text
  | cons d ds => exact Text.joinWith_splitOn d ds text

theorem not_infix_of_mem_pieces (hne : delimiter ≠ []) {piece : List Char}
    (h : piece ∈ pieces delimiter text) : ¬ delimiter <:+: piece := by
  cases delimiter with
  | nil => exact absurd rfl hne
  | cons d ds => exact Text.not_infix_of_mem_splitOn h

theorem length_of_mem_pieces_nil {piece : List Char} (h : piece ∈ pieces [] text) :
    piece.length = 1 := by
  obtain ⟨c, -, rfl⟩ := List.mem_map.mp h
  rfl

/-! ### The last piece -/

theorem dropBlankLast_concat (front : List (List Char)) (last : List Char) :
    dropBlankLast (front ++ [last]) = if last.all isBlank then front else front ++ [last] := by
  rw [dropBlankLast, List.getLast?_concat, List.dropLast_concat]
  rfl

theorem dropBlankLast_of_blank (front : List (List Char)) {last : List Char}
    (h : ∀ c ∈ last, isBlank c = true) : dropBlankLast (front ++ [last]) = front := by
  rw [dropBlankLast_concat, if_pos (List.all_eq_true.mpr h)]

theorem dropBlankLast_of_not_blank (front : List (List Char)) {last : List Char}
    (h : ∃ c ∈ last, isBlank c = false) :
    dropBlankLast (front ++ [last]) = front ++ [last] := by
  obtain ⟨c, hc, hblank⟩ := h
  refine (dropBlankLast_concat front last).trans (if_neg fun hall => ?_)
  rw [List.all_eq_true.mp hall c hc] at hblank
  cases hblank

/-! ### Trimmed pieces -/

/-- Each piece that is left is trimmed. -/
theorem trimmed (excludes : Bool) (delimiter text : List Char) :
    List.Forall₂ TrimmedTo (split false excludes delimiter text)
      (split true excludes delimiter text) := by
  have hmap : split true excludes delimiter text =
      (split false excludes delimiter text).map Text.trim := rfl
  rw [hmap, List.forall₂_map_right_iff]
  exact List.forall₂_same.mpr fun piece _ => Text.trimmedTo_trim piece

/-! ### Nodes -/

/-- Operands that ask for a text to be split.  By default it is split at blanks, and its pieces are
trimmed and the last one left out if it is blank. -/
structure Asked (operands : Operands) (trims excludes : Bool) (delimiter text : List Char) :
    Prop where
  value : Operands.string? operands "value" = some (String.ofList text)
  delimiter : (Operands.string? operands "delimiter").getD " " = String.ofList delimiter
  trims : (Operands.bool? operands "trimWhiteSpace").getD true = trims
  excludes : (Operands.bool? operands "excludeTrailing").getD true = excludes

/-- Strings as a value. -/
def strings (parts : List (List Char)) : Json :=
  .array (parts.map fun part => .string (String.ofList part))

/-- What the operator computes from such operands. -/
theorem compute_split {operands : Operands} {trims excludes : Bool}
    (h : Asked operands trims excludes delimiter text) (options : Options) :
    StrictOperator.split.compute options operands =
      .ok (strings (split trims excludes delimiter text)) := by
  have hcompute : StrictOperator.split.compute options operands = .ok (splitString
      ((Operands.bool? operands "trimWhiteSpace").getD true)
      ((Operands.bool? operands "excludeTrailing").getD true)
      ((Operands.string? operands "delimiter").getD " ")
      ((Operands.string? operands "value").getD "")) := rfl
  rw [hcompute, h.value, h.delimiter, h.trims, h.excludes, Option.getD_some, splitString,
    String.toList_ofList, String.toList_ofList, strings]

open Evaluation (ReachesOperands conversionOf)

/-- **Splitting loses nothing and splits everywhere.**  The pieces of a text with the delimiter
between them are the text; none has the delimiter in it, or, if the delimiter is empty, each is one
character.  With `excludeTrailing` it is the same pieces, but for the last one if that is empty or
only white space.  With `trimWhiteSpace` it is as many pieces, and each has lost the white space at
its ends.  A node whose operands ask for the text to be split comes to these pieces. -/
theorem splitting_loses_nothing (delimiter text : List Char) :
    joinWith delimiter (split false false delimiter text) = text ∧
    (delimiter ≠ [] → ∀ piece ∈ split false false delimiter text, ¬ delimiter <:+: piece) ∧
    (delimiter = [] → ∀ piece ∈ split false false delimiter text, piece.length = 1) ∧
    (split false false delimiter text = [] → split false true delimiter text = []) ∧
    (∀ front last, split false false delimiter text = front ++ [last] →
      ((∀ c ∈ last, isBlank c = true) → split false true delimiter text = front) ∧
      ((∃ c ∈ last, isBlank c = false) →
        split false true delimiter text = front ++ [last])) ∧
    (∀ excludes, List.Forall₂ TrimmedTo (split false excludes delimiter text)
      (split true excludes delimiter text)) ∧
    ∀ (trims excludes : Bool) (env : Env) (depth : Nat) (node : Dict Json) (operands : Operands)
      (w w' : World), Asked operands trims excludes delimiter text →
      ReachesOperands env depth .split StrictOperator.split.operands node w operands w' →
      conversionOf node = none →
      eval env (depth + 1) (.object node) w =
        (some (.ok (strings (split trims excludes delimiter text))),
          w'.leave (Frame.ofNode node)) := by
  refine ⟨joinWith_pieces delimiter text, fun hne piece => not_infix_of_mem_pieces hne, ?_, ?_, ?_,
    fun excludes => trimmed excludes delimiter text, ?_⟩
  · rintro rfl piece hpiece
    exact length_of_mem_pieces_nil hpiece
  · intro hnone
    show dropBlankLast (pieces delimiter text) = []
    rw [← split_false_false, hnone]
    rfl
  · intro front last hpieces
    have hsplit : split false true delimiter text = dropBlankLast (front ++ [last]) := by
      rw [← hpieces, split_false_false]
      rfl
    rw [hsplit]
    exact ⟨dropBlankLast_of_blank front, dropBlankLast_of_not_blank front⟩
  · intro trims excludes env depth node operands w w' hasked h noConversion
    exact h.eval_strict rfl (by decide) noConversion (compute_split hasked _)

/-- A node that splits a list of names at commas. -/
def names : Dict Json :=
  [("operator", .string "SPLIT"), ("value", .string "a, b,, "), ("delimiter", .string ",")]

theorem names_reachesOperands (w : World) :
    ReachesOperands ⟨{}, Registry.full⟩ 1 .split StrictOperator.split.operands names w
      [("value", some (.string "a, b,, ")), ("delimiter", some (.string ",")),
        ("trimWhiteSpace", none), ("excludeTrailing", none)] w := by
  have hplain : ∀ key ∈ ["value", "delimiter"], isReserved key = false ∧
      OperatorKind.split.schema.canonicalName? key = none := by decide
  have hnodup : ["value", "delimiter"].Nodup := by decide
  refine .of_literals (Evaluation.operatorOf?_name rfl) rfl hplain hnodup rfl ?_ rfl
  simp only [List.forall_mem_cons]
  exact ⟨eval_text rfl (by decide) 0 w, eval_text rfl (by decide) 0 w, fun _ h => nomatch h⟩

/-- The blank behind the last comma is left out, and the empty name in front of it is kept. -/
theorem names_are_split_at_commas :
    eval ⟨{}, Registry.full⟩ 2 (.object names) ⟨[], ResultCache.empty 0, []⟩ =
      (some (.ok (.array [.string "a", .string "b", .string ""])),
        ⟨[], ResultCache.empty 0, []⟩) := by
  obtain ⟨-, -, -, -, -, -, heval⟩ := splitting_loses_nothing [','] "a, b,, ".toList
  have hpieces : split true true [','] "a, b,, ".toList = [['a'], ['b'], []] := by decide +kernel
  rw [heval true true _ 1 names _ _ _ ⟨rfl, rfl, rfl, rfl⟩ (names_reachesOperands _) rfl, hpieces]
  rfl

end JsonExpr.Splitting
