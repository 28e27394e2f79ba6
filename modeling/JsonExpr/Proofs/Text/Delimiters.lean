import JsonExpr.Text.Pieces
import Mathlib.Data.List.Infix

/-!
# Cutting at a delimiter

A text is cut at the first occurrence of the delimiter, and what is left behind it is cut in the
same way.  Occurrences may overlap, in `aaa` for the delimiter `aa`; the one that starts first
counts, and the others are gone with it.  So the delimiter does not start anywhere in a piece, not
even if it would end in the occurrence behind the piece, and this and the text determine the pieces.

Main definitions:

* `JsonExpr.Text.CutAt` — pieces that end where the delimiter first occurs.

Main results:

* `JsonExpr.Text.splitOn_eq_iff` — **a text is cut at the first occurrences, and in no other way**;
* `JsonExpr.Text.joinWith_splitOn` — the pieces with the delimiter between them are the text;
* `JsonExpr.Text.not_infix_of_mem_splitOn` — no piece has the delimiter in it.
-/

set_option autoImplicit false

namespace JsonExpr.Text

/-! ### Occurrences at the start -/

theorem after?_append (start rest : List Char) : after? start (start ++ rest) = some rest := by
  induction start with
  | nil => rfl
  | cons c start ih => rw [List.cons_append, after?, if_pos rfl, ih]

theorem after?_eq_none_iff {start text : List Char} :
    after? start text = none ↔ ¬ start <+: text := by
  constructor
  · rintro h ⟨rest, rfl⟩
    cases h.symm.trans (after?_append start rest)
  · intro h
    cases hafter : after? start text with
    | none => rfl
    | some rest => exact absurd ⟨rest, append_of_after? hafter⟩ h

/-! ### Pieces up to the first occurrence -/

/-- The pieces of a text, each of which ends where the delimiter first occurs in what is left. -/
inductive CutAt (delimiter : List Char) : List Char → List (List Char) → Prop
  /-- Text without the delimiter is one piece. -/
  | last {text : List Char} (absent : ¬ delimiter <:+: text) : CutAt delimiter text [text]
  /-- Text up to the first occurrence is the first piece. -/
  | next {piece rest : List Char} {pieces : List (List Char)}
      (first : ¬ delimiter <:+: piece ++ delimiter.dropLast)
      (others : CutAt delimiter rest pieces) :
      CutAt delimiter (piece ++ (delimiter ++ rest)) (piece :: pieces)

namespace CutAt

variable {delimiter text piece : List Char} {pieces pieces' : List (List Char)}

theorem ne_nil (h : CutAt delimiter text pieces) : pieces ≠ [] := by
  cases h with
  | last => exact List.cons_ne_nil _ _
  | next => exact List.cons_ne_nil _ _

/-- The pieces with the delimiter between them are the text. -/
theorem joinWith_eq (h : CutAt delimiter text pieces) : joinWith delimiter pieces = text := by
  induction h with
  | last => exact List.intercalate_singleton
  | next _ others ih =>
      rw [joinWith, List.intercalate_cons_of_ne_nil others.ne_nil, ← joinWith, ih,
        List.append_assoc]

theorem absent_of_mem (h : CutAt delimiter text pieces) (hpiece : piece ∈ pieces) :
    ¬ delimiter <:+: piece := by
  induction h with
  | last absent =>
      rw [List.mem_singleton.mp hpiece]
      exact absent
  | next first _ ih =>
      rcases List.mem_cons.mp hpiece with rfl | hpiece
      · exact fun h => first (List.infix_append_of_infix_left h)
      · exact ih hpiece

/-- A character in front of a text in which the delimiter does not start belongs to the first
piece. -/
theorem cons {c : Char} (h : CutAt delimiter text pieces) (hstart : ¬ delimiter <+: c :: text) :
    CutAt delimiter (c :: text) (consHead c pieces) := by
  cases h with
  | last absent => exact .last fun h => (List.infix_cons_iff.mp h).elim hstart absent
  | @next piece rest pieces first others =>
      have hfirst : ¬ delimiter <:+: (c :: piece) ++ delimiter.dropLast := by
        intro h
        rcases List.infix_cons_iff.mp h with hleft | hin
        · -- An occurrence at the start, though it may reach into the next one.
          have hmore : c :: (piece ++ delimiter.dropLast) <+: c :: (piece ++ (delimiter ++ rest)) :=
            List.cons_prefix_cons.mpr ⟨rfl, (List.prefix_append_right_inj _).mpr
              ((List.dropLast_prefix _).trans (List.prefix_append _ _))⟩
          exact hstart (hleft.trans hmore)
        · exact first hin
      exact .next hfirst others

/-- A piece that ends where the delimiter first occurs is no longer than one that ends at any
occurrence. -/
theorem first_unique {piece' rest rest' : List Char}
    (first : ¬ delimiter <:+: piece ++ delimiter.dropLast)
    (heq : piece ++ (delimiter ++ rest) = piece' ++ (delimiter ++ rest')) :
    piece.length ≤ piece'.length := by
  -- Otherwise the occurrence behind the second one starts inside of the first one.
  by_contra hlt
  rw [Nat.not_le] at hlt
  have hwhole : piece' ++ delimiter <+: piece ++ delimiter.dropLast := by
    have hleft : piece' ++ delimiter <+: piece ++ (delimiter ++ rest) := by
      rw [heq, ← List.append_assoc]
      exact List.prefix_append _ _
    have hright : piece ++ delimiter.dropLast <+: piece ++ (delimiter ++ rest) :=
      (List.prefix_append_right_inj _).mpr
        ((List.dropLast_prefix _).trans (List.prefix_append _ _))
    refine List.prefix_of_prefix_length_le hleft hright ?_
    simp only [List.length_append, List.length_dropLast]
    omega
  exact first ((List.suffix_append piece' delimiter).isInfix.trans hwhole.isInfix)

/-- A text is cut in one way only. -/
theorem unique (h : CutAt delimiter text pieces) (h' : CutAt delimiter text pieces') :
    pieces = pieces' := by
  have hoccurs : ∀ {piece rest : List Char}, delimiter <:+: piece ++ (delimiter ++ rest) :=
    fun {piece rest} => ⟨piece, rest, List.append_assoc _ _ _⟩
  induction h generalizing pieces' with
  | last absent =>
      cases h' with
      | last => rfl
      | next => exact absurd hoccurs absent
  | @next piece rest pieces first _ ih =>
      generalize htext : piece ++ (delimiter ++ rest) = text at h'
      cases h' with
      | last absent =>
          subst htext
          exact absurd hoccurs absent
      | @next piece' rest' pieces' first' others' =>
          have hlength : piece.length = piece'.length :=
            Nat.le_antisymm (first_unique first htext) (first_unique first' htext.symm)
          obtain ⟨rfl, hbehind⟩ := List.append_inj htext hlength
          obtain rfl := List.append_cancel_left hbehind
          rw [ih others']

end CutAt

/-! ### Cutting -/

section Cutting

variable {d : Char} {ds text piece : List Char} {pieces : List (List Char)}

theorem splitOn_cutAt (d : Char) (ds text : List Char) :
    CutAt (d :: ds) text (splitOn d ds text) := by
  fun_induction splitOn d ds text with
  | case1 => exact .last fun h => nomatch List.infix_nil.mp h
  | case2 c rest left hafter ih =>
      have hfirst : ¬ d :: ds <:+: [] ++ (d :: ds).dropLast := by
        intro h
        have hlength := h.length_le
        rw [List.nil_append, List.length_dropLast, List.length_cons] at hlength
        omega
      rw [← append_of_after? hafter]
      exact .next hfirst ih
  | case3 c rest hafter ih => exact ih.cons (after?_eq_none_iff.mp hafter)

/-- **A text is cut at the first occurrences of the delimiter, and in no other way.** -/
theorem splitOn_eq_iff : splitOn d ds text = pieces ↔ CutAt (d :: ds) text pieces :=
  ⟨fun h => h ▸ splitOn_cutAt d ds text, fun h => (splitOn_cutAt d ds text).unique h⟩

/-- The pieces with the delimiter between them are the text. -/
theorem joinWith_splitOn (d : Char) (ds text : List Char) :
    joinWith (d :: ds) (splitOn d ds text) = text :=
  (splitOn_cutAt d ds text).joinWith_eq

/-- No piece has the delimiter in it. -/
theorem not_infix_of_mem_splitOn (h : piece ∈ splitOn d ds text) : ¬ d :: ds <:+: piece :=
  (splitOn_cutAt d ds text).absent_of_mem h

/-- Where occurrences overlap, the first one counts. -/
example : splitOn 'a' ['a'] ['a', 'a', 'a', 'b'] = [[], ['a', 'b']] := by decide +kernel

end Cutting

end JsonExpr.Text
