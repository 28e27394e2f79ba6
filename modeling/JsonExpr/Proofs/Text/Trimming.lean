import JsonExpr.Text.Blank
import Mathlib.Data.List.DropRight

/-!
# Trimming

A text is trimmed by taking away white space at its start and then at its end, one character after
the other.  What is left has no white space at its ends, and nothing else was taken away; there is
only one text of which this is true.

Main definitions:

* `JsonExpr.Text.TrimmedTo` — what is left of a text without the white space at its ends.

Main results:

* `JsonExpr.Text.trim_eq_iff` — **nothing but white space is taken away, and as much as there is**;
* `JsonExpr.Text.trim_trim`, `JsonExpr.Text.trim_concat` — trimming a text that was trimmed.
-/

set_option autoImplicit false

namespace JsonExpr.Text

variable {p : Char → Bool} {c : Char} {text : List Char}

theorem dropRight_concat (h : p c = false) (text : List Char) :
    dropRight p (text ++ [c]) = text ++ [c] := by
  unfold dropRight
  induction text with
  | nil => simp [h]
  | cons d text ih =>
      rw [List.cons_append, List.foldr_cons, ih]
      simp

theorem dropRight_eq_rdropWhile (p : Char → Bool) (text : List Char) :
    dropRight p text = text.rdropWhile p := by
  induction text using List.reverseRecOn with
  | nil => rfl
  | append_singleton text c ih =>
      cases h : p c with
      | false =>
          rw [dropRight_concat h, List.rdropWhile_concat_neg p text c (Bool.eq_false_iff.mp h)]
      | true =>
          rw [List.rdropWhile_concat_pos p text c h, ← ih, dropRight, dropRight, List.foldr_append]
          simp [h]

theorem length_dropRight_le (p : Char → Bool) (text : List Char) :
    (dropRight p text).length ≤ text.length := by
  rw [dropRight_eq_rdropWhile]
  exact (List.rdropWhile_prefix p text).length_le

theorem length_trim_le (text : List Char) : (trim text).length ≤ text.length :=
  Nat.le_trans (length_dropRight_le _ _) (List.dropWhile_suffix isBlank).length_le

/-- A text that does not start with white space stays as it is at its start. -/
theorem trimLeft_of_head (h : ∀ c ∈ text.head?, isBlank c = false) : trimLeft text = text := by
  cases text with
  | nil => rfl
  | cons c text => exact List.dropWhile_cons_of_neg (Bool.eq_false_iff.mp (h c rfl))

theorem trimRight_of_last (h : ∀ c ∈ text.getLast?, isBlank c = false) :
    trimRight text = text := by
  cases text using List.reverseRecOn with
  | nil => rfl
  | append_singleton text c => exact dropRight_concat (h c List.getLast?_concat) text

theorem trimLeft_append {blanks : List Char} (h : ∀ c ∈ blanks, isBlank c = true)
    (text : List Char) : trimLeft (blanks ++ text) = trimLeft text :=
  List.dropWhile_append_of_pos h

theorem trimRight_append {blanks : List Char} (h : ∀ c ∈ blanks, isBlank c = true)
    (text : List Char) : trimRight (text ++ blanks) = trimRight text := by
  have hreversed : ∀ c ∈ blanks.reverse, isBlank c = true := fun c hc =>
    h c (List.mem_reverse.mp hc)
  rw [trimRight, trimRight, dropRight_eq_rdropWhile, dropRight_eq_rdropWhile, List.rdropWhile,
    List.reverse_append, List.dropWhile_append_of_pos hreversed, List.rdropWhile]

theorem trim_prefix (text : List Char) : trim text <+: trimLeft text := by
  rw [trim, trimRight, dropRight_eq_rdropWhile]
  exact List.rdropWhile_prefix _ _

theorem trimLeft_trim (text : List Char) : trimLeft (trim text) = trim text := by
  refine List.dropWhile_eq_self_iff.mpr fun h => ?_
  have hprefix := trim_prefix text
  rw [List.IsPrefix.getElem hprefix h]
  exact List.dropWhile_eq_self_iff.mp (List.dropWhile_idempotent _ _) (h.trans_le hprefix.length_le)

/-! ### What is left -/

/-- What is left of a text without the white space at its ends. -/
structure TrimmedTo (text left : List Char) : Prop where
  taken : ∃ before after, text = before ++ left ++ after ∧ ∀ c ∈ before ++ after, isBlank c = true
  head : ∀ c ∈ left.head?, isBlank c = false
  last : ∀ c ∈ left.getLast?, isBlank c = false

theorem trimmedTo_trim (text : List Char) : TrimmedTo text (trim text) where
  taken := by
    refine ⟨text.takeWhile isBlank, (trimLeft text).rtakeWhile isBlank, ?_, fun c hc => ?_⟩
    · rw [List.append_assoc, trim, trimRight, dropRight_eq_rdropWhile,
        List.rdropWhile_append_rtakeWhile, trimLeft, dropLeft, List.takeWhile_append_dropWhile]
    · rcases List.mem_append.mp hc with hc | hc
      · exact List.mem_takeWhile_imp hc
      · exact List.mem_rtakeWhile_imp hc
  head c hc := by
    have hnot := List.head?_dropWhile_not isBlank (trim text)
    rw [← trimLeft_trim, trimLeft, dropLeft, Option.mem_def] at hc
    rw [hc] at hnot
    exact hnot
  last c hc := by
    rw [trim, trimRight, dropRight_eq_rdropWhile] at hc
    obtain ⟨hne, rfl⟩ := List.mem_getLast?_eq_getLast hc
    exact Bool.eq_false_iff.mpr (List.rdropWhile_last_not _ _ hne)

namespace TrimmedTo

variable {left : List Char}

theorem trim_eq (h : TrimmedTo text left) : trim text = left := by
  obtain ⟨before, after, rfl, hblank⟩ := h.taken
  obtain ⟨hbefore, hafter⟩ := List.forall_mem_append.mp hblank
  rw [trim, List.append_assoc, trimLeft_append hbefore]
  cases left with
  | nil =>
      have hnone : trimLeft after = [] := List.dropWhile_eq_nil_iff.mpr hafter
      rw [List.nil_append, hnone]
      rfl
  | cons c left =>
      have hstart : trimLeft (c :: left ++ after) = c :: left ++ after := trimLeft_of_head h.head
      rw [hstart, trimRight_append hafter, trimRight_of_last h.last]

/-- A text that does not start with white space is only cut at its end. -/
theorem exists_after (h : TrimmedTo text left) (hhead : ∀ c ∈ text.head?, isBlank c = false) :
    ∃ after, text = left ++ after ∧ ∀ c ∈ after, isBlank c = true := by
  obtain ⟨before, after, rfl, hblank⟩ := h.taken
  cases before with
  | nil => exact ⟨after, rfl, hblank⟩
  | cons c before =>
      have hc := hhead c rfl
      rw [hblank c List.mem_cons_self] at hc
      cases hc

end TrimmedTo

/-- **Nothing but white space is taken away, and as much as there is.** -/
theorem trim_eq_iff {left : List Char} : trim text = left ↔ TrimmedTo text left :=
  ⟨fun h => h ▸ trimmedTo_trim text, TrimmedTo.trim_eq⟩

theorem trim_of_ends (head : ∀ c ∈ text.head?, isBlank c = false)
    (last : ∀ c ∈ text.getLast?, isBlank c = false) : trim text = text := by
  rw [trim, trimLeft_of_head head, trimRight_of_last last]

theorem trim_trim (text : List Char) : trim (trim text) = trim text :=
  trim_of_ends (trimmedTo_trim text).head (trimmedTo_trim text).last

/-- A character that is no white space ends the trimmed text that it is put to. -/
theorem trim_concat (h : isBlank c = false) (text : List Char) :
    trim (trim text ++ [c]) = trim text ++ [c] := by
  refine trim_of_ends (fun d hd => ?_) fun d hd => ?_
  · rw [List.head?_append, Option.mem_def, Option.or_eq_some_iff] at hd
    rcases hd with hd | ⟨-, hd⟩
    · exact (trimmedTo_trim text).head d hd
    · cases hd
      exact h
  · rw [List.getLast?_concat, Option.mem_def] at hd
    cases hd
    exact h

end JsonExpr.Text
