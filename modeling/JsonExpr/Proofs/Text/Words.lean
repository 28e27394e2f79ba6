import JsonExpr.Proofs.Text.Case
import JsonExpr.Text.CamelCase

/-!
# The words of a name

The words of a name are read off by a loop that looks one character back and one ahead.  Here is
what it finds, without the loop: a name is cut into rows of letters and numbers, each as long as
possible without a boundary inside, and what is neither letter nor number is left out.  There is one
way to cut a name so, which makes it a way to tell the words of a name that is put together from
parts.

Main definitions:

* `JsonExpr.Text.Row` — a row of characters that makes one word in front of the text behind it;
* `JsonExpr.Text.Cut` — a name and the rows in it.

Main results:

* `JsonExpr.Text.words_eq_iff` — **the words of a name are its rows**;
* `JsonExpr.Text.Cut.exists_mem_of_adjacent` — characters without a boundary between them stand in
  one word;
* `JsonExpr.Text.words_append_separator` — **the words on both sides of a separator**.
-/

set_option autoImplicit false

namespace JsonExpr.Text

/-! ### Rows -/

/-- Whether a word that ends in `c` ends in front of `text`. -/
def EndsBefore (c : Char) : List Char → Prop
  | [] => True
  | d :: text => isAlphanumeric d = true → isWordBoundary c d text.head? = true

/-- A row of letters and numbers that makes one word in front of `text`. -/
inductive Row (text : List Char) : List Char → Prop where
  | last {c : Char} : isAlphanumeric c = true → EndsBefore c text → Row text [c]
  | more {c d : Char} {row : List Char} : isAlphanumeric c = true →
      isWordBoundary c d (row ++ text).head? = false → Row text (d :: row) →
      Row text (c :: d :: row)

theorem Row.ne_nil {text row : List Char} (h : Row text row) : row ≠ [] := by
  cases h with
  | last _ _ => exact List.cons_ne_nil _ _
  | more _ _ _ => exact List.cons_ne_nil _ _

theorem Row.alphanumeric {text row : List Char} (h : Row text row) :
    ∀ c ∈ row, isAlphanumeric c = true := by
  induction h with
  | last hc _ => exact List.forall_mem_singleton.mpr hc
  | more hc _ _ ih => exact List.forall_mem_cons.mpr ⟨hc, ih⟩

/-- Every letter and number starts a row. -/
theorem exists_row (text : List Char) : ∀ c, isAlphanumeric c = true →
    ∃ row rest, text = row ++ rest ∧ Row rest (c :: row) := by
  induction text with
  | nil => exact fun c hc => ⟨[], [], rfl, .last hc trivial⟩
  | cons d text ih =>
      intro c hc
      cases hd : isAlphanumeric d with
      | false =>
          have hends : EndsBefore c (d :: text) := fun h =>
            absurd (hd.symm.trans h) Bool.false_ne_true
          exact ⟨[], d :: text, rfl, .last hc hends⟩
      | true =>
          cases hboundary : isWordBoundary c d text.head? with
          | true => exact ⟨[], d :: text, rfl, .last hc fun _ => hboundary⟩
          | false =>
              obtain ⟨row, rest, rfl, hrow⟩ := ih d hd
              exact ⟨d :: row, rest, rfl, .more hc hboundary hrow⟩

/-- A row ends in front of what follows. -/
theorem Row.endsBefore {text row before : List Char} {c : Char} (h : Row text row)
    (hrow : row = before ++ [c]) : EndsBefore c text := by
  induction h generalizing before with
  | last _ hends =>
      cases before with
      | nil =>
          cases hrow
          exact hends
      | cons b before => exact absurd (List.cons.inj hrow).2.symm (by simp)
  | more _ _ _ ih =>
      cases before with
      | nil => exact absurd (List.cons.inj hrow).2 (List.cons_ne_nil _ _)
      | cons b before => exact ih (List.cons.inj hrow).2

/-! ### Cutting a name -/

/-- A name and the rows in it. -/
inductive Cut : List Char → List (List Char) → Prop where
  | nil : Cut [] []
  | skip {c : Char} {text : List Char} {rows : List (List Char)} : isAlphanumeric c = false →
      Cut text rows → Cut (c :: text) rows
  | row {row text : List Char} {rows : List (List Char)} : Row text row → Cut text rows →
      Cut (row ++ text) (row :: rows)

/-- Where no word is begun, it does not matter what stands before. -/
theorem wordsFrom_nil (prev prev' : Option Char) (text : List Char) :
    wordsFrom prev [] text = wordsFrom prev' [] text := by
  cases text with
  | nil => rfl
  | cons c text => simp [wordsFrom]

theorem words_skip {c : Char} (h : isAlphanumeric c = false) (text : List Char) :
    words (c :: text) = words text := by
  rw [words, wordsFrom, h]
  exact wordsFrom_nil _ _ text

/-- A word that is begun and goes on with a row ends where the row ends. -/
theorem wordsFrom_row {text row : List Char} (h : Row text row) :
    ∀ c rest begun, row = c :: rest →
      wordsFrom (some c) (begun ++ [c]) (rest ++ text) = (begun ++ row) :: words text := by
  induction h with
  | @last c hc hends =>
      intro c' rest begun hrow
      cases hrow
      rw [List.nil_append]
      cases text with
      | nil => simp [wordsFrom, words]
      | cons d text =>
          cases hd : isAlphanumeric d with
          | false =>
              rw [words_skip hd, wordsFrom]
              simp [hd, words, wordsFrom_nil (some d) none]
          | true =>
              have hboundary := hends hd
              simp [wordsFrom, words, hd, hboundary]
  | @more c d row hc hboundary hrow ih =>
      intro c' rest begun heq
      cases heq
      have hd := hrow.alphanumeric d List.mem_cons_self
      have hgoes := ih d row (begun ++ [c]) rfl
      have hword : begun ++ c :: d :: row = begun ++ [c] ++ d :: row := by simp
      rw [List.cons_append, wordsFrom, hword, ← hgoes]
      simp only [hd, Bool.not_true, Bool.false_eq_true, if_false, Option.any_some, hboundary,
        Bool.and_false]

theorem words_row {text row : List Char} (h : Row text row) :
    words (row ++ text) = row :: words text := by
  obtain ⟨c, rest, rfl⟩ := List.exists_cons_of_ne_nil h.ne_nil
  have hc := h.alphanumeric c List.mem_cons_self
  have hbegun := wordsFrom_row h c rest [] rfl
  rw [words, List.cons_append, wordsFrom]
  simpa [hc] using hbegun

/-- The loop finds the rows. -/
theorem Cut.words_eq {text : List Char} {rows : List (List Char)} (h : Cut text rows) :
    words text = rows := by
  induction h with
  | nil => rfl
  | skip hc _ ih => rw [words_skip hc, ih]
  | row hrow _ ih => rw [words_row hrow, ih]

theorem exists_cut (text : List Char) : ∃ rows, Cut text rows := by
  -- A row is not empty, so that what is left is shorter.
  induction hlength : text.length using Nat.strongRecOn generalizing text with
  | _ n ih =>
      subst hlength
      cases text with
      | nil => exact ⟨[], .nil⟩
      | cons c text =>
          cases hc : isAlphanumeric c with
          | false =>
              obtain ⟨rows, hrows⟩ := ih text.length (Nat.lt_succ_self _) text rfl
              exact ⟨rows, .skip hc hrows⟩
          | true =>
              obtain ⟨row, rest, rfl, hrow⟩ := exists_row text c hc
              have hshorter : rest.length < (c :: (row ++ rest)).length := by
                rw [List.length_cons, List.length_append]
                omega
              obtain ⟨rows, hrows⟩ := ih rest.length hshorter rest rfl
              exact ⟨_, .row hrow hrows⟩

/-- **The words of a name are its rows.** -/
theorem words_eq_iff {text : List Char} {rows : List (List Char)} :
    words text = rows ↔ Cut text rows := by
  refine ⟨fun h => ?_, Cut.words_eq⟩
  obtain ⟨rows', hrows⟩ := exists_cut text
  rwa [← h, hrows.words_eq]

theorem cut_words (text : List Char) : Cut text (words text) := words_eq_iff.mp rfl

/-! ### Inside of words -/

theorem Cut.ne_nil {text : List Char} {rows : List (List Char)} (h : Cut text rows) :
    ∀ row ∈ rows, row ≠ [] := by
  induction h with
  | nil => exact fun _ hmem => nomatch hmem
  | skip _ _ ih => exact ih
  | row hrow _ ih => exact List.forall_mem_cons.mpr ⟨hrow.ne_nil, ih⟩

theorem Cut.alphanumeric {text : List Char} {rows : List (List Char)} (h : Cut text rows) :
    ∀ row ∈ rows, ∀ c ∈ row, isAlphanumeric c = true := by
  induction h with
  | nil => exact fun _ hmem => nomatch hmem
  | skip _ _ ih => exact ih
  | row hrow _ ih => exact List.forall_mem_cons.mpr ⟨hrow.alphanumeric, ih⟩

/-- What is in the rows is in the name. -/
theorem Cut.mem {text : List Char} {rows : List (List Char)} (h : Cut text rows) :
    ∀ row ∈ rows, ∀ c ∈ row, c ∈ text := by
  induction h with
  | nil => exact fun _ hmem => nomatch hmem
  | skip _ _ ih => exact fun row hmem c hc => List.mem_cons_of_mem _ (ih row hmem c hc)
  | row _ _ ih =>
      refine List.forall_mem_cons.mpr ⟨fun c hc => List.mem_append_left _ hc, ?_⟩
      exact fun row hmem c hc => List.mem_append_right _ (ih row hmem c hc)

/-- In front of the first row there are only separators. -/
theorem Cut.exists_append {text row : List Char} {rows : List (List Char)}
    (h : Cut text (row :: rows)) : ∃ separators rest, text = separators ++ (row ++ rest) ∧
      (∀ c ∈ separators, isAlphanumeric c = false) ∧ Cut rest rows := by
  generalize hrows : row :: rows = rows' at h
  induction h with
  | nil => cases hrows
  | skip hc _ ih =>
      obtain ⟨separators, rest, rfl, hseparators, hrest⟩ := ih hrows
      exact ⟨_ :: separators, rest, rfl, List.forall_mem_cons.mpr ⟨hc, hseparators⟩, hrest⟩
  | row _ hrest _ =>
      cases hrows
      exact ⟨[], _, rfl, fun _ hmem => (nomatch hmem), hrest⟩

/-- Letters and numbers next to each other stand in one word if there is no boundary between
them. -/
theorem Cut.exists_mem_of_adjacent {text before after : List Char} {rows : List (List Char)}
    {c d : Char} (h : Cut text rows) (htext : text = before ++ c :: d :: after)
    (hc : isAlphanumeric c = true) (hd : isAlphanumeric d = true)
    (hboundary : isWordBoundary c d after.head? = false) :
    ∃ row ∈ rows, ∃ front back, row = front ++ c :: d :: back := by
  induction h generalizing before with
  | nil => cases before <;> cases htext
  | skip hskip _ ih =>
      cases before with
      | nil =>
          obtain ⟨rfl, -⟩ := List.cons.inj htext
          exact absurd (hskip.symm.trans hc) Bool.false_ne_true
      | cons b before => exact ih (List.cons.inj htext).2
  | @row row rest rows hrow _ ih =>
      have hlater : ∀ before, rest = before ++ c :: d :: after →
          ∃ row' ∈ row :: rows, ∃ front back, row' = front ++ c :: d :: back := by
        intro before hrest
        obtain ⟨row', hmem, hparts⟩ := ih hrest
        exact ⟨row', List.mem_cons_of_mem _ hmem, hparts⟩
      rcases List.append_eq_append_iff.mp htext with ⟨front, -, hrest⟩ | ⟨back, rfl, hback⟩
      · exact hlater front hrest
      · match back with
        | [] => exact hlater [] hback.symm
        | [x] =>
            -- The row ends in front of the second character, which would be a boundary.
            obtain ⟨rfl, rfl⟩ := List.cons.inj hback
            have hends := hrow.endsBefore rfl hd
            exact absurd (hboundary.symm.trans hends) Bool.false_ne_true
        | x :: y :: back =>
            obtain ⟨rfl, htail⟩ := List.cons.inj hback
            obtain ⟨rfl, -⟩ := List.cons.inj htail
            exact ⟨_, List.mem_cons_self, before, back, rfl⟩

/-! ### Words on both sides of a separator -/

section Separator

variable {s : Char} {text row rest : List Char} {rows rows' : List (List Char)}

/-- A separator behind a text makes no boundary within it, since it is no letter in lower case. -/
theorem isWordBoundary_head_append (hs : isAlphanumeric s = false) (c d : Char)
    (text rest : List Char) :
    isWordBoundary c d (text ++ s :: rest).head? = isWordBoundary c d text.head? := by
  cases text with
  | nil =>
      have hlower : isLower s = false := by
        rw [Bool.eq_false_iff]
        intro h
        exact Bool.false_ne_true (hs.symm.trans (isAlphanumeric_of_isLower h))
      simp [isWordBoundary, hlower]
  | cons e text => rfl

theorem EndsBefore.append_separator {c : Char} (hs : isAlphanumeric s = false)
    (h : EndsBefore c text) : EndsBefore c (text ++ s :: rest) := by
  cases text with
  | nil => exact fun halphanumeric => absurd (hs.symm.trans halphanumeric) Bool.false_ne_true
  | cons d text =>
      intro hd
      exact (isWordBoundary_head_append hs c d text rest).trans (h hd)

theorem Row.append_separator (hs : isAlphanumeric s = false) (h : Row text row) :
    Row (text ++ s :: rest) row := by
  induction h with
  | last hc hends => exact .last hc (hends.append_separator hs)
  | more hc hboundary _ ih =>
      refine .more hc ?_ ih
      rw [← List.append_assoc, isWordBoundary_head_append hs]
      exact hboundary

theorem Cut.append_separator (hs : isAlphanumeric s = false) (h : Cut text rows)
    (hrest : Cut rest rows') : Cut (text ++ s :: rest) (rows ++ rows') := by
  induction h with
  | nil => exact .skip hs hrest
  | skip hc _ ih => exact .skip hc ih
  | row hrow _ ih =>
      rw [List.append_assoc]
      exact .row (hrow.append_separator hs) ih

/-- **The words on both sides of a separator.** -/
theorem words_append_separator (hs : isAlphanumeric s = false) (text rest : List Char) :
    words (text ++ s :: rest) = words text ++ words rest :=
  ((cut_words text).append_separator hs (cut_words rest)).words_eq

/-- What stands in front of a text and is no letter or number makes no difference to its words. -/
theorem words_separators_append {separators : List Char}
    (h : ∀ c ∈ separators, isAlphanumeric c = false) (text : List Char) :
    words (separators ++ text) = words text := by
  induction separators with
  | nil => rfl
  | cons c separators ih =>
      obtain ⟨hc, hseparators⟩ := List.forall_mem_cons.mp h
      rw [List.cons_append, words_skip hc, ih hseparators]

/-- Nor does what stands behind it. -/
theorem words_append_separators {separators : List Char}
    (h : ∀ c ∈ separators, isAlphanumeric c = false) (text : List Char) :
    words (text ++ separators) = words text := by
  cases separators with
  | nil => rw [List.append_nil]
  | cons c separators =>
      obtain ⟨hc, hseparators⟩ := List.forall_mem_cons.mp h
      have hnone : words separators = [] := by
        rw [← List.append_nil separators, words_separators_append hseparators]
        rfl
      rw [words_append_separator hc, hnone, List.append_nil]

/-- A row that stands alone is one word. -/
theorem words_of_row (h : Row [] row) : words row = [row] := by
  have hrow := words_row h
  rwa [List.append_nil] at hrow

end Separator

end JsonExpr.Text
