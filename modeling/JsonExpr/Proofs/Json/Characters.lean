import JsonExpr.Json.Printer
import JsonExpr.Text.Blank

/-!
# The characters of JSON texts

Numbers are written with digits, signs, points and the mark of an exponent.  Everything else that
comes from a value stands in strings, where control characters are escaped.  So the text of a value
has no control characters in it, and it does not start with white space, whatever the value is.

Main definitions:

* `JsonExpr.Text.Printable` — a text without control characters;
* `JsonExpr.Json.numerals` — the characters of numbers.

Main results:

* `JsonExpr.Json.write_subset` — numbers are written with these characters;
* `JsonExpr.Json.printable_render` — **the text of a value has no control characters in it**;
* `JsonExpr.Json.isBlank_head_render` — the text of a value does not start with white space.
-/

set_option autoImplicit false

namespace JsonExpr

/-! ### Texts that are put together -/

namespace Text

/-- A character between pieces comes from the delimiter, any other from a piece. -/
theorem mem_joinWith {delimiter : List Char} {pieces : List (List Char)} {c : Char}
    (h : c ∈ joinWith delimiter pieces) : c ∈ delimiter ∨ ∃ piece ∈ pieces, c ∈ piece := by
  unfold joinWith at h
  induction pieces with
  | nil => cases h
  | cons first pieces ih =>
      cases pieces with
      | nil =>
          rw [List.intercalate_singleton] at h
          exact .inr ⟨first, List.mem_cons_self, h⟩
      | cons second pieces =>
          rw [List.intercalate_cons_cons, List.mem_append, List.mem_append] at h
          rcases h with (hfirst | hdelimiter) | hrest
          · exact .inr ⟨first, List.mem_cons_self, hfirst⟩
          · exact .inl hdelimiter
          · refine (ih hrest).imp_right ?_
            rintro ⟨piece, hpiece, hc⟩
            exact ⟨piece, List.mem_cons_of_mem first hpiece, hc⟩

theorem forall_mem_joinWith {p : Char → Prop} {delimiter : List Char} {pieces : List (List Char)}
    (hdelimiter : ∀ c ∈ delimiter, p c) (h : ∀ piece ∈ pieces, ∀ c ∈ piece, p c) :
    ∀ c ∈ joinWith delimiter pieces, p c := by
  intro c hc
  rcases mem_joinWith hc with hc | ⟨piece, hpiece, hc⟩
  · exact hdelimiter c hc
  · exact h piece hpiece c hc

/-- A text without control characters. -/
def Printable (text : List Char) : Prop := ∀ c ∈ text, ' ' ≤ c

instance (text : List Char) : Decidable (Printable text) := List.decidableBAll _ text

namespace Printable

variable {first second : List Char}

theorem of_subset (h : Printable second) (hsub : first ⊆ second) : Printable first :=
  fun c hc => h c (hsub hc)

theorem cons {c : Char} (hc : ' ' ≤ c) (h : Printable first) : Printable (c :: first) :=
  List.forall_mem_cons.mpr ⟨hc, h⟩

theorem append (h₁ : Printable first) (h₂ : Printable second) : Printable (first ++ second) :=
  List.forall_mem_append.mpr ⟨h₁, h₂⟩

theorem joinWith {delimiter : List Char} {pieces : List (List Char)}
    (hdelimiter : Printable delimiter) (h : ∀ piece ∈ pieces, Printable piece) :
    Printable (Text.joinWith delimiter pieces) := forall_mem_joinWith hdelimiter h

end Printable

end Text

namespace Json

open Text (Printable)

/-! ### Numbers -/

/-- The characters that numbers are written with. -/
def numerals : List Char :=
  ['0', '1', '2', '3', '4', '5', '6', '7', '8', '9', '-', '+', '.', 'e']

/-- What holds of each of the characters holds of any of them. -/
theorem of_mem_numerals {p : Char → Prop} [DecidablePred p]
    (h : (numerals.all fun c => p c) = true) {c : Char} (hc : c ∈ numerals) : p c :=
  of_decide_eq_true (List.all_eq_true.mp h c hc)

theorem numeral_table : ∀ n < 58, (Char.ofNat n).isDigit = true → Char.ofNat n ∈ numerals := by
  decide +kernel

theorem mem_numerals_of_isDigit {c : Char} (h : c.isDigit = true) : c ∈ numerals := by
  have hlt : c.toNat < 58 := by
    simp only [Char.isDigit, Bool.and_eq_true, decide_eq_true_eq] at h
    exact Nat.lt_succ_of_le (UInt32.le_iff_toNat_le.mp h.2)
  have htable := numeral_table c.toNat hlt
  rw [Char.ofNat_toNat] at htable
  exact htable h

theorem toDigits_subset (n : Nat) : Nat.toDigits 10 n ⊆ numerals := fun _ hc =>
  mem_numerals_of_isDigit (Nat.isDigit_of_mem_toDigits (by decide) (by decide) hc)

theorem zeros_subset (n : Nat) : Decimal.zeros n ⊆ numerals := fun c hc => by
  rw [List.eq_of_mem_replicate hc]
  decide

theorem positional_subset (pointed : Bool) (s : Decimal.Scientific) :
    Decimal.positional pointed s ⊆ numerals := by
  have hdigits : Decimal.digitChars s.coefficient ⊆ numerals := toDigits_subset s.coefficient
  unfold Decimal.positional
  dsimp only
  split
  · refine List.append_subset.mpr ⟨List.append_subset.mpr ⟨hdigits, zeros_subset _⟩, ?_⟩
    cases pointed <;> decide
  · split
    · exact List.append_subset.mpr ⟨List.Subset.trans (List.take_subset _ _) hdigits,
        List.cons_subset.mpr ⟨by decide, List.Subset.trans (List.drop_subset _ _) hdigits⟩⟩
    · exact List.cons_subset.mpr ⟨by decide, List.cons_subset.mpr
        ⟨by decide, List.append_subset.mpr ⟨zeros_subset _, hdigits⟩⟩⟩

theorem withExponent_subset (s : Decimal.Scientific) : Decimal.withExponent s ⊆ numerals := by
  have hdigits : Decimal.digitChars s.coefficient ⊆ numerals := toDigits_subset s.coefficient
  unfold Decimal.withExponent
  dsimp only
  refine List.append_subset.mpr ⟨?_, List.cons_subset.mpr
    ⟨by decide, List.cons_subset.mpr ⟨?_, toDigits_subset _⟩⟩⟩
  · split
    · exact List.nil_subset _
    · next d h =>
      rw [h] at hdigits
      exact hdigits
    · next d digits _ h =>
      rw [h, List.cons_subset] at hdigits
      exact List.cons_subset.mpr ⟨hdigits.1, List.cons_subset.mpr ⟨by decide, hdigits.2⟩⟩
  · split <;> decide

theorem signed_subset {text : List Char} (negative : Bool) (h : text ⊆ numerals) :
    (if negative then '-' :: text else text) ⊆ numerals := by
  split
  · exact List.cons_subset.mpr ⟨by decide, h⟩
  · exact h

theorem numeral_subset (style : Decimal.NumeralStyle) (f : Float) : style.write f ⊆ numerals := by
  unfold Decimal.NumeralStyle.write
  dsimp only
  split
  · exact signed_subset _ (positional_subset _ _)
  · refine signed_subset _ ?_
    split
    · exact positional_subset _ _
    · exact withExponent_subset _

/-- Numbers are written with digits, signs, points and the mark of an exponent. -/
theorem write_subset (n : Number) : n.write.toList ⊆ numerals := by
  cases n with
  | int i fits =>
      have hnat : ∀ m : Nat, m.repr.toList ⊆ numerals := fun m => by
        rw [Nat.toList_repr]
        exact toDigits_subset m
      change (toString i).toList ⊆ numerals
      rw [Int.toString_eq_repr, Int.repr_eq_if]
      split
      · exact hnat _
      · rw [String.toList_append]
        exact List.append_subset.mpr ⟨by decide, hnat _⟩
  | float f finite =>
      change (String.ofList _).toList ⊆ numerals
      rw [String.toList_ofList]
      exact numeral_subset _ f

/-! ### Control characters -/

theorem printable_numerals : Printable numerals := by decide

theorem printable_escape (c : Char) : Printable (escape c) := by
  have hhex : ∀ n < 16, ' ' ≤ hexDigit n := by decide
  unfold escape
  split
  case h_8 =>
    split
    · next h =>
      have hmark : Printable ['\\', 'u', '0', '0'] := by decide
      have hhigh := hhex (c.toNat / 16) (by omega)
      have hlow := hhex (c.toNat % 16) (by omega)
      exact hmark.append (.cons hhigh (.cons hlow (List.forall_mem_nil _)))
    · next h =>
      exact .cons (Nat.le_of_not_lt h) (List.forall_mem_nil _)
  all_goals decide

theorem printable_quote (s : String) : Printable (quote s) := by
  refine .cons (by decide) (.append (fun c hc => ?_) (by decide))
  obtain ⟨d, -, hc⟩ := List.mem_flatMap.mp hc
  exact printable_escape d c hc

theorem printable_bracket {opening closing : Char} {texts : List (List Char)}
    (ho : ' ' ≤ opening) (hc : ' ' ≤ closing) (h : ∀ text ∈ texts, Printable text) :
    Printable (opening :: (Text.joinWith [','] texts ++ [closing])) :=
  .cons ho (.append (.joinWith (by decide) h) (.cons hc (by decide)))

mutual

/-- **The text of a value has no control characters in it.** -/
theorem printable_render : (v : Json) → Printable (render v)
  | .null => by decide
  | .bool true => by decide
  | .bool false => by decide
  | .number n => printable_numerals.of_subset (write_subset n)
  | .string s => printable_quote s
  | .array items => printable_bracket (by decide) (by decide) (printable_items items)
  | .object fields => printable_bracket (by decide) (by decide) (printable_fields fields)

theorem printable_items : (items : List Json) → ∀ text ∈ renderItems items, Printable text
  | [] => fun _ h => nomatch h
  | v :: items => List.forall_mem_cons.mpr ⟨printable_render v, printable_items items⟩

theorem printable_fields :
    (fields : List (String × Json)) → ∀ text ∈ renderFields fields, Printable text
  | [] => fun _ h => nomatch h
  | (k, v) :: fields => List.forall_mem_cons.mpr
      ⟨.append (printable_quote k) (.cons (by decide) (printable_render v)),
        printable_fields fields⟩

end

/-! ### The first character -/

/-- The text of a value does not start with white space. -/
theorem isBlank_head_render (v : Json) : ∀ c ∈ (render v).head?, Text.isBlank c = false := by
  have hnumerals : (numerals.all fun c => Text.isBlank c = false) = true := by decide
  cases v with
  | null => exact fun c hc => Option.some.inj hc ▸ rfl
  | bool b => cases b <;> exact fun c hc => Option.some.inj hc ▸ rfl
  | number n =>
      exact fun c hc => of_mem_numerals hnumerals (write_subset n (List.mem_of_mem_head? hc))
  | string s => exact fun c hc => Option.some.inj hc ▸ rfl
  | array items => exact fun c hc => Option.some.inj hc ▸ rfl
  | object fields => exact fun c hc => Option.some.inj hc ▸ rfl

end Json

end JsonExpr
