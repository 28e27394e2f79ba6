import JsonExpr.Proofs.Json.Characters

/-!
# Where the text of an object ends

Texts that are put side by side can be told apart only if it is clear where each ends.  The text of
an object ends at the bracket that closes its first one.  To find this bracket it is enough to count
the brackets outside of strings; what kind of bracket it is, and what else stands between, does not
matter.  So whatever follows the text of an object, both can be recovered.

A text is *balanced* if a reader that counts brackets passes over it without leaving the brackets it
is in.  Texts of values are balanced: words and numbers contain neither brackets nor quotes, the
brackets inside of strings do not count, and arrays and objects close what they open.

Main definitions:

* `JsonExpr.Json.Reader`, `JsonExpr.Json.Reader.rest` — what follows the bracket that closes the
  outermost one;
* `JsonExpr.Json.Balanced` — texts that a reader passes over.

Main results:

* `JsonExpr.Json.Balanced.render` — the text of a value is balanced;
* `JsonExpr.Json.render_object_append_inj` — **the text of an object and what follows it can be told
  apart**.
-/

set_option autoImplicit false

namespace JsonExpr.Json

/-! ### A reader that counts brackets -/

/-- Where a reader is: between tokens, in a string, or after a backslash in a string. -/
inductive Reader where
  | outside
  | inside
  | escaped

namespace Reader

/-- What follows the bracket that closes the outermost one, when `depth` brackets are open. -/
def rest (depth : Nat) : Reader → List Char → List Char
  | _, [] => []
  | escaped, _ :: text => rest depth inside text
  | inside, c :: text =>
    if c = '"' then rest depth outside text
    else if c = '\\' then rest depth escaped text
    else rest depth inside text
  | outside, c :: text =>
    if c = '"' then rest depth inside text
    else if c = '{' ∨ c = '[' then rest (depth + 1) outside text
    else if c = '}' ∨ c = ']' then if depth ≤ 1 then text else rest (depth - 1) outside text
    else rest depth outside text

/-- A character that means nothing to a reader outside of strings. -/
def Skips (c : Char) : Prop := c ≠ '"' ∧ ¬ (c = '{' ∨ c = '[') ∧ ¬ (c = '}' ∨ c = ']')

instance (c : Char) : Decidable (Skips c) := inferInstanceAs (Decidable (_ ∧ _ ∧ _))

theorem rest_of_skips (depth : Nat) {c : Char} (h : Skips c) (text : List Char) :
    rest depth outside (c :: text) = rest depth outside text := by
  rw [rest, if_neg h.1, if_neg h.2.1, if_neg h.2.2]

end Reader

open Reader

/-! ### Balanced texts -/

/-- A text that a reader inside of brackets passes over. -/
def Balanced (text : List Char) : Prop :=
  ∀ depth after, rest (depth + 1) outside (text ++ after) = rest (depth + 1) outside after

namespace Balanced

theorem nil : Balanced [] := fun _ _ => rfl

theorem append {first second : List Char} (h₁ : Balanced first) (h₂ : Balanced second) :
    Balanced (first ++ second) := by
  intro depth after
  rw [List.append_assoc, h₁, h₂]

theorem cons {c : Char} {text : List Char} (hc : Skips c) (h : Balanced text) :
    Balanced (c :: text) := by
  intro depth after
  rw [List.cons_append, rest_of_skips _ hc, h]

/-- Characters that mean nothing to a reader. -/
theorem of_skips {text : List Char} (h : ∀ c ∈ text, Skips c) : Balanced text := by
  induction text with
  | nil => exact nil
  | cons c text ih =>
      exact cons (h c List.mem_cons_self) (ih fun c' hc' => h c' (List.mem_cons_of_mem c hc'))

/-- A word without brackets and quotes. -/
theorem word {text : List Char} (h : (text.all fun c => decide (Skips c)) = true) :
    Balanced text :=
  of_skips fun c hc => of_decide_eq_true (List.all_eq_true.mp h c hc)

/-- Balanced texts with commas between them. -/
theorem join {texts : List (List Char)} (h : ∀ text ∈ texts, Balanced text) :
    Balanced (Text.joinWith [','] texts) := by
  unfold Text.joinWith
  induction texts with
  | nil => exact nil
  | cons first texts ih =>
      have hfirst := h first List.mem_cons_self
      cases texts with
      | nil => simpa using hfirst
      | cons second texts =>
          rw [List.intercalate_cons_cons]
          have hcomma : Balanced [','] := cons (by decide) nil
          exact (hfirst.append hcomma).append
            (ih fun text hmem => h text (List.mem_cons_of_mem first hmem))

/-- A balanced text in brackets. -/
theorem bracket {opening closing : Char} {text : List Char}
    (ho : opening = '{' ∧ closing = '}' ∨ opening = '[' ∧ closing = ']') (h : Balanced text) :
    Balanced (opening :: (text ++ [closing])) := by
  intro depth after
  have hopen : rest (depth + 1) outside (opening :: (text ++ [closing] ++ after)) =
      rest (depth + 2) outside (text ++ ([closing] ++ after)) := by
    rcases ho with ⟨rfl, -⟩ | ⟨rfl, -⟩ <;> simp [rest]
  have hclose : rest (depth + 2) outside ([closing] ++ after) = rest (depth + 1) outside after := by
    rcases ho with ⟨-, rfl⟩ | ⟨-, rfl⟩ <;> simp [rest]
  rw [List.cons_append, hopen, h, hclose]

end Balanced

/-! ### Strings -/

theorem hexDigit_ne (n : Nat) : hexDigit n ≠ '"' ∧ hexDigit n ≠ '\\' :=
  ⟨Nat.digitChar_ne _ (by decide), Nat.digitChar_ne _ (by decide)⟩

/-- A character of a string leaves a reader inside of the string. -/
theorem rest_escape (depth : Nat) (c : Char) (after : List Char) :
    rest depth inside (escape c ++ after) = rest depth inside after := by
  unfold escape
  split
  case h_8 hquote hbackslash _ _ _ _ _ =>
    split
    · simp [rest, hexDigit_ne]
    · have hq : c ≠ '"' := fun h => hquote h
      have hb : c ≠ '\\' := fun h => hbackslash h
      simp [rest, hq, hb]
  all_goals simp [rest]

theorem rest_escapes (depth : Nat) (s after : List Char) :
    rest depth inside (s.flatMap escape ++ after) = rest depth inside after := by
  induction s with
  | nil => rfl
  | cons c s ih => rw [List.flatMap_cons, List.append_assoc, rest_escape, ih]

theorem Balanced.quote (s : String) : Balanced (quote s) := by
  intro depth after
  have hopen : ∀ text, rest (depth + 1) outside ('"' :: text) = rest (depth + 1) inside text := by
    simp [rest]
  have hclose : rest (depth + 1) inside ('"' :: after) = rest (depth + 1) outside after := by
    simp [rest]
  rw [Json.quote, List.cons_append, List.cons_append, hopen, List.append_assoc, rest_escapes]
  exact hclose

/-! ### Numbers -/

theorem Balanced.number (n : Number) : Balanced n.write.toList := by
  have hskips : (numerals.all fun c => Skips c) = true := by decide
  exact of_skips fun c hc => of_mem_numerals hskips (write_subset n hc)

/-! ### Values -/

mutual

/-- **The text of a value is balanced.** -/
theorem Balanced.render : (v : Json) → Balanced (Json.render v)
  | .null => word (by decide)
  | .bool true => word (by decide)
  | .bool false => word (by decide)
  | .number n => number n
  | .string s => quote s
  | .array items => bracket (.inr ⟨rfl, rfl⟩) (join (renderItems items))
  | .object fields => bracket (.inl ⟨rfl, rfl⟩) (join (renderFields fields))

theorem Balanced.renderItems : (items : List Json) → ∀ text ∈ Json.renderItems items, Balanced text
  | [] => fun _ h => nomatch h
  | v :: items => List.forall_mem_cons.mpr ⟨render v, renderItems items⟩

theorem Balanced.renderFields :
    (fields : List (String × Json)) → ∀ text ∈ Json.renderFields fields, Balanced text
  | [] => fun _ h => nomatch h
  | (k, v) :: fields => List.forall_mem_cons.mpr
      ⟨(quote k).append (cons (by decide) (render v)), renderFields fields⟩

end

/-! ### The end of an object -/

/-- A reader that starts in front of an object stops behind it. -/
theorem rest_render_object (fields : List (String × Json)) (after : List Char) :
    rest 0 outside (render (.object fields) ++ after) = after := by
  have hopen : ∀ text, rest 0 outside ('{' :: text) = rest 1 outside text := by simp [rest]
  have hclose : rest 1 outside ('}' :: after) = after := by simp [rest]
  have hfields := Balanced.join (Balanced.renderFields fields)
  rw [render, List.cons_append, hopen, List.append_assoc, hfields]
  exact hclose

/-- **The text of an object and what follows it can be told apart.** -/
theorem render_object_append_inj {a b : List (String × Json)} {after after' : List Char}
    (h : render (.object a) ++ after = render (.object b) ++ after') :
    render (.object a) = render (.object b) ∧ after = after' := by
  have hafter : after = after' := by
    rw [← rest_render_object a after, h, rest_render_object]
  subst hafter
  exact ⟨List.append_cancel_right h, rfl⟩

end JsonExpr.Json
