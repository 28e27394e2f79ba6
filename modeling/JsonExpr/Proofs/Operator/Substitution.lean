import JsonExpr.Operator.Substitution
import JsonExpr.Proofs.Json.RoundTrip

/-!
# Every place is filled once

A template is a text with places, each with text behind it.  Filling goes through it from left to
right: text in front of a place is copied, a place becomes the text of its value, and the rest is
filled in the same way.  So what was filled in is not looked at again, even if it looks like a
place, and all places are filled, whatever their number and order.

A place by number ends where its digits end.  So the text behind it must not start with a digit, of
any script, and `%1` is not found in `%10`.

Main definitions:

* `JsonExpr.Substitution.NumberedPlace`, `JsonExpr.Substitution.NamedPlace` — places, with the text
  behind them;
* `JsonExpr.Substitution.valueAt?` — the value with a number, counted from one.

Main results:

* `JsonExpr.Substitution.positional_places` — a template with numbered places, filled;
* `JsonExpr.Substitution.named_places` — a template with named places, filled;
* `JsonExpr.Substitution.places_are_filled_once` — **every place is filled with its value, and all
  other text is copied**.
-/

set_option autoImplicit false

namespace JsonExpr.Substitution

variable (style : Style)

/-- What stands for a value at the place `key`: nothing if there is no value. -/
def Style.filling (key : String) : Option Json → List Char
  | none => []
  | some v => (style.render key (some v)).toList

theorem toList_render (key : String) (v : Option Json) :
    (style.render key v).toList = style.filling key v := by
  cases v with
  | none => rfl
  | some v => rfl

/-! ### Digits -/

theorem digit_table : ∀ n < 58, Decimal.isDigit (Char.ofNat n) = true →
    Text.isDecimalDigit (Char.ofNat n) = true := by
  decide +kernel

/-- An ASCII digit is a decimal digit. -/
theorem isDecimalDigit_of_isDigit {c : Char} (h : Decimal.isDigit c = true) :
    Text.isDecimalDigit c = true := by
  have hrange : '0' ≤ c ∧ c ≤ '9' := by
    by_contra hno
    rw [Decimal.isDigit, Decimal.digitValue?, if_neg hno] at h
    cases h
  have hlt : c.toNat < 58 := Nat.lt_succ_of_le (UInt32.le_iff_toNat_le.mp hrange.2)
  have htable := digit_table c.toNat hlt
  rw [Char.ofNat_toNat] at htable
  exact htable h

/-- A text that does not start with a decimal digit. -/
def EndsNumeral (text : List Char) : Prop := ∀ c ∈ text.head?, Text.isDecimalDigit c = false

theorem EndsNumeral.append {text rest : List Char} (h : EndsNumeral text)
    (hrest : EndsNumeral rest) : EndsNumeral (text ++ rest) := by
  cases text with
  | nil => exact hrest
  | cons c text => exact h

theorem takeWhile_digits_append {digits rest : List Char}
    (hdigits : ∀ c ∈ digits, Text.isDecimalDigit c = true) (hrest : EndsNumeral rest) :
    (digits ++ rest).takeWhile Text.isDecimalDigit = digits := by
  rw [List.takeWhile_append_of_pos hdigits]
  cases rest with
  | nil => rw [List.takeWhile_nil, List.append_nil]
  | cons c rest =>
      have hc : Text.isDecimalDigit c = false := hrest c rfl
      rw [List.takeWhile_cons_of_neg (by rw [hc]; exact Bool.false_ne_true), List.append_nil]

/-! ### Places by number -/

/-- A place for the value with a number, and the text behind it. -/
structure NumberedPlace (marker : Char) where
  /-- The digits of the number, which may start with zeros. -/
  digits : List Char
  /-- The text up to the next place. -/
  behind : List Char
  /-- There is a digit. -/
  digits_ne_nil : digits ≠ []
  /-- The digits are those of ASCII. -/
  ascii : ∀ c ∈ digits, Decimal.isDigit c = true
  /-- The number has 64 bits. -/
  fits : Decimal.ofDigits digits < Nat.pow 2 64
  /-- There is no marker in the text. -/
  unmarked : marker ∉ behind
  /-- The number does not go on in the text. -/
  ends : EndsNumeral behind

/-- The value with a number, counted from one. -/
def valueAt? (values : List Json) : Nat → Option Json
  | 0 => none
  | n + 1 => values[n]?

namespace NumberedPlace

variable {marker : Char} (place : NumberedPlace marker)

/-- The number of the place. -/
def number : Nat := Decimal.ofDigits place.digits

/-- The place as it stands in a template. -/
def text : List Char := marker :: (place.digits ++ place.behind)

/-- The place with its value filled in. -/
def filled (values : List Json) : List Char :=
  style.filling (toString place.number) (valueAt? values place.number) ++ place.behind

end NumberedPlace

section
variable {marker : Char} (values : List Json)

theorem positional_nil (marker : List Char) : positional style values marker [] = [] := by
  rw [positional]

/-- A character that is not the marker is copied. -/
theorem positional_cons_of_ne {c : Char} (h : c ≠ marker) (rest : List Char) :
    positional style values [marker] (c :: rest) =
      c :: positional style values [marker] rest := by
  have hnone : numberedAt? [marker] (c :: rest) = none := by
    have hafter : Text.after? [marker] (c :: rest) = none := if_neg (Ne.symm h)
    rw [numberedAt?, hafter]
  rw [positional]
  split
  · next hsome =>
    rw [hnone] at hsome
    cases hsome
  · rfl

/-- Text without a marker is copied. -/
theorem positional_append {text : List Char} (h : marker ∉ text) (rest : List Char) :
    positional style values [marker] (text ++ rest) =
      text ++ positional style values [marker] rest := by
  induction text with
  | nil => rfl
  | cons c text ih =>
      rw [List.mem_cons, not_or] at h
      rw [List.cons_append, positional_cons_of_ne style values (Ne.symm h.1), ih h.2,
        List.cons_append]

theorem numberedAt?_digits {digits rest : List Char} (hne : digits ≠ [])
    (hdigits : ∀ c ∈ digits, Text.isDecimalDigit c = true) (hrest : EndsNumeral rest) :
    numberedAt? [marker] (marker :: (digits ++ rest)) = some (digits, rest) := by
  have hafter : Text.after? [marker] (marker :: (digits ++ rest)) = some (digits ++ rest) :=
    if_pos rfl
  have hempty : digits.isEmpty = false := List.isEmpty_eq_false_iff.mpr hne
  simp only [numberedAt?, hafter, takeWhile_digits_append hdigits hrest, hempty,
    List.drop_left, Bool.false_eq_true, if_false]

theorem fillNumbered_eq (shown : List Char) (place : NumberedPlace marker) :
    fillNumbered style values shown place.digits =
      style.filling (toString place.number) (valueAt? values place.number) := by
  have hread := Json.readNatural?_of_digits place.digits_ne_nil place.ascii place.fits
  have hvalue : (if place.number = 0 then none else values[place.number - 1]?) =
      valueAt? values place.number := by
    cases place.number with
    | zero => rfl
    | succ n => rfl
  rw [← toList_render, ← hvalue, fillNumbered, hread]
  rfl

/-- A place is filled, the text behind it is copied, and the rest is filled. -/
theorem positional_place (place : NumberedPlace marker) {rest : List Char}
    (hrest : EndsNumeral rest) :
    positional style values [marker] (place.text ++ rest) =
      place.filled style values ++ positional style values [marker] rest := by
  have hat : numberedAt? [marker] (marker :: (place.digits ++ (place.behind ++ rest))) =
      some (place.digits, place.behind ++ rest) :=
    numberedAt?_digits place.digits_ne_nil
      (fun c hc => isDecimalDigit_of_isDigit (place.ascii c hc)) (place.ends.append hrest)
  rw [NumberedPlace.text, List.cons_append, List.append_assoc, positional]
  split
  · next digits after hsome =>
    rw [hat] at hsome
    cases hsome
    rw [fillNumbered_eq, positional_append style values place.unmarked, NumberedPlace.filled,
      List.append_assoc]
  · next hnone =>
    rw [hat] at hnone
    cases hnone

theorem endsNumeral_places (hmarker : Text.isDecimalDigit marker = false)
    (places : List (NumberedPlace marker)) :
    EndsNumeral (places.flatMap NumberedPlace.text) := by
  cases places with
  | nil => exact fun _ hc => nomatch hc
  | cons place places =>
      intro c hc
      cases hc
      exact hmarker

/-- A template with numbered places, filled. -/
theorem positional_places (hmarker : Text.isDecimalDigit marker = false) {start : List Char}
    (hstart : marker ∉ start) (places : List (NumberedPlace marker)) :
    positional style values [marker] (start ++ places.flatMap NumberedPlace.text) =
      start ++ places.flatMap (NumberedPlace.filled style · values) := by
  rw [positional_append style values hstart]
  congr 1
  induction places with
  | nil => exact positional_nil style values [marker]
  | cons place places ih =>
      rw [List.flatMap_cons, List.flatMap_cons,
        positional_place style values place (endsNumeral_places hmarker places), ih]

end

/-! ### Places by path -/

/-- A text without braces. -/
def Braceless (text : List Char) : Prop := ∀ c ∈ text, isBrace c = false

instance (text : List Char) : Decidable (Braceless text) :=
  List.decidableBAll (fun c => isBrace c = false) text

/-- A place for the value at a path, and the text behind it. -/
structure NamedPlace where
  /-- What stands between the braces. -/
  path : List Char
  /-- The text up to the next place. -/
  behind : List Char
  /-- Something stands between the braces. -/
  path_ne_nil : path ≠ []
  /-- There are no braces in the path. -/
  path_braceless : Braceless path
  /-- There are no braces in the text. -/
  behind_braceless : Braceless behind

namespace NamedPlace

variable (place : NamedPlace)

/-- The path that is looked up: white space at its ends does not belong to it. -/
def key : String := String.ofList (Text.trim place.path)

/-- The place as it stands in a template. -/
def text : List Char :=
  ['\x7b', '\x7b'] ++ place.path ++ ['\x7d', '\x7d'] ++ place.behind

/-- The place with its value filled in. -/
def filled (values : Dict Json) : List Char :=
  style.filling place.key (Path.extract? (.object values) place.key) ++ place.behind

end NamedPlace

section
variable (values : Dict Json)

theorem named_nil : named style values [] = [] := by rw [named]

/-- A character that is no brace is copied. -/
theorem named_cons {c : Char} (h : isBrace c = false) (rest : List Char) :
    named style values (c :: rest) = c :: named style values rest := by
  have hnone : namedAt? (c :: rest) = none := by
    rw [namedAt?]
    rintro text heq
    cases heq
    cases h
  rw [named]
  split
  · next hsome =>
    rw [hnone] at hsome
    cases hsome
  · rfl

/-- Text without braces is copied. -/
theorem named_append {text : List Char} (h : Braceless text) (rest : List Char) :
    named style values (text ++ rest) = text ++ named style values rest := by
  induction text with
  | nil => rfl
  | cons c text ih =>
      rw [List.cons_append, named_cons style values (h c List.mem_cons_self),
        ih fun c' hc' => h c' (List.mem_cons_of_mem c hc'), List.cons_append]

theorem takeWhile_path {path : List Char} (h : Braceless path) (rest : List Char) :
    (path ++ '\x7d' :: rest).takeWhile (fun c => !isBrace c) = path := by
  have hall : ∀ c ∈ path, (!isBrace c) = true := fun c hc => by rw [h c hc]; rfl
  rw [List.takeWhile_append_of_pos hall, List.takeWhile_cons_of_neg (by decide), List.append_nil]

theorem namedAt?_path {path : List Char} (hne : path ≠ []) (h : Braceless path)
    (rest : List Char) :
    namedAt? ('\x7b' :: '\x7b' :: (path ++ '\x7d' :: '\x7d' :: rest)) = some (path, rest) := by
  obtain ⟨c, path, rfl⟩ := List.exists_cons_of_ne_nil hne
  rw [namedAt?]
  simp only [takeWhile_path h, List.drop_left]

/-- A place is filled, the text behind it is copied, and the rest is filled. -/
theorem named_place (place : NamedPlace) (rest : List Char) :
    named style values (place.text ++ rest) =
      place.filled style values ++ named style values rest := by
  have hat := namedAt?_path place.path_ne_nil place.path_braceless (place.behind ++ rest)
  have htext : place.text ++ rest =
      '\x7b' :: '\x7b' :: (place.path ++ '\x7d' :: '\x7d' :: (place.behind ++ rest)) := by
    simp only [NamedPlace.text, List.append_assoc, List.cons_append, List.nil_append]
  rw [htext, named]
  split
  · next path after hsome =>
    rw [hat] at hsome
    cases hsome
    rw [named_append style values place.behind_braceless, fillNamed, toList_render,
      NamedPlace.filled, NamedPlace.key, List.append_assoc]
  · next hnone =>
    rw [hat] at hnone
    cases hnone

/-- A template with named places, filled. -/
theorem named_places {start : List Char} (hstart : Braceless start) (places : List NamedPlace) :
    named style values (start ++ places.flatMap NamedPlace.text) =
      start ++ places.flatMap (NamedPlace.filled style · values) := by
  rw [named_append style values hstart]
  congr 1
  induction places with
  | nil => exact named_nil style values
  | cons place places ih =>
      rw [List.flatMap_cons, List.flatMap_cons, named_place, ih]

end

/-! ### Filling templates -/

/-- **Every place of a template is filled once, with the text of its value or with nothing, and all
other text is copied.** -/
theorem places_are_filled_once (style : Style) :
    (∀ (marker : Char), marker = '%' ∨ marker = '$' →
      ∀ (values : List Json) (start : List Char), marker ∉ start →
      ∀ places : List (NumberedPlace marker),
        fill style (String.singleton marker)
            (String.ofList (start ++ places.flatMap NumberedPlace.text)) (some (.array values)) =
          String.ofList (start ++ places.flatMap (NumberedPlace.filled style · values))) ∧
    (∀ (marker : String) (values : Dict Json) (start : List Char), Braceless start →
      ∀ places : List NamedPlace,
        fill style marker
            (String.ofList (start ++ places.flatMap NamedPlace.text)) (some (.object values)) =
          String.ofList (start ++ places.flatMap (NamedPlace.filled style · values))) := by
  constructor
  · intro marker hmarker values start hstart places
    have hdigit : Text.isDecimalDigit marker = false := by
      rcases hmarker with rfl | rfl
      · decide +kernel
      · decide +kernel
    rw [fill, String.toList_singleton, String.toList_ofList,
      positional_places style values hdigit hstart]
  · intro marker values start hstart places
    rw [fill, String.toList_ofList, named_places style values hstart]

/-- A number of two digits is read to its end, zeros in front of a number do not count, a value
that is missing leaves nothing, and a text that looks like a place stays as it is when it is filled
in. -/
theorem filled_text_is_not_filled_again :
    fill ⟨true, none⟩ "%" "%10 and %01"
        (some (.array (["a", "b", "c", "d", "e", "f", "g", "h", "i", "%1"].map Json.string))) =
      "%1 and a" ∧
    fill ⟨true, none⟩ "%" "\x7b\x7b user.name \x7d\x7d: \x7b\x7bcount\x7d\x7d"
        (some (.object [("user", .object [("name", .string "\x7b\x7buser\x7d\x7d")])])) =
      "\x7b\x7buser\x7d\x7d: " := by
  constructor
  · have h := (places_are_filled_once ⟨true, none⟩).1 '%' (.inl rfl)
      (["a", "b", "c", "d", "e", "f", "g", "h", "i", "%1"].map Json.string) [] List.not_mem_nil
      [⟨['1', '0'], " and ".toList, by decide, List.all_eq_true.mp rfl, by decide, by decide,
          fun c hc => by cases hc; decide +kernel⟩,
        ⟨['0', '1'], [], by decide, List.all_eq_true.mp rfl, by decide, List.not_mem_nil,
          fun _ hc => nomatch hc⟩]
    exact h.trans (by decide +kernel)
  · have h := (places_are_filled_once ⟨true, none⟩).2 "%"
      [("user", .object [("name", .string "\x7b\x7buser\x7d\x7d")])] []
      (by decide)
      [⟨" user.name ".toList, ": ".toList, by decide, by decide, by decide⟩,
        ⟨"count".toList, [], by decide, by decide, by decide⟩]
    exact h.trans (by decide +kernel)

end JsonExpr.Substitution
