import JsonExpr.Json.Parser
import JsonExpr.Proofs.Json.Room

/-!
# Values are read back from their text

The text of a value without doubles denotes the value again, unless it nests deeper than a reader
follows.  Every reader of a part of a text is shown to stop where the part ends, whatever comes
next.  Only after a number something must not come next: what would make it a longer number.

Main definitions:

* `JsonExpr.Json.Legible` — values without doubles that nest no deeper than a bound;
* `JsonExpr.Json.Stops` — texts that do not go on with a number;
* `JsonExpr.Json.Reads` — a reader that reads a value back from its text.

Main results:

* `JsonExpr.Json.readString?_quote` — strings are read back;
* `JsonExpr.Json.readValue?_render` — values are read back, whatever follows them;
* `JsonExpr.Json.parseChars?_render` — **the text of a legible value denotes the value**.
-/

set_option autoImplicit false

namespace JsonExpr.Json

/-! ### Strings -/

theorem hexValue?_hexDigit {n : Nat} (h : n < 16) : hexValue? (hexDigit n) = some n := by
  have hall : ∀ n < 16, hexValue? (hexDigit n) = some n := by decide
  exact hall n h

theorem hexUnit?_control {n : Nat} (h : n < 0x20) :
    hexUnit? '0' '0' (hexDigit (n / 16)) (hexDigit (n % 16)) = some n := by
  have hzero : hexValue? '0' = some 0 := by decide
  have hhigh : hexValue? (hexDigit (n / 16)) = some (n / 16) := hexValue?_hexDigit (by omega)
  have hlow : hexValue? (hexDigit (n % 16)) = some (n % 16) := hexValue?_hexDigit (by omega)
  simp only [hexUnit?, hzero, hhigh, hlow, Option.bind_eq_bind, Option.bind_some, Option.pure_def]
  congr 1
  omega

/-- A character that is escaped by its number is no half of a surrogate pair. -/
theorem readString?_control {n : Nat} (h : n < 0x20) (text : List Char) :
    readString? ('\\' :: 'u' :: '0' :: '0' :: hexDigit (n / 16) :: hexDigit (n % 16) :: text) =
      andThen (Char.ofNat n) (readString? text) := by
  have hunit := hexUnit?_control h
  have hhigh : isHighSurrogate n = false := by
    rw [isHighSurrogate, Bool.and_eq_false_iff]
    exact .inl (decide_eq_false (by omega))
  have hlow : isLowSurrogate n = false := by
    rw [isLowSurrogate, Bool.and_eq_false_iff]
    exact .inl (decide_eq_false (by omega))
  rw [readString?.eq_def]
  split
  case h_3 e f g d rest heq =>
    cases heq
    simp [hunit, hhigh, hlow]
  case h_4 rest hother heq =>
    cases heq
    simp [hunit, hhigh, hlow]
  case h_5 hno heq =>
    cases heq
    exact absurd rfl (hno _ _ _ _ _ rfl)
  case h_6 hno heq =>
    cases heq
    exact absurd rfl (hno _ _ rfl)
  all_goals simp_all

/-- A character is read back from its escape. -/
theorem readString?_escape (c : Char) (text : List Char) :
    readString? (escape c ++ text) = andThen c (readString? text) := by
  unfold escape
  split
  case h_8 hquote hbackslash _ _ _ _ _ =>
    split
    · next hcontrol =>
      have hread := readString?_control hcontrol text
      rwa [Char.ofNat_toNat] at hread
    · next hplain =>
      have hkept : ¬ (decide (c.toNat < 0x20) || c == '\\') = true := by
        rw [Bool.or_eq_true, decide_eq_true_iff, beq_iff_eq, not_or]
        exact ⟨hplain, fun h => hbackslash h⟩
      rw [List.singleton_append, readString?.eq_def]
      split
      case h_6 heq =>
        cases heq
        rw [if_neg hkept]
      all_goals simp_all
  all_goals
    rw [List.cons_append, List.cons_append, List.nil_append, readString?.eq_def]
    simp [shortEscape?]

/-- **Strings are read back**, up to their closing quote. -/
theorem readString?_quote (s rest : List Char) :
    readString? (s.flatMap escape ++ '"' :: rest) = some (s, rest) := by
  induction s with
  | nil => simp [readString?]
  | cons c s ih =>
      rw [List.flatMap_cons, List.append_assoc, readString?_escape, ih]
      rfl

/-! ### Integers -/

theorem isDigit_eq (c : Char) : Decimal.isDigit c = c.isDigit := by
  unfold Decimal.isDigit Decimal.digitValue? Char.isDigit
  by_cases h : '0' ≤ c ∧ c ≤ '9'
  · rw [if_pos h]
    exact ((Bool.and_eq_true _ _).mpr ⟨decide_eq_true h.1, decide_eq_true h.2⟩).symm
  · rw [if_neg h]
    refine (Bool.eq_false_iff.mpr fun hdigit => h ?_).symm
    rw [Bool.and_eq_true, decide_eq_true_iff, decide_eq_true_iff] at hdigit
    exact hdigit

theorem isDigit_of_mem_toDigits {n : Nat} {c : Char} (h : c ∈ Nat.toDigits 10 n) :
    Decimal.isDigit c = true := by
  rw [isDigit_eq]
  exact Nat.isDigit_of_mem_toDigits (by decide) (by decide) h

theorem digitValue?_of_isDigit {c : Char} (h : Decimal.isDigit c = true) :
    Decimal.digitValue? c = some (c.toNat - '0'.toNat) := by
  unfold Decimal.isDigit Decimal.digitValue? at h
  unfold Decimal.digitValue?
  split
  · rfl
  · next hno =>
    rw [if_neg hno] at h
    cases h

theorem ofDigits_toDigits (n : Nat) : Decimal.ofDigits (Nat.toDigits 10 n) = n := by
  have hfold : ∀ (digits : List Char) (m : Nat), (∀ c ∈ digits, Decimal.isDigit c = true) →
      digits.foldl (fun n c => 10 * n + (Decimal.digitValue? c).getD 0) m =
        Nat.ofDigitChars 10 digits m := by
    intro digits
    induction digits with
    | nil => exact fun _ _ => rfl
    | cons c digits ih =>
        intro m hdigits
        rw [List.foldl_cons, Nat.ofDigitChars_cons,
          digitValue?_of_isDigit (hdigits c List.mem_cons_self), Option.getD_some]
        exact ih _ fun c' hc' => hdigits c' (List.mem_cons_of_mem c hc')
  rw [Decimal.ofDigits, hfold _ 0 fun _ hc => isDigit_of_mem_toDigits hc]
  exact Nat.ofDigitChars_ten_toDigits

/-- There is a first digit, and only the digits of zero start with a zero. -/
theorem exists_toDigits_eq (n : Nat) :
    ∃ d digits, Nat.toDigits 10 n = d :: digits ∧ Decimal.isDigit d = true ∧ (d = '0' → n = 0) := by
  have hfirst : ∃ d digits, Nat.toDigits 10 n = d :: digits ∧ (d = '0' → n = 0) := by
    induction n using Nat.strongRecOn with
    | ind n ih =>
      by_cases hsmall : n < 10
      · exact ⟨_, [], Nat.toDigits_of_lt_base hsmall, Nat.digitChar_eq_zero.mp⟩
      · obtain ⟨d, digits, heq, hzero⟩ := ih (n / 10) (by omega)
        refine ⟨d, digits ++ [(n % 10).digitChar], ?_, fun hd => ?_⟩
        · rw [Nat.toDigits_of_base_le (by decide) (by omega), heq, List.cons_append]
        · have hquotient := hzero hd
          omega
  obtain ⟨d, digits, heq, hzero⟩ := hfirst
  exact ⟨d, digits, heq, isDigit_of_mem_toDigits (heq ▸ List.mem_cons_self), hzero⟩

/-- A row of digits is read as the number it denotes, if that has 64 bits. -/
theorem readNatural?_of_digits {digits : List Char} (hfilled : digits ≠ [])
    (hdigits : ∀ c ∈ digits, Decimal.isDigit c = true)
    (h : Decimal.ofDigits digits < Nat.pow 2 64) :
    Decimal.readNatural? digits = some (Decimal.ofDigits digits) := by
  have hall : digits.all Decimal.isDigit = true := List.all_eq_true.mpr hdigits
  have hempty : digits.isEmpty = false := List.isEmpty_eq_false_iff.mpr hfilled
  rw [Decimal.readNatural?]
  · rw [hempty, hall, if_pos h]
    rfl
  · -- There is no sign in front of the digits.
    intro rest hsign
    have hplus : Decimal.isDigit '+' = true := hdigits '+' (hsign ▸ List.mem_cons_self)
    cases hplus

/-- A natural number of 64 bits is read back from its digits. -/
theorem readNatural?_toDigits {n : Nat} (h : n < Nat.pow 2 64) :
    Decimal.readNatural? (Nat.toDigits 10 n) = some n := by
  have hread := readNatural?_of_digits Nat.toDigits_ne_nil (fun _ hc => isDigit_of_mem_toDigits hc)
    (ofDigits_toDigits n ▸ h)
  rwa [ofDigits_toDigits] at hread

/-- A text that does not go on with a number. -/
def Stops (text : List Char) : Prop :=
  ∀ c ∈ text.head?, Decimal.isDigit c = false ∧ c ≠ '.' ∧ ¬ (c = 'e' ∨ c = 'E')

theorem Stops.nil : Stops [] := fun _ h => nomatch h

theorem Stops.cons {c : Char} {text : List Char}
    (h : Decimal.isDigit c = false ∧ c ≠ '.' ∧ ¬ (c = 'e' ∨ c = 'E')) : Stops (c :: text) := by
  intro c' hc'
  cases hc'
  exact h

section Literals

variable {rest : List Char}

theorem Stops.takeWhile_isDigit (h : Stops rest) : rest.takeWhile Decimal.isDigit = [] := by
  cases rest with
  | nil => rfl
  | cons c rest => exact List.takeWhile_cons_of_neg (Bool.eq_false_iff.mp (h c rfl).1)

theorem Stops.dropWhile_isDigit (h : Stops rest) : rest.dropWhile Decimal.isDigit = rest := by
  cases rest with
  | nil => rfl
  | cons c rest => exact List.dropWhile_cons_of_neg (Bool.eq_false_iff.mp (h c rfl).1)

theorem readWhole?_toDigits (n : Nat) (h : Stops rest) :
    readWhole? (Nat.toDigits 10 n ++ rest) = some (Nat.toDigits 10 n, rest) := by
  by_cases hzero : n = 0
  · subst hzero
    rfl
  obtain ⟨d, digits, heq, -, hd⟩ := exists_toDigits_eq n
  have hdigits : ∀ c ∈ Nat.toDigits 10 n, Decimal.isDigit c = true :=
    fun _ hc => isDigit_of_mem_toDigits hc
  unfold readWhole?
  split
  · next htext =>
    rw [heq, List.cons_append, List.cons.injEq] at htext
    exact absurd (hd htext.1) hzero
  · rw [List.takeWhile_append_of_pos hdigits, List.dropWhile_append_of_pos hdigits,
      h.takeWhile_isDigit, h.dropWhile_isDigit, List.append_nil]
    dsimp only
    rw [if_neg (by simp [Nat.toDigits_ne_nil])]

theorem readFraction?_of_stops (h : Stops rest) : readFraction? rest = some (none, rest) := by
  unfold readFraction?
  split
  · exact absurd rfl (h '.' rfl).2.1
  · rfl

theorem readLiteralExponent?_of_stops (h : Stops rest) :
    readLiteralExponent? rest = some (none, rest) := by
  cases rest with
  | nil => rfl
  | cons c rest => rw [readLiteralExponent?, if_neg (h c rfl).2.2]

/-- The digits of a number, with or without a sign. -/
theorem readLiteral?_toDigits (n : Nat) (h : Stops rest) :
    readLiteral? (Nat.toDigits 10 n ++ rest) =
        some (⟨false, Nat.toDigits 10 n, none, none⟩, rest) ∧
      readLiteral? ('-' :: (Nat.toDigits 10 n ++ rest)) =
        some (⟨true, Nat.toDigits 10 n, none, none⟩, rest) := by
  have hwhole := readWhole?_toDigits n h
  have hfraction := readFraction?_of_stops h
  have hexponent := readLiteralExponent?_of_stops h
  obtain ⟨d, digits, heq, hd, -⟩ := exists_toDigits_eq n
  have hunsigned : ∀ after, Nat.toDigits 10 n ++ rest ≠ '-' :: after := by
    intro after htext
    rw [heq, List.cons_append, List.cons.injEq] at htext
    rw [htext.1] at hd
    cases hd
  constructor
  · rw [readLiteral?]
    · simp [hwhole, hfraction, hexponent]
    · exact hunsigned
  · simp [readLiteral?, hwhole, hfraction, hexponent]

end Literals

/-- The text of an integer: its digits, and a minus sign in front of those of a negative one. -/
theorem toList_write_int (i : Int) (fits : FitsWord i) :
    (Number.int i fits).write.toList =
      if i < 0 then '-' :: Nat.toDigits 10 i.natAbs else Nat.toDigits 10 i.natAbs := by
  change (toString i).toList = _
  rw [Int.toString_eq_repr, Int.repr_eq_if]
  by_cases hneg : i < 0
  · have hnat : (-i).toNat = i.natAbs := by omega
    rw [if_neg (by omega), if_pos hneg, String.toList_append, hnat, Nat.toList_repr]
    rfl
  · have hnat : i.toNat = i.natAbs := by omega
    rw [if_pos (by omega), if_neg hneg, hnat, Nat.toList_repr]

theorem ofInt?_of_fits {i : Int} (fits : FitsWord i) : Number.ofInt? i = some (.int i fits) :=
  dif_pos fits

/-- The digits of a number denote it, unless it is minus zero. -/
theorem value?_toDigits (negative : Bool) {n : Nat} {i : Int} (fits : FitsWord i)
    (hi : (if negative then -(n : Int) else n) = i) (hzero : ¬ (negative && n == 0) = true) :
    Literal.value? ⟨negative, Nat.toDigits 10 n, none, none⟩ = some (.int i fits) := by
  unfold Literal.value?
  simp only [ofDigits_toDigits, Option.isSome_none, Bool.false_or]
  rw [if_neg hzero, hi, ofInt?_of_fits fits]
  rfl

/-- **Integers are read back.** -/
theorem readLiteral?_write (i : Int) (fits : FitsWord i) {rest : List Char} (h : Stops rest) :
    ∃ l, readLiteral? ((Number.int i fits).write.toList ++ rest) = some (l, rest) ∧
      l.value? = some (.int i fits) := by
  obtain ⟨hplain, hsigned⟩ := readLiteral?_toDigits i.natAbs h
  rw [toList_write_int]
  by_cases hneg : i < 0
  · have hi : -(i.natAbs : Int) = i := by omega
    have hzero : i.natAbs ≠ 0 := by omega
    refine ⟨_, ?_, value?_toDigits true fits hi (by simpa using hzero)⟩
    rw [if_pos hneg]
    exact hsigned
  · have hi : (i.natAbs : Int) = i := by omega
    refine ⟨_, ?_, value?_toDigits false fits hi Bool.false_ne_true⟩
    rw [if_neg hneg]
    exact hplain

/-! ### Legible values -/

/-- Values without doubles whose arrays and objects nest at most `n` deep and repeat no key. -/
inductive Legible : Nat → Json → Prop where
  | null {n : Nat} : Legible n .null
  | bool {n : Nat} (b : Bool) : Legible n (.bool b)
  | int {n : Nat} (i : Int) (fits : FitsWord i) : Legible n (.number (.int i fits))
  | string {n : Nat} (s : String) : Legible n (.string s)
  | array {n : Nat} {items : List Json} : (∀ v ∈ items, Legible n v) → Legible (n + 1) (.array items)
  | object {n : Nat} {fields : Dict Json} : Dict.KeysNodup fields → (∀ e ∈ fields, Legible n e.2) →
      Legible (n + 1) (.object fields)

/-! ### Where the text of a value starts -/

/-- The first characters of words, strings, arrays, objects and negative numbers. -/
def initials : List Char := ['n', 't', 'f', '"', '[', '\x7b', '-']

/-- A character that the text of a value may start with. -/
def Starts (c : Char) : Prop := c ∈ initials ∨ Decimal.isDigit c = true

theorem Starts.ne {c d : Char} (h : Starts c) (hd : d ∉ initials ∧ Decimal.isDigit d = false) :
    c ≠ d := by
  rintro rfl
  rcases h with h | h
  · exact hd.1 h
  · exact Bool.false_ne_true (hd.2.symm.trans h)

theorem Starts.isSpace_eq {c : Char} (h : Starts c) : isSpace c = false := by
  have hblank : c ≠ ' ' := h.ne (by decide)
  have htab : c ≠ '\t' := h.ne (by decide)
  have hline : c ≠ '\n' := h.ne (by decide)
  have hreturn : c ≠ '\r' := h.ne (by decide)
  simp [isSpace, hblank, htab, hline, hreturn]

/-- A text that starts as the text of a value may start. -/
def Begins (text : List Char) : Prop := ∃ c more, text = c :: more ∧ Starts c

theorem Begins.cons {c : Char} (h : c ∈ initials) (more : List Char) : Begins (c :: more) :=
  ⟨c, more, rfl, .inl h⟩

theorem Begins.append {text : List Char} (h : Begins text) (after : List Char) :
    Begins (text ++ after) := by
  obtain ⟨c, more, rfl, hc⟩ := h
  exact ⟨c, more ++ after, List.cons_append, hc⟩

theorem begins_write_int (i : Int) (fits : FitsWord i) : Begins (Number.int i fits).write.toList := by
  obtain ⟨d, digits, heq, hd, -⟩ := exists_toDigits_eq i.natAbs
  rw [toList_write_int]
  split
  · exact .cons (by decide) _
  · exact ⟨d, digits, heq, .inr hd⟩

theorem begins_render {n : Nat} {v : Json} (h : Legible n v) : Begins (render v) := by
  cases h with
  | null => exact .cons (by decide) _
  | bool b => cases b <;> exact .cons (by decide) _
  | int i fits => exact begins_write_int i fits
  | string s => exact .cons (by decide) _
  | array _ => exact .cons (by decide) _
  | object _ _ => exact .cons (by decide) _

theorem skipSpaces_cons {c : Char} (h : isSpace c = false) (text : List Char) :
    skipSpaces (c :: text) = c :: text :=
  List.dropWhile_cons_of_neg (Bool.eq_false_iff.mp h)

/-! ### Texts with commas between them -/

/-- Texts with commas between them, one after the other. -/
theorem joinWith_cons_cons_append (first second : List Char) (texts : List (List Char))
    (after : List Char) :
    Text.joinWith [','] (first :: second :: texts) ++ after =
      first ++ ',' :: (Text.joinWith [','] (second :: texts) ++ after) := by
  rw [Text.joinWith, List.intercalate_cons_cons, List.append_assoc, List.append_assoc,
    List.singleton_append, Text.joinWith]

theorem joinWith_singleton (text : List Char) : Text.joinWith [','] [text] = text :=
  List.intercalate_singleton

theorem Begins.joinWith {first : List Char} (h : Begins first) (texts : List (List Char)) :
    Begins (Text.joinWith [','] (first :: texts)) := by
  cases texts with
  | nil => rwa [joinWith_singleton]
  | cons second texts =>
      rw [← List.append_nil (Text.joinWith _ _), joinWith_cons_cons_append]
      exact h.append _

/-- There are no more texts than characters, one more character for the last. -/
theorem lt_length_joinWith (first : List Char) (texts : List (List Char)) (c : Char)
    (after : List Char) :
    texts.length < (Text.joinWith [','] (first :: texts) ++ c :: after).length := by
  induction texts generalizing first with
  | nil =>
      rw [joinWith_singleton, List.length_append, List.length_cons]
      exact Nat.zero_lt_of_lt (Nat.lt_add_left first.length (Nat.lt_succ_self after.length))
  | cons second texts ih =>
      have hle := ih second
      rw [joinWith_cons_cons_append, List.length_append, List.length_cons, List.length_cons]
      omega

/-! ### Arrays and objects -/

/-- A reader that reads a value back from its text, unless the text goes on with a number. -/
def Reads (reader : List Char → Option (Json × List Char)) (v : Json) : Prop :=
  ∀ rest, Stops rest → reader (render v ++ rest) = some (v, rest)

section Readers

variable {reader : List Char → Option (Json × List Char)}

/-- The elements of an array are read back one after the other. -/
theorem readItems?_render {v : Json} {items : List Json} (h : ∀ w ∈ v :: items, Reads reader w)
    {fuel : Nat} (hfuel : items.length < fuel) (rest : List Char) :
    readItems? reader fuel (Text.joinWith [','] (renderItems (v :: items)) ++ ']' :: rest) =
      some (v :: items, rest) := by
  induction items generalizing v fuel with
  | nil =>
      obtain ⟨fuel, rfl⟩ := Nat.exists_eq_succ_of_ne_zero (Nat.ne_of_gt hfuel)
      have hv := h v List.mem_cons_self (']' :: rest) (.cons (by decide))
      rw [renderItems, renderItems, joinWith_singleton, readItems?, hv]
      rfl
  | cons w items ih =>
      obtain ⟨fuel, rfl⟩ := Nat.exists_eq_succ_of_ne_zero (Nat.ne_of_gt (Nat.zero_lt_of_lt hfuel))
      have hothers := ih (fun u hu => h u (List.mem_cons_of_mem v hu)) (Nat.lt_of_succ_lt_succ hfuel)
      have hv := fun text => h v List.mem_cons_self (',' :: text) (.cons (by decide))
      rw [renderItems] at hothers
      rw [renderItems, renderItems, joinWith_cons_cons_append, readItems?, hv]
      simp only [skipSpaces_cons (c := ',') (by decide), hothers, Option.map_some]

/-- An entry is read back in front of others. -/
theorem readEntries?_more {key : String} {v : Json} {rest : List Char} {fuel : Nat}
    (hv : reader (render v ++ ',' :: rest) = some (v, ',' :: rest)) :
    readEntries? reader (fuel + 1) (quote key ++ ':' :: render v ++ ',' :: rest) =
      (readEntries? reader fuel rest).map fun (es, rest) => ((key, v) :: es, rest) := by
  have hkey : ∀ text, readString? (key.toList.flatMap escape ++ '"' :: text) =
      some (key.toList, text) := readString?_quote key.toList
  rw [readEntries?, quote]
  simp only [List.cons_append, List.append_assoc, List.nil_append,
    skipSpaces_cons (c := '"') (by decide), hkey, skipSpaces_cons (c := ':') (by decide), hv,
    skipSpaces_cons (c := ',') (by decide), String.ofList_toList]

/-- The last entry is read back in front of the closing bracket. -/
theorem readEntries?_last {key : String} {v : Json} {rest : List Char} {fuel : Nat}
    (hv : reader (render v ++ '\x7d' :: rest) = some (v, '\x7d' :: rest)) :
    readEntries? reader (fuel + 1) (quote key ++ ':' :: render v ++ '\x7d' :: rest) =
      some ([(key, v)], rest) := by
  have hkey : ∀ text, readString? (key.toList.flatMap escape ++ '"' :: text) =
      some (key.toList, text) := readString?_quote key.toList
  rw [readEntries?, quote]
  simp only [List.cons_append, List.append_assoc, List.nil_append,
    skipSpaces_cons (c := '"') (by decide), hkey, skipSpaces_cons (c := ':') (by decide), hv,
    skipSpaces_cons (c := '\x7d') (by decide), String.ofList_toList]

/-- The entries of an object are read back one after the other. -/
theorem readEntries?_render {e : String × Json} {fields : Dict Json}
    (h : ∀ u ∈ e :: fields, Reads reader u.2) {fuel : Nat} (hfuel : fields.length < fuel)
    (rest : List Char) :
    readEntries? reader fuel (Text.joinWith [','] (renderFields (e :: fields)) ++ '\x7d' :: rest) =
      some (e :: fields, rest) := by
  induction fields generalizing e fuel with
  | nil =>
      obtain ⟨fuel, rfl⟩ := Nat.exists_eq_succ_of_ne_zero (Nat.ne_of_gt hfuel)
      have hv := h e List.mem_cons_self ('\x7d' :: rest) (.cons (by decide))
      rw [renderFields, renderFields, joinWith_singleton, readEntries?_last hv]
  | cons e' fields ih =>
      obtain ⟨fuel, rfl⟩ := Nat.exists_eq_succ_of_ne_zero (Nat.ne_of_gt (Nat.zero_lt_of_lt hfuel))
      have hothers := ih (fun u hu => h u (List.mem_cons_of_mem e hu)) (Nat.lt_of_succ_lt_succ hfuel)
      have hv := fun text => h e List.mem_cons_self (',' :: text) (.cons (by decide))
      rw [renderFields] at hothers
      rw [renderFields, renderFields, joinWith_cons_cons_append, readEntries?_more (hv _), hothers,
        Option.map_some]

end Readers

/-! ### Values -/

/-- What a text denotes that starts with the bracket of an array or an object. -/
theorem readValue?_bracket {n : Nat} {text : List Char} (h : Begins text) :
    readValue? (n + 1) ('[' :: text) =
        ((readItems? (readValue? n) text.length text).map fun (vs, rest) => (array vs, rest)) ∧
      readValue? (n + 1) ('\x7b' :: text) =
        ((readEntries? (readValue? n) text.length text).map fun (es, rest) =>
          (object (Dict.ofPairs es), rest)) := by
  obtain ⟨c, more, rfl, hc⟩ := h
  have hskip := skipSpaces_cons hc.isSpace_eq more
  have hbracket : c ≠ ']' := hc.ne (by decide)
  have hbrace : c ≠ '\x7d' := hc.ne (by decide)
  constructor
  · unfold readValue?
    rw [skipSpaces_cons (by decide)]
    simp [hskip, hbracket]
  · unfold readValue?
    rw [skipSpaces_cons (by decide)]
    simp [hskip, hbrace]

/-- A text that starts with a minus sign or a digit is read as a number. -/
theorem readValue?_literal {n : Nat} {c : Char} {text rest : List Char} {l : Literal} {i : Number}
    (hc : c = '-' ∨ Decimal.isDigit c = true) (hread : readLiteral? (c :: text) = some (l, rest))
    (hvalue : l.value? = some i) : readValue? n (c :: text) = some (.number i, rest) := by
  have hspace : isSpace c = false := Starts.isSpace_eq (hc.imp (fun h => by simp [h, initials]) id)
  have hother : ∀ d, Decimal.isDigit d = false ∧ d ≠ '-' → c ≠ d := by
    rintro d ⟨hdigit, hminus⟩ rfl
    rcases hc with hc | hc
    · exact hminus hc
    · exact Bool.false_ne_true (hdigit.symm.trans hc)
  unfold readValue?
  rw [skipSpaces_cons hspace]
  split
  case h_7 =>
    rw [hread]
    exact Option.map_eq_some_iff.mpr ⟨i, hvalue, rfl⟩
  -- The text starts neither a word nor a string, an array or an object.
  all_goals
    next heq => exact absurd (List.cons.inj heq).1 (hother _ (by decide))

theorem reads_int (n : Nat) (i : Int) (fits : FitsWord i) :
    Reads (readValue? n) (.number (.int i fits)) := by
  intro rest hrest
  obtain ⟨l, hread, hvalue⟩ := readLiteral?_write i fits hrest
  obtain ⟨d, digits, heq, hd, -⟩ := exists_toDigits_eq i.natAbs
  rw [render]
  rw [toList_write_int] at hread ⊢
  split at hread
  · next hneg =>
    rw [if_pos hneg]
    exact readValue?_literal (.inl rfl) hread hvalue
  · next hneg =>
    rw [if_neg hneg]
    rw [heq] at hread ⊢
    exact readValue?_literal (.inr hd) hread hvalue

/-- **Values are read back**, whatever follows their text. -/
theorem readValue?_render {n : Nat} {v : Json} (h : Legible n v) : Reads (readValue? n) v := by
  induction h with
  | null => exact fun rest _ => by unfold readValue?; rfl
  | bool b => cases b <;> exact fun rest _ => by unfold readValue?; rfl
  | int i fits => exact reads_int _ i fits
  | string s =>
      intro rest _
      unfold readValue?
      rw [render, quote, List.cons_append, List.cons_append, List.append_assoc,
        skipSpaces_cons (by decide)]
      simp only [List.singleton_append, readString?_quote, Option.map_some, String.ofList_toList]
  | @array n items h ih =>
      intro rest _
      cases items with
      | nil =>
          unfold readValue?
          rfl
      | cons v items =>
          have hbegins : Begins (Text.joinWith [','] (renderItems (v :: items)) ++ ']' :: rest) :=
            ((begins_render (h v List.mem_cons_self)).joinWith _).append _
          have hfuel : items.length <
              (Text.joinWith [','] (renderItems (v :: items)) ++ ']' :: rest).length := by
            have hlt := lt_length_joinWith (render v) (renderItems items) ']' rest
            rwa [renderItems_eq, List.length_map, ← renderItems_eq] at hlt
          rw [render, List.cons_append, List.append_assoc, List.singleton_append,
            (readValue?_bracket hbegins).1, readItems?_render ih hfuel]
          rfl
  | @object n fields hnodup h ih =>
      intro rest _
      cases fields with
      | nil =>
          unfold readValue?
          rfl
      | cons e fields =>
          have hfirst : Begins (quote e.1 ++ ':' :: render e.2) := (Begins.cons (by decide) _).append _
          have hbegins : Begins (Text.joinWith [','] (renderFields (e :: fields)) ++ '\x7d' :: rest) :=
            (hfirst.joinWith _).append _
          have hfuel : fields.length <
              (Text.joinWith [','] (renderFields (e :: fields)) ++ '\x7d' :: rest).length := by
            have hlt := lt_length_joinWith (quote e.1 ++ ':' :: render e.2) (renderFields fields)
              '\x7d' rest
            rwa [renderFields_eq, List.length_map, ← renderFields_eq] at hlt
          rw [render, List.cons_append, List.append_assoc, List.singleton_append,
            (readValue?_bracket hbegins).2, readEntries?_render ih hfuel]
          simp only [Option.map_some, Dict.ofPairs_eq_self hnodup]

/-- **The text of a legible value denotes the value.** -/
theorem parseChars?_render {v : Json} (h : Legible maxNesting v) : parseChars? (render v) = some v := by
  have hread := readValue?_render h [] .nil
  rw [List.append_nil] at hread
  rw [parseChars?, hread]
  rfl

end JsonExpr.Json
