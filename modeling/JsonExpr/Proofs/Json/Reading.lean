import JsonExpr.Json.Parser
import JsonExpr.Proofs.Json.Room

/-!
# What is read is no larger than the text

A reader takes every character that it returns from the text, several of them for an escaped one,
and at least one for every value and two for every key.  So the text that a value was read from has
room for it.  Shorthand rests on this: its arguments are read from parts of a call string, so that
calls in them are shorter, and all arguments together do not hold more values than the call string
has characters.

Main definitions:

* `JsonExpr.Json.TakesRoom` — readers that take as much text as their values need.

Main results:

* `JsonExpr.Json.length_of_readString?` — the characters of a string and what follows it;
* `JsonExpr.Json.room_of_parseChars?` — **a text has room for the value that is read from it**.
-/

set_option autoImplicit false

namespace JsonExpr.Json

theorem length_skipSpaces_le (text : List Char) : (skipSpaces text).length ≤ text.length :=
  (List.dropWhile_suffix isSpace).length_le

/-! ### Strings -/

/-- A character in front of what was read costs at least one character of the text. -/
theorem length_of_andThen {c : Char} {r : Option (List Char × List Char)} {n : Nat}
    {read rest : List Char}
    (hr : ∀ read rest, r = some (read, rest) → read.length + rest.length ≤ n)
    (h : andThen c r = some (read, rest)) : read.length + rest.length ≤ n + 1 := by
  obtain ⟨⟨read', rest'⟩, hrec, heq⟩ := Option.map_eq_some_iff.mp h
  cases heq
  have hle := hr read' rest hrec
  rw [List.length_cons]
  omega

/-- The characters of a string and the text after it come from different places of the text. -/
theorem length_of_readString? {text read rest : List Char}
    (h : readString? text = some (read, rest)) : read.length + rest.length ≤ text.length := by
  fun_induction readString? text generalizing read rest
  case case2 =>
    cases h
    simp
  -- One character was read, and the others by the recursive call.
  case case5 ih | case8 ih | case11 ih | case13 ih | case15 ih =>
    have hle := length_of_andThen (fun _ _ => ih) h
    simp only [List.length_cons] at hle ⊢
    omega
  all_goals cases h

/-! ### Values -/

/-- A reader that takes as much text for a value as the value needs. -/
def TakesRoom (reader : List Char → Option (Json × List Char)) : Prop :=
  ∀ text v rest, reader text = some (v, rest) → room v + rest.length ≤ text.length

section Readers

variable {reader : List Char → Option (Json × List Char)}

/-- Elements and a closing bracket. -/
theorem room_of_readItems? (hreader : TakesRoom reader) {fuel : Nat} {text rest : List Char}
    {items : List Json} (h : readItems? reader fuel text = some (items, rest)) :
    (items.map room).sum + rest.length < text.length := by
  induction fuel generalizing text items with
  | zero => cases h
  | succ fuel ih =>
      rw [readItems?] at h
      split at h
      · cases h
      next v after hfirst =>
      have hv := hreader text v after hfirst
      have hskip := length_skipSpaces_le after
      split at h
      · next more hmore =>
        obtain ⟨⟨others, rest'⟩, hothers, heq⟩ := Option.map_eq_some_iff.mp h
        cases heq
        have hitems := ih hothers
        rw [hmore, List.length_cons] at hskip
        rw [List.map_cons, List.sum_cons]
        omega
      · next more hmore =>
        cases h
        rw [hmore, List.length_cons] at hskip
        rw [List.map_singleton, List.sum_singleton]
        omega
      · cases h

/-- Entries, each with a key and a colon, and a closing bracket. -/
theorem room_of_readEntries? (hreader : TakesRoom reader) {fuel : Nat} {text rest : List Char}
    {entries : List (String × Json)} (h : readEntries? reader fuel text = some (entries, rest)) :
    (entries.map fun e => room e.2 + 2).sum + rest.length < text.length := by
  induction fuel generalizing text entries with
  | zero => cases h
  | succ fuel ih =>
      rw [readEntries?] at h
      have hfront := length_skipSpaces_le text
      split at h
      case h_2 => cases h
      next quoted hquoted =>
      split at h
      · cases h
      next key named hkey =>
      have hname := length_of_readString? hkey
      have hskipName := length_skipSpaces_le named
      split at h
      case h_2 => cases h
      next valued hvalued =>
      split at h
      · cases h
      next v after hfirst =>
      have hv := hreader valued v after hfirst
      have hskip := length_skipSpaces_le after
      rw [hquoted, List.length_cons] at hfront
      rw [hvalued, List.length_cons] at hskipName
      dsimp only at h
      split at h
      · next more hmore =>
        obtain ⟨⟨others, rest'⟩, hothers, heq⟩ := Option.map_eq_some_iff.mp h
        cases heq
        have hentries := ih hothers
        rw [hmore, List.length_cons] at hskip
        rw [List.map_cons, List.sum_cons]
        dsimp only at hentries ⊢
        omega
      · next more hmore =>
        cases h
        rw [hmore, List.length_cons] at hskip
        rw [List.map_singleton, List.sum_singleton]
        dsimp only
        omega
      · cases h

end Readers

/-! ### Numbers -/

theorem length_dropDigits_le (text : List Char) :
    (text.dropWhile Decimal.isDigit).length ≤ text.length :=
  (List.dropWhile_suffix Decimal.isDigit).length_le

/-- There is at least one digit. -/
theorem length_of_readWhole? {text digits rest : List Char}
    (h : readWhole? text = some (digits, rest)) : rest.length < text.length := by
  unfold readWhole? at h
  split at h
  · cases h
    simp
  · dsimp only at h
    split at h
    · cases h
    · next hdigits =>
      cases h
      have hpos : 0 < (text.takeWhile Decimal.isDigit).length := by
        rw [List.length_pos_iff, ne_eq, ← List.isEmpty_iff]
        exact hdigits
      have hsplit := congrArg List.length
        (List.takeWhile_append_dropWhile (p := Decimal.isDigit) (l := text))
      rw [List.length_append] at hsplit
      omega

theorem length_of_readFraction? {text rest : List Char} {digits : Option (List Char)}
    (h : readFraction? text = some (digits, rest)) : rest.length ≤ text.length := by
  unfold readFraction? at h
  split at h
  · next after =>
    dsimp only at h
    split at h
    · cases h
    · cases h
      have hle := length_dropDigits_le after
      rw [List.length_cons]
      omega
  · cases h
    exact Nat.le_refl _

theorem length_splitSign_le (text : List Char) :
    (Decimal.splitSign text).2.length ≤ text.length := by
  unfold Decimal.splitSign
  split <;> simp

theorem length_of_readLiteralExponent? {text rest : List Char} {e : Option Int}
    (h : readLiteralExponent? text = some (e, rest)) : rest.length ≤ text.length := by
  unfold readLiteralExponent? at h
  split at h
  · cases h
    exact Nat.le_refl _
  · next c after =>
    split at h
    · have hsign := length_splitSign_le after
      dsimp only at h
      split at h
      · cases h
      · cases h
        have hle := length_dropDigits_le (Decimal.splitSign after).2
        rw [List.length_cons]
        omega
    · cases h
      exact Nat.le_refl _

theorem length_of_readLiteral? {text rest : List Char} {l : Literal}
    (h : readLiteral? text = some (l, rest)) : rest.length < text.length := by
  unfold readLiteral? at h
  simp only [Option.bind_eq_bind, Option.pure_def, Option.bind_eq_some_iff, Prod.exists] at h
  obtain ⟨whole, afterWhole, hwhole, fraction, afterFraction, hfraction, exponent, afterExponent,
    hexponent, heq⟩ := h
  cases heq
  have hunsigned : afterWhole.length < text.length := by
    have hlt := length_of_readWhole? hwhole
    split at hlt
    · exact Nat.lt_succ_of_lt hlt
    · exact hlt
  have hafterFraction := length_of_readFraction? hfraction
  have hafterExponent := length_of_readLiteralExponent? hexponent
  omega

/-! ### Whole texts -/

theorem readValue?_takesRoom (depth : Nat) : TakesRoom (readValue? depth) := by
  induction depth using Nat.strongRecOn with
  | ind depth ih =>
    intro text v rest h
    have hfront := length_skipSpaces_le text
    unfold readValue? at h
    split at h
    case h_1 hword | h_2 hword | h_3 hword =>
      cases h
      simp only [hword, List.length_cons] at hfront
      simp only [room_null, room_bool]
      omega
    case h_4 quoted hquoted =>
      obtain ⟨⟨read, after⟩, hread, heq⟩ := Option.map_eq_some_iff.mp h
      cases heq
      have hle := length_of_readString? hread
      simp only [hquoted, List.length_cons] at hfront
      rw [room_string, String.toList_ofList]
      omega
    case h_5 inner hinner =>
      cases depth with
      | zero => cases h
      | succ depth =>
          have hskip := length_skipSpaces_le inner
          simp only [hinner, List.length_cons] at hfront
          dsimp only at h
          split at h
          · next after hafter =>
            cases h
            simp only [hafter, List.length_cons] at hskip
            rw [room_array, List.map_nil, List.sum_nil]
            omega
          · obtain ⟨⟨items, after⟩, hitems, heq⟩ := Option.map_eq_some_iff.mp h
            cases heq
            have hroom := room_of_readItems? (ih depth (Nat.lt_succ_self depth)) hitems
            rw [room_array]
            dsimp only
            omega
    case h_6 inner hinner =>
      cases depth with
      | zero => cases h
      | succ depth =>
          have hskip := length_skipSpaces_le inner
          simp only [hinner, List.length_cons] at hfront
          dsimp only at h
          split at h
          · next after hafter =>
            cases h
            simp only [hafter, List.length_cons] at hskip
            rw [room_object, List.map_nil, List.sum_nil]
            omega
          · obtain ⟨⟨entries, after⟩, hentries, heq⟩ := Option.map_eq_some_iff.mp h
            cases heq
            have hroom := room_of_readEntries? (ih depth (Nat.lt_succ_self depth)) hentries
            have hleft := room_ofPairs_le entries
            dsimp only
            omega
    case h_7 =>
      split at h
      · cases h
      next l after hliteral =>
      obtain ⟨n, -, heq⟩ := Option.map_eq_some_iff.mp h
      cases heq
      have hlt := length_of_readLiteral? hliteral
      rw [room_number]
      omega

/-- **A text that a value was read from has room for it.** -/
theorem room_of_parseChars? {text : List Char} {v : Json} (h : parseChars? text = some v) :
    room v ≤ text.length := by
  unfold parseChars? at h
  split at h
  · next rest hread =>
    split at h
    · cases h
      have hle := readValue?_takesRoom maxNesting text v rest hread
      omega
    · cases h
  · cases h

end JsonExpr.Json
