import JsonExpr.Coercion
import JsonExpr.Path

/-!
# Filling templates

A template holds places for values: a marker with a number for a value of a list, or a path in
double braces for a part of an object.  Every place is filled once, from left to right, and what was
filled in is not looked at again.

A number may have texts of its own, chosen by a table: for a particular value, above or below a
limit, or any other.

Main definitions:

* `JsonExpr.Substitution.mapNumber?` — the text that a table has for a number;
* `JsonExpr.Substitution.Style.render` — a value as text;
* `JsonExpr.Substitution.positional`, `JsonExpr.Substitution.named` — the two kinds of template.
-/

set_option autoImplicit false

namespace JsonExpr.Substitution

/-! ### Numbers with texts of their own -/

/-- The first entry whose key is `sign` with a limit that satisfies `p`. -/
def threshold? (sign : Char) (p : Float → Bool) : Dict Json → Option Json
  | [] => none
  | (key, text) :: rest =>
    let limit := match key.toList with
      | c :: digits => if c = sign then Decimal.readFloat? (Text.trim digits) else none
      | [] => none
    match limit with
    | some limit => if p limit then some text else threshold? sign p rest
    | none => threshold? sign p rest

/-- The text that a table has for a number, written as `shown`: the entry of the number itself, of a
limit below or above it, or of all others.  Braces in the entry stand for the number. -/
def mapNumber? (n : Float) (shown : String) (table : Dict Json) : Option String :=
  let entry := (Dict.get? table shown).or ((threshold? '>' (fun limit => limit < n) table).or
    ((threshold? '<' (fun limit => n < limit) table).or (Dict.get? table "other")))
  entry.map fun text =>
    String.ofList (Text.replaceAll '\x7b' ['\x7d'] shown.toList text.display.toList)

/-! ### Values as text -/

/-- How values are filled in. -/
structure Style where
  /-- Whether white space at the ends of a value is left out. -/
  trims : Bool
  /-- Tables of texts for numbers, by the name of the place. -/
  numberTables : Option (Dict Json)

/-- The table for the place `key`. -/
def Style.table? (style : Style) (key : String) : Option (Dict Json) :=
  (style.numberTables.bind fun tables => Dict.get? tables key).bind Json.asObject?

/-- The text for the place `key`; a value that is not there leaves nothing. -/
def Style.render (style : Style) (key : String) (v : Option Json) : String :=
  match v with
  | none => ""
  | some v =>
    let mapped := match v, style.table? key with
      | .number n, some table => mapNumber? n.toFloat v.toText table
      | _, _ => none
    mapped.getD (if style.trims then Text.trimString v.display else v.display)

/-! ### Places by number -/

/-- The text for the place with the given digits, `shown` in the template; a number that is too
great or written in other digits leaves the place as it is. -/
def fillNumbered (style : Style) (values : List Json) (shown digits : List Char) : List Char :=
  match Decimal.readNatural? digits with
  | none => shown
  | some n =>
    let v := if n = 0 then none else values[n - 1]?
    (style.render (toString n) v).toList

/-- The digits of the place a text starts with, and the text behind it. -/
def numberedAt? (marker text : List Char) : Option (List Char × List Char) :=
  match Text.after? marker text with
  | none => none
  | some rest =>
    let digits := rest.takeWhile Text.isDecimalDigit
    if digits.isEmpty then none else some (digits, rest.drop digits.length)

/-- What stands behind a numbered place is shorter than the text. -/
theorem length_of_numberedAt? {marker text digits after : List Char}
    (h : numberedAt? marker text = some (digits, after)) : after.length < text.length := by
  unfold numberedAt? at h
  split at h
  · simp at h
  · rename_i rest hrest
    simp only [] at h
    split at h
    · simp at h
    · rename_i hd
      simp only [Option.some.injEq, Prod.mk.injEq] at h
      obtain ⟨rfl, rfl⟩ := h
      have hle := congrArg List.length (Text.append_of_after? hrest)
      have hpos : 0 < (rest.takeWhile Text.isDecimalDigit).length := by
        cases hc : rest.takeWhile Text.isDecimalDigit with
        | nil => simp [hc] at hd
        | cons => simp
      have hsub : (rest.takeWhile Text.isDecimalDigit).length ≤ rest.length :=
        (List.takeWhile_prefix _).length_le
      simp only [List.length_append, List.length_drop] at *
      omega

/-- A template with numbered places, filled. -/
def positional (style : Style) (values : List Json) (marker template : List Char) : List Char :=
  match template with
  | [] => []
  | c :: rest =>
    match _h : numberedAt? marker (c :: rest) with
    | some (digits, after) =>
      fillNumbered style values (marker ++ digits) digits ++ positional style values marker after
    | none => c :: positional style values marker rest
termination_by template.length
decreasing_by
  · exact length_of_numberedAt? _h
  · simp

/-! ### Places by path -/

/-- Whether `c` is a brace. -/
def isBrace (c : Char) : Bool := c == '\x7b' || c == '\x7d'

/-- The path of the place a text starts with, and the text behind it. -/
def namedAt? : List Char → Option (List Char × List Char)
  | '\x7b' :: '\x7b' :: text =>
    let path := text.takeWhile fun c => !isBrace c
    match path, text.drop path.length with
    | _ :: _, '\x7d' :: '\x7d' :: after => some (path, after)
    | _, _ => none
  | _ => none

/-- What stands behind a named place is shorter than the text. -/
theorem length_of_namedAt? {text path after : List Char}
    (h : namedAt? text = some (path, after)) : after.length < text.length := by
  unfold namedAt? at h
  split at h
  · rename_i text
    simp only [] at h
    split at h
    · rename_i c cs after' hp hd
      simp only [Option.some.injEq, Prod.mk.injEq] at h
      obtain ⟨-, rfl⟩ := h
      have := congrArg List.length hd
      simp only [List.length_drop, List.length_cons] at this ⊢
      omega
    · simp at h
  · simp at h

/-- The text for the place with the given path. -/
def fillNamed (style : Style) (values : Dict Json) (path : List Char) : List Char :=
  let key := String.ofList (Text.trim path)
  (style.render key (Path.extract? (.object values) key)).toList

/-- A template with named places, filled. -/
def named (style : Style) (values : Dict Json) (template : List Char) : List Char :=
  match template with
  | [] => []
  | c :: rest =>
    match _h : namedAt? (c :: rest) with
    | some (path, after) => fillNamed style values path ++ named style values after
    | none => c :: named style values rest
termination_by template.length
decreasing_by
  · exact length_of_namedAt? _h
  · simp

/-- A template filled with values: an array fills numbered places, an object named ones, and
anything else leaves the template as it is. -/
def fill (style : Style) (marker template : String) : Option Json → String
  | some (.object values) => String.ofList (named style values template.toList)
  | some (.array values) => String.ofList (positional style values marker.toList template.toList)
  | _ => template

end JsonExpr.Substitution
