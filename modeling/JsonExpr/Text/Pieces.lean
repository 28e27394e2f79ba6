/-!
# Cutting and joining texts

Texts are cut at the occurrences of a delimiter, found from left to right without overlap, and put
together again with the delimiter between the pieces.

Main definitions:

* `JsonExpr.Text.after?` — what is left after a start;
* `JsonExpr.Text.splitOn` — the pieces between the occurrences of a delimiter;
* `JsonExpr.Text.joinWith` — pieces with a delimiter between them;
* `JsonExpr.Text.replaceAll` — every occurrence of a text replaced by another.
-/

set_option autoImplicit false

namespace JsonExpr.Text

/-- Puts a character in front of the first piece. -/
def consHead (c : Char) : List (List Char) → List (List Char)
  | [] => [[c]]
  | piece :: pieces => (c :: piece) :: pieces

/-- What is left of `text` after `start`, if the text starts with it. -/
def after? : List Char → List Char → Option (List Char)
  | [], text => some text
  | _ :: _, [] => none
  | d :: ds, c :: rest => if d = c then after? ds rest else none

/-- A text is what it starts with, followed by what is left. -/
theorem append_of_after? {start text rest : List Char} (h : after? start text = some rest) :
    start ++ rest = text := by
  induction start generalizing text with
  | nil => simpa [after?, eq_comm] using h
  | cons d ds ih =>
    cases text with
    | nil => simp [after?] at h
    | cons c text =>
      simp only [after?] at h
      split at h
      · rename_i hc
        rw [List.cons_append, ih h, hc]
      · simp at h

/-- What is left of a text after a non-empty start is shorter than the text. -/
theorem length_of_after? {start text rest : List Char} (hd : start ≠ [])
    (h : after? start text = some rest) : rest.length < text.length := by
  have := congrArg List.length (append_of_after? h)
  have := List.length_pos_iff.2 hd
  simp only [List.length_append] at *
  omega

/-- The pieces of `text` between the occurrences of the delimiter `d :: ds`; there is always at
least one, and it may be empty. -/
def splitOn (d : Char) (ds : List Char) (text : List Char) : List (List Char) :=
  match text with
  | [] => [[]]
  | c :: rest =>
    match _h : after? (d :: ds) (c :: rest) with
    | some left => [] :: splitOn d ds left
    | none => consHead c (splitOn d ds rest)
termination_by text.length
decreasing_by
  · exact length_of_after? (by simp) _h
  · simp

/-- The pieces with `delimiter` between them. -/
def joinWith (delimiter : List Char) (pieces : List (List Char)) : List Char :=
  delimiter.intercalate pieces

/-- Every occurrence of the text `d :: ds` replaced by `replacement`. -/
def replaceAll (d : Char) (ds : List Char) (replacement text : List Char) : List Char :=
  joinWith replacement (splitOn d ds text)

/-- Strings with `delimiter` between them. -/
def joinStrings (delimiter : String) (pieces : List String) : String :=
  delimiter.intercalate pieces

end JsonExpr.Text
