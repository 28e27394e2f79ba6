import JsonExpr.Json.Basic
import JsonExpr.Text.Blank
import JsonExpr.Text.Pieces

/-!
# Property paths

A path such as `user.addresses[0].city` leads from a value to a part of it.  A key applied to an
array leads to the same key of every element, so `users.name` is the array of all names.

Main definitions:

* `JsonExpr.Path.Segment` — a step by key or by index;
* `JsonExpr.Path.segments` — the steps that a path spells;
* `JsonExpr.Path.follow?` — a list of steps taken from a value;
* `JsonExpr.Path.extract?` — the part of a value at a path;
* `JsonExpr.Path.simplify` — an object with a single key reduced to its value.
-/

set_option autoImplicit false

namespace JsonExpr.Path

/-- One step of a path. -/
inductive Segment where
  /-- To a key of an object, or of every element of an array. -/
  | key (name : String)
  /-- To an element of an array. -/
  | index (position : Nat)
  deriving DecidableEq, Repr

/-! ### Reading a path -/

/-- Whether `c` is a quotation mark. -/
def isQuote (c : Char) : Bool := c == '"' || c == '\''

/-- The step that the text between two brackets spells: an index if it reads as a natural number,
and a key, possibly in quotes, otherwise. -/
def bracketed (inner : List Char) : Segment :=
  let trimmed := Text.trim inner
  match Decimal.readNatural? trimmed with
  | some n => .index n
  | none => .key (String.ofList (Text.dropRight isQuote (Text.dropLeft isQuote trimmed)))

/-- The text up to the first occurrence of `stop`, and the text after it. -/
def cutAt (stop : Char) : List Char → Option (List Char × List Char)
  | [] => none
  | c :: rest =>
    if c = stop then some ([], rest) else (cutAt stop rest).map fun (before, after) =>
      (c :: before, after)

/-- What stands after the cut is shorter than the text. -/
theorem length_of_cutAt {stop : Char} {text before after : List Char}
    (h : cutAt stop text = some (before, after)) : after.length < text.length := by
  induction text generalizing before with
  | nil => simp [cutAt] at h
  | cons c rest ih =>
    simp only [cutAt] at h
    split at h
    · simp at h; simp [h]
    · obtain ⟨⟨b, a⟩, hb, he⟩ := Option.map_eq_some_iff.1 h
      simp at he
      obtain ⟨-, rfl⟩ := he
      exact Nat.lt_succ_of_lt (ih hb)

/-- The steps of a row of bracketed parts.  An unclosed bracket is a key, bracket and all; what
stands between the parts is passed over. -/
def bracketSegments (text : List Char) : List Segment :=
  match text with
  | '[' :: rest =>
    match _h : cutAt ']' rest with
    | none => [.key (String.ofList ('[' :: rest))]
    | some (inner, after) => bracketed inner :: bracketSegments after
  | _ => []
termination_by text.length
decreasing_by
  exact Nat.lt_succ_of_lt (length_of_cutAt _h)

/-- The steps of a part of a path between two points: a key, unless it is empty, then bracketed
parts. -/
def partSegments (part : List Char) : List Segment :=
  let name := part.takeWhile (· != '[')
  let rest := bracketSegments (part.dropWhile (· != '['))
  if name.isEmpty then rest else .key (String.ofList name) :: rest

/-- The steps that a path spells. -/
def segments (path : String) : List Segment :=
  (Text.splitOn '.' [] path.toList).flatMap partSegments

/-! ### Following a path -/

mutual

/-- The value at a key.  An array is led through element by element, unless the key reads as an
index. -/
def atKey? (name : String) : Json → Option Json
  | .object fields => Dict.get? fields name
  | .array items =>
    match Decimal.readNatural? name.toList with
    | some n => items[n]?
    | none => (atKeyOfAll? name items).map Json.array
  | _ => none

/-- The values at a key of every element, if every element has one. -/
def atKeyOfAll? (name : String) : List Json → Option (List Json)
  | [] => some []
  | v :: rest =>
    match atKey? name v with
    | none => none
    | some found => (atKeyOfAll? name rest).map (found :: ·)

end

/-- One step from a value. -/
def step? (v : Json) : Segment → Option Json
  | .key name => atKey? name v
  | .index n => match v with
    | .array items => items[n]?
    | _ => none

/-- Several steps from a value. -/
def follow? (v : Json) : List Segment → Option Json
  | [] => some v
  | s :: rest => (step? v s).bind fun next => follow? next rest

/-- The part of a value at a path; the empty path leads to the value itself. -/
def extract? (v : Json) (path : String) : Option Json :=
  if path = "" then some v else follow? v (segments path)

/-! ### Simplifying what was found -/

/-- An object with a single key reduced to its value. -/
def simplify : Json → Json
  | .object [(_, v)] => v
  | v => v

/-- The part of a value at a path that may be absent, simplified: arrays element by element, and the
part itself only if a path was given. -/
def extractSimplified? (v : Json) (path : Option String) : Option Json :=
  match path.filter (· != "") with
  | none =>
    match v with
    | .array items => some (.array (items.map simplify))
    | v => some v
  | some path => (extract? v path).map fun
    | .array items => .array (items.map simplify)
    | found => simplify found

end JsonExpr.Path
