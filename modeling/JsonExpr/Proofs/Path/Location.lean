import JsonExpr.Proofs.Path.Composition
import JsonExpr.Proofs.Shorthand.Arguments

/-!
# Every part of a value has a path

Each part of a value is found at a location, the keys and positions that lead to it one after the
other.  Written as a path, with a point in front of each key and brackets around each position, the
location is read back step by step: a name ends where a point or a bracket comes next, and a bracket
closes behind its digits.  What is read back leads to the part, whether keys look like numbers or
not, since a key of an object is never taken for a position.

What cannot be written so are keys with a point or an opening bracket, and the empty key, for an
empty part of a path is no step.

Main definitions:

* `JsonExpr.Path.Located` — the parts of a value and their locations;
* `JsonExpr.Path.Segment.Plain` — steps that can be written;
* `JsonExpr.Path.pathTo` — a location as a path.

Main results:

* `JsonExpr.Path.segments_pathTo` — locations are read back from their paths;
* `JsonExpr.Path.every_location_has_a_path` — **every part of a value is found at the path to it**.
-/

set_option autoImplicit false

namespace JsonExpr.Path

/-! ### Locations -/

/-- A part of a value and the location at which it is found.  Positions are 64-bit words, as no
array has more elements. -/
inductive Located : Json → List Segment → Json → Prop where
  | here {v : Json} : Located v [] v
  | field {fields : Dict Json} {name : String} {v part : Json} {location : List Segment} :
      Dict.get? fields name = some v → Located v location part →
      Located (.object fields) (.key name :: location) part
  | item {items : List Json} {position : Nat} {v part : Json} {location : List Segment} :
      items[position]? = some v → position < Nat.pow 2 64 → Located v location part →
      Located (.array items) (.index position :: location) part

/-- A step by a plain key, or by any position. -/
def Segment.Plain : Segment → Prop
  | .key name => PlainKey name
  | .index _ => True

/-- A step as it is written behind what it leads on from. -/
def Segment.text : Segment → List Char
  | .key name => '.' :: name.toList
  | .index position => '[' :: (Nat.toDigits 10 position ++ [']'])

/-- The path to a location: a key in front is written without a point. -/
def pathTo : List Segment → String
  | .key name :: location => String.ofList (name.toList ++ location.flatMap Segment.text)
  | location => String.ofList (location.flatMap Segment.text)

/-- The steps of a location lead to the part that is there. -/
theorem Located.follow?_eq {v part : Json} {location : List Segment}
    (h : Located v location part) : follow? v location = some part := by
  induction h with
  | here => rfl
  | field hfield _ ih =>
      rw [follow?, step?, atKey?, hfield]
      exact ih
  | item hitem _ _ ih =>
      rw [follow?, step?, hitem]
      exact ih

theorem Located.lt_of_mem {v part : Json} {location : List Segment} (h : Located v location part) :
    ∀ position, .index position ∈ location → position < Nat.pow 2 64 := by
  induction h with
  | here => exact fun _ hmem => absurd hmem List.not_mem_nil
  | field _ _ ih =>
      intro position hmem
      rcases List.mem_cons.mp hmem with heq | hmem
      · cases heq
      · exact ih position hmem
  | item _ hlt _ ih =>
      intro position hmem
      rcases List.mem_cons.mp hmem with heq | hmem
      · cases heq
        exact hlt
      · exact ih position hmem

/-! ### Reading what was written -/

section Reading

variable {text part inner : List Char} {n : Nat}

/-- The text goes on with a step, or ends. -/
def GoesOn (text : List Char) : Prop := ∀ c ∈ text.head?, c = '.' ∨ c = '['

theorem goesOn_flatMap (location : List Segment) : GoesOn (location.flatMap Segment.text) := by
  cases location with
  | nil => exact fun _ hc => absurd hc (Option.not_mem_none _)
  | cons s location =>
      rw [List.flatMap_cons]
      cases s with
      | key name =>
          intro c hc
          exact .inl (Option.some.inj hc).symm
      | index position =>
          intro c hc
          exact .inr (Option.some.inj hc).symm

/-- The first part of what goes on with a step starts with a bracket, unless it is empty. -/
theorem exists_splitOn (h : GoesOn text) : ∃ part parts,
    Text.splitOn '.' [] text = part :: parts ∧ ∀ c ∈ part.head?, c = '[' := by
  cases text with
  | nil =>
      rw [Text.splitOn]
      exact ⟨[], [], rfl, fun _ hc => absurd hc (Option.not_mem_none _)⟩
  | cons c text =>
      rw [Text.splitOn_cons]
      by_cases hpoint : '.' = c
      · rw [if_pos hpoint]
        exact ⟨_, _, rfl, fun _ hc => absurd hc (Option.not_mem_none _)⟩
      · rw [if_neg hpoint]
        rcases h c rfl with rfl | rfl
        · exact absurd rfl hpoint
        · cases Text.splitOn '.' [] text with
          | nil => exact ⟨_, _, rfl, fun _ hc => (Option.some.inj hc).symm⟩
          | cons piece pieces => exact ⟨_, _, rfl, fun _ hc => (Option.some.inj hc).symm⟩

theorem partSegments_of_bracket (h : ∀ c ∈ part.head?, c = '[') :
    partSegments part = bracketSegments part := by
  have hname : '[' ∉ ([] : List Char) := List.not_mem_nil
  exact partSegments_append hname h

/-- A point in front makes no difference. -/
theorem segmentsOf_point (text : List Char) : segmentsOf ('.' :: text) = segmentsOf text := by
  have hpoint := segmentsOf_append_point [] text
  rwa [segmentsOf_nil] at hpoint

/-- A key ends where a step comes next. -/
theorem PlainKey.segmentsOf_append {key : String} (hkey : PlainKey key) (h : GoesOn text) :
    segmentsOf (key.toList ++ text) = .key key :: segmentsOf text := by
  obtain ⟨part, parts, hparts, hhead⟩ := exists_splitOn h
  rw [segmentsOf, segmentsOf, Text.splitOn_append hkey.no_point hparts, hparts, List.flatMap_cons,
    List.flatMap_cons, partSegments_append hkey.no_bracket hhead, partSegments_of_bracket hhead,
    List.isEmpty_eq_false_iff.mpr hkey.toList_ne_nil, String.ofList_toList]
  rfl

theorem cutAt_append {stop : Char} (h : stop ∉ inner) (after : List Char) :
    cutAt stop (inner ++ stop :: after) = some (inner, after) := by
  induction inner with
  | nil => rw [List.nil_append, cutAt, if_pos rfl]
  | cons c inner ih =>
      rw [List.mem_cons, not_or] at h
      rw [List.cons_append, cutAt, if_neg (Ne.symm h.1), ih h.2]
      rfl

theorem bracketSegments_bracket (h : ']' ∉ inner) (after : List Char) :
    bracketSegments ('[' :: (inner ++ ']' :: after)) =
      bracketed inner :: bracketSegments after := by
  rw [bracketSegments]
  split
  · next hnone =>
    rw [cutAt_append h] at hnone
    cases hnone
  · next hsome =>
    rw [cutAt_append h] at hsome
    cases hsome
    rfl

theorem bracketed_toDigits (h : n < Nat.pow 2 64) : bracketed (Nat.toDigits 10 n) = .index n := by
  have hblank : ∀ c ∈ Nat.toDigits 10 n, Text.isBlank c = false := fun c hc =>
    Shorthand.isBlank_of_isDigit (Json.isDigit_of_mem_toDigits hc)
  have htrim := (Shorthand.Trimmed.of_forall Nat.toDigits_ne_nil hblank).trim_eq
  rw [bracketed, htrim, Json.readNatural?_toDigits h]

/-- A position is read back from its digits in brackets. -/
theorem segmentsOf_position (hn : n < Nat.pow 2 64) (h : GoesOn text) :
    segmentsOf ('[' :: (Nat.toDigits 10 n ++ [']']) ++ text) = .index n :: segmentsOf text := by
  obtain ⟨part, parts, hparts, hhead⟩ := exists_splitOn h
  have hnone : ∀ c, Decimal.isDigit c = false → c ∉ Nat.toDigits 10 n := by
    intro c hc hmem
    rw [Json.isDigit_of_mem_toDigits hmem] at hc
    cases hc
  have hpoint : '.' ∉ '[' :: (Nat.toDigits 10 n ++ [']']) := by
    simp [hnone '.' (by decide)]
  have hpart : partSegments ('[' :: (Nat.toDigits 10 n ++ [']']) ++ part) =
      .index n :: bracketSegments part := by
    have hbracket : ∀ c ∈ ('[' :: (Nat.toDigits 10 n ++ [']']) ++ part).head?, c = '[' :=
      fun _ hc => (Option.some.inj hc).symm
    rw [partSegments_of_bracket hbracket, List.cons_append, List.append_assoc,
      List.singleton_append, bracketSegments_bracket (hnone ']' (by decide)), bracketed_toDigits hn]
  rw [segmentsOf, segmentsOf, Text.splitOn_append hpoint hparts, hparts, List.flatMap_cons,
    List.flatMap_cons, hpart, partSegments_of_bracket hhead]
  rfl

end Reading

/-- Behind what they lead on from, the steps of a location are read back from their text. -/
theorem segmentsOf_flatMap {location : List Segment} (hplain : ∀ s ∈ location, s.Plain)
    (hword : ∀ position, .index position ∈ location → position < Nat.pow 2 64) :
    segmentsOf (location.flatMap Segment.text) = location := by
  induction location with
  | nil => exact segmentsOf_nil
  | cons s location ih =>
      obtain ⟨hs, hplain⟩ := List.forall_mem_cons.mp hplain
      have hrest := ih hplain fun position hmem => hword position (List.mem_cons_of_mem _ hmem)
      have hon := goesOn_flatMap location
      rw [List.flatMap_cons]
      cases s with
      | key name =>
          have hname : PlainKey name := hs
          rw [Segment.text, List.cons_append, segmentsOf_point, hname.segmentsOf_append hon, hrest]
      | index position =>
          rw [Segment.text, segmentsOf_position (hword position List.mem_cons_self) hon, hrest]

/-- **Locations are read back from their paths.** -/
theorem segments_pathTo {location : List Segment} (hplain : ∀ s ∈ location, s.Plain)
    (hword : ∀ position, .index position ∈ location → position < Nat.pow 2 64) :
    segments (pathTo location) = location := by
  have hread := segmentsOf_flatMap hplain hword
  have hchars : ∀ text, segments (String.ofList text) = segmentsOf text := fun _ =>
    congrArg segmentsOf String.toList_ofList
  match location with
  | [] => exact (hchars _).trans hread
  | .index position :: location => exact (hchars _).trans hread
  | .key name :: location =>
      rw [List.flatMap_cons, Segment.text, List.cons_append, segmentsOf_point] at hread
      exact (hchars _).trans hread

/-- **Every part of a value is found at the path to it.** -/
theorem every_location_has_a_path {v part : Json} {location : List Segment}
    (h : Located v location part) (hplain : ∀ s ∈ location, s.Plain) :
    extract? v (pathTo location) = some part := by
  rw [extract?_eq_follow?, segments_pathTo hplain h.lt_of_mem]
  exact h.follow?_eq

/-- A part in nested arrays and behind keys that look like a position and the end of a bracket. -/
theorem part_behind_odd_keys_has_a_path :
    Located (.array [.array [.null, .object [("0", .object [("a]", .array [.bool true])])]]])
      [.index 0, .index 1, .key "0", .key "a]", .index 0] (.bool true) ∧
    (∀ s ∈ [.index 0, .index 1, .key "0", .key "a]", .index 0], Segment.Plain s) ∧
    extract? (.array [.array [.null, .object [("0", .object [("a]", .array [.bool true])])]]])
      "[0][1].0.a][0]" = some (.bool true) := by
  have hlocated : Located
      (.array [.array [.null, .object [("0", .object [("a]", .array [.bool true])])]]])
      [.index 0, .index 1, .key "0", .key "a]", .index 0] (.bool true) :=
    .item rfl (by decide) (.item rfl (by decide) (.field rfl (.field rfl
      (.item rfl (by decide) .here))))
  have hplain : ∀ s ∈ [.index 0, .index 1, .key "0", .key "a]", .index 0], Segment.Plain s := by
    intro s hs
    simp only [List.mem_cons, List.not_mem_nil, or_false] at hs
    rcases hs with rfl | rfl | rfl | rfl | rfl
    · trivial
    · trivial
    · exact ⟨by decide, by decide, by decide⟩
    · exact ⟨by decide, by decide, by decide⟩
    · trivial
  exact ⟨hlocated, hplain, every_location_has_a_path hlocated hplain⟩

end JsonExpr.Path
