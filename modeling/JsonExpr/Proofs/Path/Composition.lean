import JsonExpr.Path
import JsonExpr.Proofs.Text.Pieces
import Mathlib.Data.List.Forall2

/-!
# Paths one after the other

A path is cut at its points before anything else is made of it, and each part gives its steps by
itself.  So a point between two paths, whatever they look like, means that one is followed and then
the other: an unclosed bracket ends at the next point, and an empty part gives no step.

A step by key leads through an array element by element, and all of a path of keys does, too.  The
definition takes one step from all elements before it takes the next one; to take all steps from
one element after the other gives the same, since one element that lacks a key is enough for either
to fail.

Main definitions:

* `JsonExpr.Path.PlainKey` — keys that are parts of a path;
* `JsonExpr.Path.LeadsThrough` — those that are no positions of an array.

Main results:

* `JsonExpr.Path.segments_append` — **the steps of two paths with a point between them**;
* `JsonExpr.Path.lookup_follows_one_path_then_the_other` — **looking up composes**;
* `JsonExpr.Path.mapM_bind` — two steps from each of a list;
* `JsonExpr.Path.path_of_keys_leads_through_arrays` — **a path of keys leads through an array
  element by element**.
-/

set_option autoImplicit false

namespace JsonExpr.Path

open Decimal (readNatural?)

/-! ### The steps of a path -/

/-- The steps that a text spells. -/
def segmentsOf (text : List Char) : List Segment := (Text.splitOn '.' [] text).flatMap partSegments

theorem segmentsOf_append_point (text after : List Char) :
    segmentsOf (text ++ '.' :: after) = segmentsOf text ++ segmentsOf after := by
  rw [segmentsOf, Text.splitOn_append_cons, List.flatMap_append]
  rfl

/-- **The steps of two paths with a point between them.** -/
theorem segments_append (p q : String) : segments (p ++ "." ++ q) = segments p ++ segments q := by
  have htext : (p ++ "." ++ q).toList = p.toList ++ '.' :: q.toList := by
    rw [String.toList_append, String.toList_append, List.append_assoc]
    rfl
  change segmentsOf (p ++ "." ++ q).toList = _
  rw [htext, segmentsOf_append_point]
  rfl

-- The point ends the bracket, and the empty part between two points is no step.
example : segments "a[b.0]..c" = [.key "a", .key "[b", .key "0]", .key "c"] := by cbv

/-- What a part of a path spells, from the first bracket on and in front of it. -/
theorem partSegments_append {name part : List Char} (hname : '[' ∉ name)
    (hpart : ∀ c ∈ part.head?, c = '[') :
    partSegments (name ++ part) =
      if name.isEmpty then bracketSegments part
      else .key (String.ofList name) :: bracketSegments part := by
  have hall : ∀ c ∈ name, (c != '[') = true := by
    intro c hc
    rw [bne_iff_ne]
    rintro rfl
    exact hname hc
  have htake : part.takeWhile (· != '[') = [] := by
    cases part with
    | nil => rfl
    | cons c part =>
        obtain rfl := hpart c rfl
        rfl
  have hdrop : part.dropWhile (· != '[') = part := by
    cases part with
    | nil => rfl
    | cons c part =>
        obtain rfl := hpart c rfl
        rfl
  rw [partSegments, List.takeWhile_append_of_pos hall, List.dropWhile_append_of_pos hall, htake,
    hdrop, List.append_nil]

theorem bracketSegments_nil : bracketSegments [] = [] := by
  rw [bracketSegments]
  exact fun _ h => absurd h.symm (List.cons_ne_nil _ _)

theorem segmentsOf_nil : segmentsOf [] = [] := by
  have hnone : partSegments [] = [] := bracketSegments_nil
  rw [segmentsOf, Text.splitOn, List.flatMap_singleton, hnone]

/-! ### Following steps -/

theorem follow?_append (v : Json) (before after : List Segment) :
    follow? v (before ++ after) = (follow? v before).bind fun part => follow? part after := by
  induction before generalizing v with
  | nil => rfl
  | cons s before ih =>
      rw [List.cons_append, follow?, follow?, Option.bind_assoc]
      exact Option.bind_congr fun next _ => ih next

/-- The empty path spells no step, so that it is no exception. -/
theorem extract?_eq_follow? (v : Json) (path : String) :
    extract? v path = follow? v (segments path) := by
  unfold extract?
  split
  · next h =>
    have hnone : segments path = [] := h ▸ segmentsOf_nil
    rw [hnone]
    rfl
  · rfl

/-- **Looking up composes.**  A path that is two paths with a point between them leads to where the
second one leads from where the first one leads to, and nowhere exactly if one of the two does. -/
theorem lookup_follows_one_path_then_the_other (v : Json) (p q : String) :
    extract? v (p ++ "." ++ q) = (extract? v p).bind (fun part => extract? part q) ∧
      (extract? v (p ++ "." ++ q) = none ↔
        extract? v p = none ∨ ∃ part, extract? v p = some part ∧ extract? part q = none) := by
  have hboth : extract? v (p ++ "." ++ q) = (extract? v p).bind fun part => extract? part q := by
    simp only [extract?_eq_follow?, segments_append, follow?_append]
  refine ⟨hboth, ?_⟩
  rw [hboth]
  cases hfirst : extract? v p with
  | none => exact ⟨fun _ => .inl rfl, fun _ => rfl⟩
  | some part => simp

/-! ### Two steps from each of a list -/

section Lists

variable {α β γ : Type} {f : α → Option β} {g : β → Option γ} {xs : List α} {ys : List β}

theorem mapM_cons_eq (f : α → Option β) (x : α) (xs : List α) :
    (x :: xs).mapM f = (f x).bind fun y => (xs.mapM f).map (y :: ·) := by
  rw [List.mapM_cons]
  simp only [Option.bind_eq_bind, Option.pure_def, Option.map_eq_bind]
  rfl

/-- **Two steps from each of a list**: all first steps may be taken before all second ones. -/
theorem mapM_bind (f : α → Option β) (g : β → Option γ) (xs : List α) :
    (xs.mapM fun x => (f x).bind g) = (xs.mapM f).bind fun ys => ys.mapM g := by
  induction xs with
  | nil => rfl
  | cons x xs ih =>
      rw [mapM_cons_eq, mapM_cons_eq, ih]
      cases f x with
      | none => rfl
      | some y =>
          rw [Option.bind_some, Option.bind_some]
          cases xs.mapM f with
          | none =>
              -- Whatever the second step from the first element gives, all of it fails.
              cases g y <;> rfl
          | some ys => exact (mapM_cons_eq g y ys).symm

theorem mapM_eq_some_iff :
    xs.mapM f = some ys ↔ List.Forall₂ (fun x y => f x = some y) xs ys := by
  induction xs generalizing ys with
  | nil => cases ys <;> simp
  | cons x xs ih =>
      rw [mapM_cons_eq, List.forall₂_cons_left_iff]
      simp only [Option.bind_eq_some_iff, Option.map_eq_some_iff, ih]
      constructor
      · rintro ⟨y, hy, ys, hys, rfl⟩
        exact ⟨y, ys, hy, hys, rfl⟩
      · rintro ⟨y, ys, hy, hys, rfl⟩
        exact ⟨y, hy, ys, hys, rfl⟩

theorem mapM_eq_none_iff : xs.mapM f = none ↔ ∃ x ∈ xs, f x = none := by
  induction xs with
  | nil => simp
  | cons x xs ih =>
      rw [mapM_cons_eq, List.exists_mem_cons_iff, ← ih]
      cases f x <;> simp

end Lists

/-! ### Paths of keys -/

/-- A key that is a part of a path as it stands: it is not empty, and neither a point nor an opening
bracket is in it. -/
structure PlainKey (key : String) : Prop where
  ne_empty : key ≠ ""
  no_point : '.' ∉ key.toList
  no_bracket : '[' ∉ key.toList

/-- A key that leads through an array: it does not read as a position. -/
structure LeadsThrough (key : String) : Prop extends PlainKey key where
  no_position : readNatural? key.toList = none

theorem PlainKey.toList_ne_nil {key : String} (h : PlainKey key) : key.toList ≠ [] := fun hnil =>
  h.ne_empty (String.toList_eq_nil_iff.mp hnil)

theorem PlainKey.partSegments_eq {key : String} (h : PlainKey key) :
    partSegments key.toList = [.key key] := by
  have hpart : partSegments (key.toList ++ []) = _ :=
    partSegments_append h.no_bracket fun _ hc => absurd hc (Option.not_mem_none _)
  rw [List.append_nil, List.isEmpty_eq_false_iff.mpr h.toList_ne_nil, bracketSegments_nil,
    String.ofList_toList] at hpart
  exact hpart

/-- The steps of keys with points between them. -/
theorem segments_keys {keys : List String} (h : ∀ key ∈ keys, PlainKey key) :
    segments (".".intercalate keys) = keys.map .key := by
  cases keys with
  | nil => exact segmentsOf_nil
  | cons key keys =>
      have hpieces : Text.splitOn '.' [] (".".intercalate (key :: keys)).toList =
          (key :: keys).map String.toList := by
        rw [String.toList_intercalate, Text.splitOn_eq]
        refine List.splitOn_intercalate '.' ?_ (List.cons_ne_nil _ _)
        exact List.forall_mem_map.mpr fun key hkey => (h key hkey).no_point
      rw [segments, hpieces, List.flatMap_map, List.map_eq_flatMap]
      exact List.flatMap_congr fun key hkey => (h key hkey).partSegments_eq

theorem atKeyOfAll?_eq (key : String) (items : List Json) :
    atKeyOfAll? key items = items.mapM (atKey? key) := by
  induction items with
  | nil => rfl
  | cons v items ih =>
      rw [atKeyOfAll?, mapM_cons_eq, ih]
      cases atKey? key v <;> rfl

theorem atKey?_array {key : String} (h : readNatural? key.toList = none) (items : List Json) :
    atKey? key (.array items) = (items.mapM (atKey? key)).map .array := by
  rw [atKey?, h, atKeyOfAll?_eq]

/-- Steps by key lead through an array element by element. -/
theorem follow?_array {keys : List String} (h : ∀ key ∈ keys, readNatural? key.toList = none)
    (items : List Json) :
    follow? (.array items) (keys.map .key) =
      (items.mapM fun v => follow? v (keys.map .key)).map .array := by
  induction keys generalizing items with
  | nil =>
      have hself : items.mapM (fun v => follow? v []) = some items :=
        mapM_eq_some_iff.mpr (List.forall₂_same.mpr fun _ _ => rfl)
      rw [List.map_nil, hself]
      rfl
  | cons key keys ih =>
      obtain ⟨hkey, hkeys⟩ := List.forall_mem_cons.mp h
      simp only [List.map_cons, follow?, step?]
      rw [atKey?_array hkey, mapM_bind]
      cases items.mapM (atKey? key) with
      | none => rfl
      | some found => exact ih hkeys found

/-- **A path of keys leads through an array element by element**, to the array of what it leads to
from each element, and nowhere exactly if it leads nowhere from one of them. -/
theorem path_of_keys_leads_through_arrays {keys : List String}
    (h : ∀ key ∈ keys, LeadsThrough key) (items : List Json) :
    (∀ found, extract? (.array items) (".".intercalate keys) = some found ↔
      ∃ parts, found = .array parts ∧
        List.Forall₂ (fun v part => extract? v (".".intercalate keys) = some part) items parts) ∧
    (extract? (.array items) (".".intercalate keys) = none ↔
      ∃ v ∈ items, extract? v (".".intercalate keys) = none) := by
  have hsteps : ∀ v, extract? v (".".intercalate keys) = follow? v (keys.map .key) := by
    intro v
    rw [extract?_eq_follow?, segments_keys fun key hkey => (h key hkey).toPlainKey]
  have harray := follow?_array (fun key hkey => (h key hkey).no_position) items
  simp only [hsteps, harray, Option.map_eq_some_iff, Option.map_eq_none_iff, mapM_eq_some_iff,
    mapM_eq_none_iff]
  refine ⟨fun found => ?_, trivial⟩
  constructor
  · rintro ⟨parts, hparts, rfl⟩
    exact ⟨parts, rfl, hparts⟩
  · rintro ⟨parts, rfl, hparts⟩
    exact ⟨parts, hparts, rfl⟩

/-- A path of keys through arrays in arrays, of which one leads nowhere. -/
theorem names_of_users_lead_through_arrays :
    (∀ key ∈ ["user", "name"], LeadsThrough key) ∧
    extract? (.array [
        .object [("user", .array [.object [("name", .string "Han")],
          .object [("name", .string "Leia")]])],
        .array [.object [("user", .object [("name", .string "Boba")])]]]) "user.name" =
      some (.array [.array [.string "Han", .string "Leia"], .array [.string "Boba"]]) ∧
    extract? (.array [.object [("user", .object [("name", .string "Boba")])], .array [.null]])
      "user.name" = none := by
  have hkeys : ∀ key ∈ ["user", "name"], LeadsThrough key := by
    intro key hkey
    simp only [List.mem_cons, List.not_mem_nil, or_false] at hkey
    rcases hkey with rfl | rfl <;> exact ⟨⟨by decide, by decide, by decide⟩, by decide⟩
  have hpath : ".".intercalate ["user", "name"] = "user.name" := by decide
  have hsteps : segments "user.name" = [.key "user", .key "name"] :=
    hpath ▸ segments_keys fun key hkey => (hkeys key hkey).toPlainKey
  have hfollow : ∀ v, extract? v "user.name" = follow? v [.key "user", .key "name"] := by
    intro v
    rw [extract?_eq_follow?, hsteps]
  have hthrough := path_of_keys_leads_through_arrays hkeys
  rw [hpath] at hthrough
  refine ⟨hkeys, ?_, ?_⟩
  · refine ((hthrough _).1 _).mpr ⟨_, rfl, ?_⟩
    exact .cons ((hfollow _).trans rfl) (.cons ((hfollow _).trans rfl) .nil)
  · refine (hthrough _).2.mpr ⟨.array [.null], ?_, ?_⟩
    · exact List.mem_cons_of_mem _ List.mem_cons_self
    · exact (hfollow _).trans rfl

end JsonExpr.Path
