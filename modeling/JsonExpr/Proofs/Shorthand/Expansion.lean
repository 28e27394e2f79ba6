import JsonExpr.Proofs.Json.Reading
import JsonExpr.Proofs.Text.Ellipsis
import JsonExpr.Shorthand
import Mathlib.Data.List.TakeWhile

/-!
# How shorthand expands

Expanding shorthand walks through a value and, at a call string, through the arguments that are read
from it, which may contain call strings again.  The definition bounds how deep calls nest by a
number; here it is shown that the number does not matter, so that a call string expands by one
equation, and that what holds of the arguments of a call string may be assumed to show it of the
call string.

Main definitions:

* `JsonExpr.Shorthand.IsCall` — the form of a call string;
* `JsonExpr.Shorthand.callOf?` — the name and the arguments of a call string, as values;
* `JsonExpr.Shorthand.Names.knows` — the names that stand for a node;
* `JsonExpr.Shorthand.Invokes` — an object that stands for a node by its single key;
* `JsonExpr.Shorthand.walkProperty` — a property of a node, walked through.

Main results:

* `JsonExpr.Shorthand.call?_eq_some_iff` — the reader of call strings reads all of this form;
* `JsonExpr.Shorthand.expandString?_eq` — **the equation of call strings**;
* `JsonExpr.Shorthand.inductionOnArguments` — **induction on elements, entries and arguments**;
* `JsonExpr.Shorthand.walk_node`, `JsonExpr.Shorthand.Invokes.build?_eq`,
  `JsonExpr.Shorthand.walk_plain` — the three ways in which an object is walked through.
-/

set_option autoImplicit false

namespace JsonExpr.Shorthand

open Json (Part Within)

variable {names : Names} {f g : String → Option Json}

/-! ### Names -/

/-- Whether a name stands for an operator or a fragment. -/
def Names.knows (names : Names) (name : String) : Bool :=
  (names.registry.resolve? name).isSome || names.hasFragment name

theorem Names.isSome_build? (names : Names) (name : String) (parameters : Json) :
    (names.build? name parameters).isSome = names.knows name := by
  unfold Names.build? Names.knows
  cases names.registry.resolve? name with
  | some k => rfl
  | none => cases names.hasFragment name <;> rfl

theorem Names.build?_eq_none {name : String} (h : names.knows name = false) (parameters : Json) :
    names.build? name parameters = none := by
  rw [← Option.isSome_eq_false_iff.trans Option.isNone_iff_eq_none, names.isSome_build?, h]

theorem afterSigil?_eq_some_iff {key name : String} :
    afterSigil? key = some name ↔ key = "$" ++ name := by
  have hsigil : key = "$" ++ name ↔ key.toList = '$' :: name.toList := by
    rw [← String.toList_inj, String.toList_append]
    rfl
  rw [hsigil]
  unfold afterSigil?
  split
  · next rest heq => rw [heq, Option.some.injEq, List.cons_inj_right, ← String.toList_inj,
      String.toList_ofList]
  · next hno =>
    constructor
    · intro h
      cases h
    · intro h
      exact absurd h (hno name.toList)

/-- A name behind a dollar sign is none of the properties with a meaning of their own. -/
theorem sigil_ne (key : String) (h : key.toList.head? ≠ some '$') (name : String) :
    "$" ++ name ≠ key := by
  rintro rfl
  rw [String.toList_append] at h
  exact h rfl

/-! ### Objects -/

/-- The single key of an object is a known name behind a dollar sign, and its value is `v`. -/
inductive Invokes (names : Names) (name : String) (v : Json) : Dict Json → Prop where
  | known : names.knows name = true → Invokes names name v [("$" ++ name, v)]

/-- The name of an invocation is what stands behind the dollar sign of its key. -/
theorem Invokes.of_singleton {name key : String} {v w : Json}
    (h : Invokes names name v [(key, w)]) : afterSigil? key = some name ∧ v = w := by
  generalize hfields : [(key, w)] = fields at h
  cases h
  cases hfields
  exact ⟨afterSigil?_eq_some_iff.mpr rfl, rfl⟩

theorem Invokes.knows_eq {name : String} {v : Json} {fields : Dict Json}
    (h : Invokes names name v fields) : names.knows name = true := by
  cases h with
  | known hknown => exact hknown

/-- What invokes a name does so wherever the same names are known. -/
theorem Invokes.of_knows {names' : Names} {name : String} {v : Json} {fields : Dict Json}
    (h : Invokes names name v fields) (hknows : ∀ name, names'.knows name = names.knows name) :
    Invokes names' name v fields := by
  cases h with
  | known hknown => exact .known ((hknows name).trans hknown)

theorem isOperatorNode_object (fields : Dict Json) :
    isOperatorNode (.object fields) = Dict.hasKey fields Key.operator := rfl

theorem isFragmentNode_object (fields : Dict Json) :
    isFragmentNode (.object fields) = Dict.hasKey fields Key.fragment := rfl

theorem Invokes.isOperatorNode_eq {name : String} {v : Json} {fields : Dict Json}
    (h : Invokes names name v fields) : isOperatorNode (.object fields) = false := by
  cases h
  simp [isOperatorNode_object, Dict.hasKey, Dict.get?, sigil_ne Key.operator (by decide)]

theorem Invokes.isFragmentNode_eq {name : String} {v : Json} {fields : Dict Json}
    (h : Invokes names name v fields) : isFragmentNode (.object fields) = false := by
  cases h
  simp [isFragmentNode_object, Dict.hasKey, Dict.get?, sigil_ne Key.fragment (by decide)]

theorem Invokes.isNode_eq {name : String} {v : Json} {fields : Dict Json}
    (h : Invokes names name v fields) : isNode (.object fields) = false := by
  rw [isNode, h.isOperatorNode_eq, h.isFragmentNode_eq]
  rfl

/-- A property of a node, walked through. -/
def walkProperty (names : Names) (onString : String → Option Json) (key : String) (v : Json) :
    Json :=
  if key = Key.parameters ∧ isOperatorNode v = false then walkParameters names onString v
  else walk names onString v

theorem walkItems_eq (items : List Json) :
    walkItems names f items = items.map (walk names f) := by
  induction items with
  | nil => rfl
  | cons v items ih => rw [walkItems, ih, List.map_cons]

theorem walkFields_eq (fields : Dict Json) :
    walkFields names f fields = fields.map fun e => (e.1, walk names f e.2) := by
  induction fields with
  | nil => rfl
  | cons e fields ih => rw [walkFields, ih, List.map_cons]

theorem walkNode_eq (fields : Dict Json) :
    walkNode names f fields = fields.map fun e => (e.1, walkProperty names f e.1 e.2) := by
  induction fields with
  | nil => rfl
  | cons e fields ih =>
      rw [walkNode, ih, List.map_cons]
      rfl

/-- In a node, every property is walked through. -/
theorem walk_node {fields : Dict Json} (h : isNode (.object fields) = true) :
    walk names f (.object fields) =
      .object (fields.map fun e => (e.1, walkProperty names f e.1 e.2)) := by
  rw [walk.eq_def]
  dsimp only
  rw [if_pos h, walkNode_eq]

/-- An object with a known name for its single key is the node of that name. -/
theorem Invokes.build?_eq {name : String} {v : Json} {fields : Dict Json}
    (h : Invokes names name v fields) :
    names.build? name (walkParameters names f v) = some (walk names f (.object fields)) := by
  have hnode := h.isNode_eq
  cases h with
  | known hknown =>
      have hname : afterSigil? ("$" ++ name) = some name := afterSigil?_eq_some_iff.mpr rfl
      obtain ⟨node, hbuild⟩ := Option.isSome_iff_exists.mp
        ((names.isSome_build? name (walkParameters names f v)).trans hknown)
      rw [walk, hnode]
      simp [hname, hbuild]

/-- In any other object, every value is walked through. -/
theorem walk_plain {fields : Dict Json} (hnode : isNode (.object fields) = false)
    (hinvokes : ∀ name v, ¬ Invokes names name v fields) :
    walk names f (.object fields) = .object (fields.map fun e => (e.1, walk names f e.2)) := by
  rw [walk.eq_def]
  dsimp only
  rw [hnode, if_neg Bool.false_ne_true]
  split
  · next key v =>
    cases hname : afterSigil? key with
    | none => rfl
    | some name =>
        have hunknown : names.knows name = false := by
          rw [Bool.eq_false_iff]
          intro hknown
          rw [afterSigil?_eq_some_iff] at hname
          subst hname
          exact hinvokes name v (.known hknown)
        rw [Option.bind_some, Names.build?_eq_none hunknown]
        rfl
  · rw [walkFields_eq]

/-- An object of parameters is no shorthand itself. -/
theorem walkParameters_object (fields : Dict Json) :
    walkParameters names f (.object fields) =
      .object (fields.map fun e => (e.1, walk names f e.2)) := by
  rw [walkParameters, walkFields_eq]

/-- Only of objects it matters whether they are parameters. -/
theorem walkParameters_eq_walk {v : Json} (h : v.asObject? = none) :
    walkParameters names f v = walk names f v := by
  cases v with
  | object fields => cases h
  | _ => simp only [walkParameters, walk]

/-- A walk only depends on what names build, and on how the strings of a value expand. -/
theorem walk_congr {names' : Names} (hbuild : names'.build? = names.build?) {v : Json}
    (h : ∀ s, Part (.string s) v → f s = g s) :
    walk names f v = walk names' g v ∧ walkParameters names f v = walkParameters names' g v := by
  have hknows : ∀ name, names'.knows name = names.knows name := fun name => by
    rw [← names'.isSome_build? name .null, hbuild, names.isSome_build?]
  induction v using Json.inductionOnParts with
  | null => exact ⟨rfl, rfl⟩
  | bool b => exact ⟨rfl, rfl⟩
  | number n => exact ⟨rfl, rfl⟩
  | string s => simp only [walk, walkParameters, h s .self, and_self]
  | array items ih =>
      have hitems : items.map (walk names f) = items.map (walk names' g) :=
        List.map_congr_left fun v hv => (ih v hv fun s hs => h s (.item hv hs)).1
      simp only [walk, walkParameters, walkItems_eq, hitems, and_self]
  | object fields ih =>
      have hboth := fun e he => ih e he fun s hs => h s (.entry he hs)
      have hfields : fields.map (fun e => (e.1, walk names f e.2)) =
          fields.map fun e => (e.1, walk names' g e.2) :=
        List.map_congr_left fun e he => by rw [(hboth e he).1]
      refine ⟨?_, by rw [walkParameters_object, walkParameters_object, hfields]⟩
      cases hnode : isNode (.object fields) with
      | true =>
          rw [walk_node hnode, walk_node hnode]
          congr 1
          refine List.map_congr_left fun e he => ?_
          rw [walkProperty, walkProperty, (hboth e he).1, (hboth e he).2]
      | false =>
          by_cases hinvokes : ∃ name v, Invokes names name v fields
          · obtain ⟨name, v, hinvokes⟩ := hinvokes
            have hparameters : walkParameters names f v = walkParameters names' g v := by
              cases hinvokes
              exact (hboth _ List.mem_cons_self).2
            have hinvokes' := hinvokes.of_knows hknows
            exact Option.some.inj
              (by rw [← hinvokes.build?_eq, ← hinvokes'.build?_eq, hparameters, hbuild])
          · have hinvokes' : ∀ name v, ¬ Invokes names' name v fields := fun name v hv =>
              hinvokes ⟨name, v, hv.of_knows fun name => (hknows name).symm⟩
            simp only [not_exists] at hinvokes
            rw [walk_plain hnode hinvokes, walk_plain hnode hinvokes', hfields]

/-! ### The form of a call -/

/-- A dollar sign, a name without round brackets, and an argument text in round brackets. -/
structure IsCall (s name text : List Char) : Prop where
  spelled : s = '$' :: (name ++ '(' :: (text ++ [')']))
  named : name ≠ []
  plain : ∀ c ∈ name, isParenthesis c = false

/-- **Call strings are read by their form alone.** -/
theorem call?_eq_some_iff {s name text : List Char} :
    call? s = some (name, text) ↔ IsCall s name text := by
  constructor
  · intro h
    unfold call? at h
    split at h
    case h_2 => cases h
    next rest =>
    dsimp only at h
    split at h
    case h_2 => cases h
    next c more after hname hrest =>
    split at h
    case isFalse => cases h
    next hlast =>
    cases h
    obtain ⟨arguments, rfl⟩ := List.getLast?_eq_some_iff.mp hlast
    refine ⟨?_, fun hnil => ?_, fun d hd => ?_⟩
    · rw [List.dropLast_concat, ← hrest, List.takeWhile_append_dropWhile]
    · rw [hname] at hnil
      cases hnil
    · have hplain := List.mem_takeWhile_imp (p := fun c => !isParenthesis c) hd
      exact (Bool.not_eq_true' _).mp hplain
  · rintro ⟨rfl, hne, hplain⟩
    have hname : ∀ c ∈ name, (!isParenthesis c) = true := fun c hc => by rw [hplain c hc]; rfl
    obtain ⟨c, more, rfl⟩ := List.exists_cons_of_ne_nil hne
    rw [call?, List.takeWhile_append_of_pos hname, List.dropWhile_append_of_pos hname]
    simp [isParenthesis]

/-- Without round brackets there is no call. -/
theorem call?_of_not_isParenthesis {s : List Char} (h : ∀ c ∈ s, isParenthesis c = false) :
    call? s = none := by
  rw [Option.eq_none_iff_forall_ne_some]
  rintro ⟨name, text⟩ hcall
  obtain ⟨rfl, -, -⟩ := call?_eq_some_iff.mp hcall
  have hopening : isParenthesis '(' = false := h '(' (by simp)
  exact absurd hopening (by decide)

/-! ### Arguments are smaller than their call -/

/-- The arguments of a call string stand between brackets, behind a name. -/
theorem length_of_call? {s name text : List Char} (h : call? s = some (name, text)) :
    text.length + 4 ≤ s.length := by
  obtain ⟨rfl, hne, -⟩ := call?_eq_some_iff.mp h
  have hname := List.length_pos_iff.mpr hne
  simp only [List.length_cons, List.length_append, List.length_nil]
  omega

/-- The parts between top-level commas are the whole text but for the commas, of which there is one
less than there are parts. -/
theorem sum_length_splitTop (n : Nesting) (text : List Char) :
    ((splitTop n text).map fun piece => piece.length + 1).sum = text.length + 1 := by
  induction text generalizing n with
  | nil => rfl
  | cons c rest ih =>
      rw [splitTop, List.length_cons]
      split
      · rw [List.map_cons, List.sum_cons, ih n, List.length_nil]
        omega
      · have hrest := ih (n.next c)
        cases hpieces : splitTop (n.next c) rest with
        | nil =>
            rw [hpieces] at hrest
            cases hrest
        | cons first pieces =>
            rw [hpieces, List.map_cons, List.sum_cons] at hrest
            rw [Text.consHead, List.map_cons, List.sum_cons, List.length_cons]
            omega

theorem length_of_unquote? {text inner : List Char} (h : unquote? text = some inner) :
    inner.length ≤ text.length := by
  unfold unquote? at h
  split at h
  · split at h
    · cases h
      rw [List.length_dropLast, List.length_cons]
      omega
    · cases h
  · cases h

/-- An argument is no larger than its text, whether it is read as JSON, as quoted or as plain text;
but an empty text is a value, too. -/
theorem room_readArgument_le (text : List Char) : (readArgument text).room ≤ text.length + 1 := by
  unfold readArgument
  split
  · next inner hinner =>
    have hle := length_of_unquote? hinner
    rw [Json.room_string, String.toList_ofList]
    omega
  · cases hparse : Json.parseChars? text with
    | some v => exact Nat.le_succ_of_le (Json.room_of_parseChars? hparse)
    | none =>
        rw [Option.getD_none, Json.room_string, String.toList_ofList]
        omega

/-- All arguments together are no larger than their text, and one more for the comma that is not
there. -/
theorem sum_room_splitArguments (text : List Char) :
    (((splitArguments text).map readArgument).map Json.room).sum ≤ text.length + 1 := by
  unfold splitArguments
  split
  · exact Nat.zero_le _
  · rw [← sum_length_splitTop .none text, List.map_map, List.map_map]
    refine List.sum_le_sum fun piece _ => ?_
    exact Nat.le_trans (room_readArgument_le _) (Nat.succ_le_succ (Text.length_trim_le piece))

/-! ### Call strings -/

/-- The name and the arguments of a call string, as values. -/
def callOf? (s : String) : Option (String × List Json) :=
  (call? s.toList).map fun call =>
    (String.ofList (Text.trim call.1), (splitArguments call.2).map readArgument)

/-- The arguments of a call string, all together, are smaller than the call string. -/
theorem sum_room_of_callOf? {s name : String} {arguments : List Json}
    (h : callOf? s = some (name, arguments)) :
    (arguments.map Json.room).sum + 3 ≤ s.toList.length := by
  obtain ⟨⟨head, text⟩, hcall, heq⟩ := Option.map_eq_some_iff.mp h
  cases heq
  have hlength := length_of_call? hcall
  have hsum := sum_room_splitArguments text
  dsimp only
  omega

/-- The strings in the arguments of a call string are shorter than the call string. -/
theorem within_of_callOf? {s name : String} {arguments : List Json}
    (h : callOf? s = some (name, arguments)) {v : Json} (hv : v ∈ arguments) :
    Within (s.toList.length - 1) v := by
  have hall := sum_room_of_callOf? h
  have hone := List.le_sum_of_mem (List.mem_map_of_mem (f := Json.room) hv)
  exact (Json.within_room v).mono (by omega)

theorem mem_of_mem_trim {c : Char} {text : List Char} (h : c ∈ Text.trim text) : c ∈ text := by
  have hright : ∀ text : List Char, c ∈ Text.dropRight Text.isBlank text → c ∈ text := by
    intro text
    unfold Text.dropRight
    induction text with
    | nil => exact id
    | cons d text ih =>
        rw [List.foldr_cons]
        intro hc
        split at hc
        · cases hc
        · rcases List.mem_cons.mp hc with rfl | hc
          · exact List.mem_cons_self
          · exact List.mem_cons_of_mem d (ih hc)
  exact (List.dropWhile_suffix Text.isBlank).mem (hright _ h)

/-- The name of a call string has no round brackets, so it is no call string itself. -/
theorem callOf?_name {s name : String} {arguments : List Json}
    (h : callOf? s = some (name, arguments)) : callOf? name = none := by
  obtain ⟨⟨head, text⟩, hcall, heq⟩ := Option.map_eq_some_iff.mp h
  cases heq
  have hhead : ∀ c ∈ Text.trim head, isParenthesis c = false := fun c hc =>
    (call?_eq_some_iff.mp hcall).plain c (mem_of_mem_trim hc)
  rw [callOf?, String.toList_ofList, call?_of_not_isParenthesis hhead]
  rfl

theorem expandCall?_succ (depth : Nat) (s : String) :
    expandCall? names (depth + 1) s = (callOf? s).bind fun call =>
      names.build? call.1 (.array (call.2.map (walk names (expandCall? names depth)))) := by
  rw [expandCall?, callOf?]
  cases call? s.toList with
  | none => rfl
  | some call =>
      dsimp only [Option.map_some, Option.bind_some]
      rw [List.map_map]
      rfl

theorem callOf?_of_length_zero {s : String} (h : s.toList.length = 0) : callOf? s = none := by
  rw [callOf?, List.length_eq_zero_iff.mp h]
  rfl

/-- Any bound for the nesting of calls will do that is not below the length of the string. -/
theorem expandCall?_eq_of_le {s : String} {depth depth' : Nat} (h : s.toList.length ≤ depth)
    (h' : s.toList.length ≤ depth') : expandCall? names depth s = expandCall? names depth' s := by
  induction depth generalizing s depth' with
  | zero =>
      cases depth' with
      | zero => rfl
      | succ depth' =>
          rw [expandCall?_succ, callOf?_of_length_zero (Nat.le_zero.mp h)]
          rfl
  | succ depth ih =>
      cases depth' with
      | zero =>
          rw [expandCall?_succ, callOf?_of_length_zero (Nat.le_zero.mp h')]
          rfl
      | succ depth' =>
          rw [expandCall?_succ, expandCall?_succ]
          cases hcall : callOf? s with
          | none => rfl
          | some call =>
              -- The strings of the arguments are shorter, so that both bounds will do for them.
              have harguments : call.2.map (walk names (expandCall? names depth)) =
                  call.2.map (walk names (expandCall? names depth')) := by
                refine List.map_congr_left fun v hv => (walk_congr rfl fun t ht => ?_).1
                have hshort := within_of_callOf? hcall hv t ht
                exact ih (by omega) (by omega)
              rw [Option.bind_some, Option.bind_some, harguments]

/-- **The equation of call strings.**  A call string stands for the node of its name with the
arguments for children, in which shorthand is expanded. -/
theorem expandString?_eq (names : Names) (s : String) :
    expandString? names s = (callOf? s).bind fun call =>
      names.build? call.1 (.array (call.2.map (preprocess names))) := by
  calc expandString? names s
      = expandCall? names (s.toList.length + 1) s :=
        expandCall?_eq_of_le (Nat.le_refl _) (Nat.le_succ _)
    _ = (callOf? s).bind fun call => names.build? call.1
          (.array (call.2.map (walk names (expandCall? names s.toList.length)))) :=
        expandCall?_succ _ s
    _ = (callOf? s).bind fun call =>
          names.build? call.1 (.array (call.2.map (preprocess names))) := by
        cases hcall : callOf? s with
        | none => rfl
        | some call =>
            have harguments : call.2.map (walk names (expandCall? names s.toList.length)) =
                call.2.map (preprocess names) := by
              refine List.map_congr_left fun v hv => (walk_congr rfl fun t ht => ?_).1
              have hshort := within_of_callOf? hcall hv t ht
              exact expandCall?_eq_of_le (by omega) (Nat.le_refl _)
            rw [Option.bind_some, Option.bind_some, harguments]

/-! ### The equations of expanding -/

/-- Parameters in which shorthand is expanded. -/
def readParameters (names : Names) (v : Json) : Json :=
  walkParameters names (expandString? names) v

/-- A property of a node in which shorthand is expanded. -/
def readProperty (names : Names) (key : String) (v : Json) : Json :=
  walkProperty names (expandString? names) key v

theorem preprocess_string (names : Names) (s : String) :
    preprocess names (.string s) = (expandString? names s).getD (.string s) := by
  rw [preprocess, walk]

theorem preprocess_array (names : Names) (items : List Json) :
    preprocess names (.array items) = .array (items.map (preprocess names)) := by
  rw [preprocess, walk, walkItems_eq]
  rfl

theorem preprocess_node {fields : Dict Json} (h : isNode (.object fields) = true) :
    preprocess names (.object fields) =
      .object (fields.map fun e => (e.1, readProperty names e.1 e.2)) :=
  walk_node h

theorem Invokes.build?_readParameters {name : String} {v : Json} {fields : Dict Json}
    (h : Invokes names name v fields) :
    names.build? name (readParameters names v) = some (preprocess names (.object fields)) :=
  h.build?_eq

theorem preprocess_plain {fields : Dict Json} (hnode : isNode (.object fields) = false)
    (hinvokes : ∀ name v, ¬ Invokes names name v fields) :
    preprocess names (.object fields) =
      .object (fields.map fun e => (e.1, preprocess names e.2)) :=
  walk_plain hnode hinvokes

/-- Expanding only depends on what names build. -/
theorem preprocess_congr {names' : Names} (hbuild : names'.build? = names.build?) (v : Json) :
    preprocess names' v = preprocess names v := by
  have hcall : ∀ depth s, expandCall? names depth s = expandCall? names' depth s := by
    intro depth
    induction depth with
    | zero => exact fun _ => rfl
    | succ depth ih =>
        intro s
        rw [expandCall?_succ, expandCall?_succ, hbuild]
        congr 1
        funext call
        have harguments : call.2.map (walk names (expandCall? names depth)) =
            call.2.map (walk names' (expandCall? names' depth)) :=
          List.map_congr_left fun v _ => (walk_congr hbuild fun t _ => ih t).1
        rw [harguments]
  exact (walk_congr hbuild fun s _ => hcall _ s).1.symm

theorem readParameters_object (names : Names) (fields : Dict Json) :
    readParameters names (.object fields) =
      .object (fields.map fun e => (e.1, preprocess names e.2)) :=
  walkParameters_object fields

theorem readParameters_eq_preprocess {v : Json} (h : v.asObject? = none) :
    readParameters names v = preprocess names v :=
  walkParameters_eq_walk h

theorem readProperty_parameters {v : Json} (h : isOperatorNode v = false) :
    readProperty names Key.parameters v = readParameters names v :=
  if_pos ⟨rfl, h⟩

theorem readProperty_of_operator {v : Json} (h : isOperatorNode v = true) (key : String) :
    readProperty names key v = preprocess names v :=
  if_neg fun hand => Bool.false_ne_true (hand.2.symm.trans h)

theorem readProperty_of_ne {key : String} (h : key ≠ Key.parameters) (v : Json) :
    readProperty names key v = preprocess names v :=
  if_neg fun hand => h hand.1

/-! ### Induction -/

section Induction

variable {motive : Json → Prop}

/-- **Induction on elements, entries and arguments.**  What holds of a string if it holds of its
arguments, and of an array and an object if it holds of the elements and the values, holds of every
value. -/
@[elab_as_elim] theorem inductionOnArguments (null : motive .null) (bool : ∀ b, motive (.bool b))
    (number : ∀ n, motive (.number n))
    (string : ∀ s, (∀ name arguments, callOf? s = some (name, arguments) →
      ∀ v ∈ arguments, motive v) → motive (.string s))
    (array : ∀ items, (∀ v ∈ items, motive v) → motive (.array items))
    (object : ∀ fields, (∀ e ∈ fields, motive e.2) → motive (.object fields)) (v : Json) :
    motive v := by
  have hparts : ∀ v, (∀ s, Part (.string s) v → motive (.string s)) → motive v := by
    intro v
    induction v using Json.inductionOnParts with
    | null => exact fun _ => null
    | bool b => exact fun _ => bool b
    | number n => exact fun _ => number n
    | string s => exact fun h => h s .self
    | array items ih => exact fun h => array items fun v hv => ih v hv fun s hs => h s (.item hv hs)
    | object fields ih =>
        exact fun h => object fields fun e he => ih e he fun s hs => h s (.entry he hs)
  have hstrings : ∀ n s, s.toList.length ≤ n → motive (.string s) := by
    intro n
    induction n with
    | zero =>
        intro s hs
        refine string s fun name arguments hcall => ?_
        rw [callOf?_of_length_zero (Nat.le_zero.mp hs)] at hcall
        cases hcall
    | succ n ih =>
        intro s hs
        refine string s fun name arguments hcall v hv => hparts v fun t ht => ih t ?_
        have hshort := within_of_callOf? hcall hv t ht
        omega
  exact hparts v fun s _ => hstrings _ s (Nat.le_refl _)

end Induction

end JsonExpr.Shorthand
