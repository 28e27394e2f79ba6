import JsonExpr.Proofs.Shorthand.Expansion

/-!
# How much shorthand expands to

The arguments of a call string are read from its text, and the call strings in them are expanded in
turn, so an expression may become many nodes.  But a call string pays for its node: the name, the
dollar sign and the brackets are at least as many characters as the node has values besides its
arguments, and the arguments take their room out of the text between the brackets.  An argument
without text is a value nevertheless; the comma next to it pays for that, and where there is no
comma left, the bracket does.  So nothing is left over, and calls in the arguments of calls come out
even.

Main definitions:

* `JsonExpr.Shorthand.Visits` — the values to which expanding a value leads.

Main results:

* `JsonExpr.Shorthand.acc_visits` — expanding leads to no endless chain of values;
* `JsonExpr.Shorthand.walk_expandCall?_eq_preprocess` — expanding ends before the depth that its
  definition allows;
* `JsonExpr.Shorthand.count_preprocess_le_room` — an expanded value takes the room of its shorthand;
* `JsonExpr.Shorthand.expansion_ends_and_stays_small` — **expanding ends, and there are no more
  values afterwards than the text had characters**.
-/

set_option autoImplicit false

namespace JsonExpr.Shorthand

open Json (count room Part)

variable {names : Names}

/-! ### Expanding ends -/

/-- Expanding `v` leads to expanding `u`: an element, the value of an entry, or an argument of a
call string. -/
inductive Visits : Json → Json → Prop where
  | item {items : List Json} {v : Json} : v ∈ items → Visits v (.array items)
  | entry {fields : Dict Json} {e : String × Json} : e ∈ fields → Visits e.2 (.object fields)
  | argument {s name : String} {arguments : List Json} {v : Json} :
      callOf? s = some (name, arguments) → v ∈ arguments → Visits v (.string s)

/-- No chain of values to which expanding leads is endless. -/
theorem acc_visits (v : Json) : Acc Visits v := by
  induction v using inductionOnArguments with
  | string s ih =>
      refine .intro _ fun u hu => ?_
      cases hu with
      | argument hcall hmem => exact ih _ _ hcall u hmem
  | array items ih =>
      refine .intro _ fun u hu => ?_
      cases hu with
      | item hmem => exact ih u hmem
  | object fields ih =>
      refine .intro _ fun u hu => ?_
      cases hu with
      | entry hmem => exact ih _ hmem
  | _ => exact .intro _ fun u hu => nomatch hu

/-- Any depth will do that is not below the room of the value. -/
theorem walk_expandCall?_eq_preprocess (names : Names) {v : Json} {depth : Nat}
    (h : room v ≤ depth) : walk names (expandCall? names depth) v = preprocess names v := by
  refine (walk_congr rfl fun s hs => ?_).1
  have hshort := Json.within_room v s hs
  exact expandCall?_eq_of_le (by omega) (Nat.le_refl _)

/-! ### What a name adds -/

/-- Properties written behind the one that names the operator or the fragment. -/
theorem count_extend_le (key name : String) (fields : Dict Json) :
    count (.object (Dict.extend [(key, .string name)] fields)) ≤ 1 + count (.object fields) := by
  have hsum := Dict.sum_extend_le (fun e : String × Json => count e.2) [(key, .string name)] fields
  rw [List.map_singleton, List.sum_singleton, Json.count_string] at hsum
  rw [Json.count_object, Json.count_object]
  omega

theorem count_pair (key name key' : String) (v : Json) :
    count (.object [(key, .string name), (key', v)]) = 2 + count v := by
  rw [Json.count_object, List.map_cons, List.map_singleton, List.sum_cons, List.sum_singleton,
    Json.count_string, ← Nat.add_assoc]

/-- An operator node has at most three values more than its parameters: itself, its name and an
array of children; an array is there already if the parameters are one. -/
theorem count_operatorFields_le (k : OperatorKind) (parameters : Json) :
    count (.object (Names.operatorFields k parameters)) ≤
      (if parameters.isArray then 2 else 3) + count parameters := by
  cases parameters with
  | object fields =>
      have hle := count_extend_le Key.operator k.name fields
      have hextra : 1 ≤ if (Json.object fields).isArray then 2 else 3 := by split <;> omega
      exact Nat.le_trans hle (Nat.add_le_add_right hextra _)
  | array items => exact Nat.le_of_eq (count_pair _ _ _ _)
  | _ =>
      change count (.object [(_, .string _), (_, .array [_])]) ≤ 3 + _
      rw [count_pair, Json.count_array, List.map_singleton, List.sum_singleton, ← Nat.add_assoc]

/-- A fragment node has itself and its name besides its parameters. -/
theorem count_fragmentFields_le (name : String) (parameters : Json) :
    count (.object (Names.fragmentFields name parameters)) ≤ 2 + count parameters := by
  cases parameters with
  | object fields =>
      have hle := count_extend_le Key.fragment name fields
      exact Nat.le_trans hle (Nat.add_le_add_right (Nat.le_succ 1) _)
  | _ => exact Nat.le_add_right 2 _

theorem count_build?_le {name : String} {parameters node : Json}
    (h : names.build? name parameters = some node) :
    count node ≤ (if parameters.isArray then 2 else 3) + count parameters := by
  unfold Names.build? at h
  split at h
  · cases h
    exact count_operatorFields_le _ parameters
  · split at h
    · cases h
      refine Nat.le_trans (count_fragmentFields_le name parameters) (Nat.add_le_add_right ?_ _)
      split <;> omega
    · cases h

/-! ### Expanding takes the room of the shorthand -/

/-- A call string has room for the node that it stands for, if its arguments have. -/
theorem count_expandString?_le {s : String} {node : Json}
    (h : expandString? names s = some node)
    (harguments : ∀ name arguments, callOf? s = some (name, arguments) →
      ∀ v ∈ arguments, count (preprocess names v) ≤ room v) :
    count node ≤ s.toList.length := by
  rw [expandString?_eq] at h
  obtain ⟨⟨name, arguments⟩, hcall, hbuild⟩ := Option.bind_eq_some_iff.mp h
  have hnode := count_build?_le hbuild
  have hroom := sum_room_of_callOf? hcall
  have hsum : ((arguments.map (preprocess names)).map count).sum ≤ (arguments.map room).sum := by
    rw [List.map_map]
    exact List.sum_le_sum (harguments name arguments hcall)
  have harray : (Json.array (arguments.map (preprocess names))).isArray = true := rfl
  rw [if_pos harray, Json.count_array] at hnode
  dsimp only at hnode
  omega

/-- Entries that are read one by one take the room of the entries. -/
theorem count_map_le {fields : Dict Json} {f : String → Json → Json}
    (h : ∀ e ∈ fields, count (f e.1 e.2) ≤ room e.2) :
    count (.object (fields.map fun e => (e.1, f e.1 e.2))) ≤ room (.object fields) := by
  have hsum : (fields.map fun e => count (f e.1 e.2)).sum ≤
      (fields.map fun e => room e.2 + 2).sum :=
    List.sum_le_sum fun e he => Nat.le_add_right_of_le (h e he)
  rw [Json.count_object, Json.room_object, List.map_map]
  exact Nat.add_le_add_left hsum 1

/-- An invocation has room for the node that it stands for, if its parameters have. -/
theorem count_invocation_le {name : String} {v : Json} {fields : Dict Json}
    (h : Invokes names name v fields) (hv : count (readParameters names v) ≤ room v) :
    count (preprocess names (.object fields)) ≤ room (.object fields) := by
  have hnode := count_build?_le h.build?_readParameters
  cases h with
  | known _ =>
      rw [Json.room_object, List.map_singleton, List.sum_singleton]
      dsimp only
      split at hnode <;> omega

/-- **An expanded value takes the room of its shorthand**, read as an expression or as
parameters. -/
theorem count_preprocess_le_room (names : Names) (v : Json) :
    count (preprocess names v) ≤ room v ∧ count (readParameters names v) ≤ room v := by
  induction v using inductionOnArguments with
  | null => exact ⟨Nat.le_refl _, Nat.le_refl _⟩
  | bool b => exact ⟨Nat.le_refl _, Nat.le_refl _⟩
  | number n => exact ⟨Nat.le_refl _, Nat.le_refl _⟩
  | string s ih =>
      have hexpression : count (preprocess names (.string s)) ≤ room (.string s) := by
        rw [preprocess_string, Json.room_string]
        cases hexpanded : expandString? names s with
        | none => exact Nat.le_max_left _ _
        | some node =>
            have hle := count_expandString?_le hexpanded fun name arguments hcall v hv =>
              (ih name arguments hcall v hv).1
            exact Nat.le_trans hle (Nat.le_max_right _ _)
      exact ⟨hexpression, by rwa [readParameters_eq_preprocess rfl]⟩
  | array items ih =>
      have hexpression : count (preprocess names (.array items)) ≤ room (.array items) := by
        rw [preprocess_array, Json.count_array, Json.room_array, List.map_map]
        exact Nat.add_le_add_left (List.sum_le_sum fun v hv => (ih v hv).1) 1
      exact ⟨hexpression, by rwa [readParameters_eq_preprocess rfl]⟩
  | object fields ih =>
      have hvalues : count (.object (fields.map fun e => (e.1, preprocess names e.2))) ≤
          room (.object fields) :=
        count_map_le (f := fun _ => preprocess names) fun e he => (ih e he).1
      refine ⟨?_, by rwa [readParameters_object]⟩
      cases hnode : isNode (.object fields) with
      | true =>
          rw [preprocess_node hnode]
          refine count_map_le (f := readProperty names) fun e he => ?_
          rw [readProperty, walkProperty]
          split
          · exact (ih e he).2
          · exact (ih e he).1
      | false =>
          by_cases hinvokes : ∃ name v, Invokes names name v fields
          · obtain ⟨name, v, hinvokes⟩ := hinvokes
            refine count_invocation_le hinvokes ?_
            cases hinvokes with
            | known _ => exact (ih _ List.mem_cons_self).2
          · simp only [not_exists] at hinvokes
            rwa [preprocess_plain hnode hinvokes]

/-- **Expanding shorthand ends, and it does not blow up.**  Expanding a value leads to no endless
chain of values, and with any depth from the length of its text on, the definition comes to the same
expanded value.  That has at most as many values as the text has characters: arrays, objects,
strings, numbers and the like, in any depth, but not keys; however calls nest in the arguments of
calls, in the strings of arguments that are JSON, and in quotes. -/
theorem expansion_ends_and_stays_small (names : Names) (v : Json) :
    Acc Visits v ∧
      (∀ more, walk names (expandCall? names ((Json.compact v).length + more)) v =
        preprocess names v) ∧
      count (preprocess names v) ≤ (Json.compact v).length := by
  have hroom : room v ≤ (Json.compact v).length := by
    rw [Json.compact, String.length_ofList]
    exact Json.room_le_length_render v
  refine ⟨acc_visits v, fun more => ?_, Nat.le_trans (count_preprocess_le_room names v).1 hroom⟩
  exact walk_expandCall?_eq_preprocess names (Nat.le_add_right_of_le hroom)

end JsonExpr.Shorthand
