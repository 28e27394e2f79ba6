import JsonExpr.Proofs.Evaluation.Operands
import JsonExpr.Proofs.Evaluation.Written
import JsonExpr.Proofs.Merging
import JsonExpr.Proofs.Registry

/-!
# Sums of sums

How a sum puts values together is decided for the list as a whole, so in general it makes a
difference where a list is cut in two.  It makes none for values of one kind: what comes of each part
is of the same kind again.  The same is true of any values if texts or arrays are asked for.
Merged objects have their keys in the order in which they are first there, with the values that are
last there, and so do objects that are merged from merged ones.

Main definitions:

* `JsonExpr.Arithmetic.OneKind` — values of one kind, or taken for such;
* `JsonExpr.Arithmetic.SumsTo` — what the sum of such values is;
* `JsonExpr.Arithmetic.SumRule` — a rule for it, and the values that it is for;
* `JsonExpr.Evaluation.IsSum` — a node that adds values.

Main results:

* `JsonExpr.Arithmetic.sumsTo_sum` — the sum of values of one kind is what it should be;
* `JsonExpr.Arithmetic.sum_append` — the sum of two lists one after the other is that of their sums;
* `JsonExpr.Evaluation.IsSum.eval_eq` — what a node comes to that adds values;
* `JsonExpr.sums_are_associative` — **a sum of values of one kind is the sum of its parts**.
-/

set_option autoImplicit false

namespace JsonExpr

namespace Arithmetic

variable {kind : Option String} {values xs ys : List Json}

/-! ### Values of one kind -/

/-- Values that are put together by one rule: strings, arrays or objects, or any values if texts or
arrays are asked for. -/
inductive OneKind : Option String → List Json → Prop
  | texts {values : List Json} : (∀ v ∈ values, v.isString = true) → OneKind none values
  | arrays {values : List Json} : (∀ v ∈ values, v.isArray = true) → OneKind none values
  | objects {values : List Json} : (∀ v ∈ values, v.isObject = true) → OneKind none values
  | asTexts (values : List Json) : OneKind (some "string") values
  | asArrays (values : List Json) : OneKind (some "array") values

/-- The elements that a value adds to an array. -/
def elements : Json → List Json
  | .array items => items
  | v => [v]

/-- The entries that a value adds to an object. -/
def entries (v : Json) : Dict Json := v.asObject?.getD []

/-- What the sum of values of one kind is. -/
inductive SumsTo : Option String → List Json → Json → Prop
  | texts {values : List Json} : (∀ v ∈ values, v.isString = true) →
      SumsTo none values (.string (String.join (values.map Json.toText)))
  | arrays {values : List Json} : (∀ v ∈ values, v.isArray = true) →
      SumsTo none values (.array (values.flatMap elements))
  | objects {values : List Json} {merged : Dict Json} : (∀ v ∈ values, v.isObject = true) →
      Dict.keys merged = (Dict.keys (values.flatMap entries)).eraseDups →
      (∀ key, Dict.get? merged key = Dict.get? (values.flatMap entries).reverse key) →
      SumsTo none values (.object merged)
  | asTexts (values : List Json) :
      SumsTo (some "string") values (.string (String.join (values.map Json.toText)))
  | asArrays (values : List Json) :
      SumsTo (some "array") values (.array (values.flatMap elements))

/-! ### The rules -/

theorem concatArray_eq (values : List Json) :
    concatArray values = .array (values.flatMap elements) := by
  unfold concatArray
  congr 2

theorem mergeObjects_eq (values : List Json) :
    mergeObjects values = .object (Dict.ofPairs (values.flatMap entries)) := by
  rw [mergeObjects, Dict.ofPairs, Dict.extend, List.foldl_flatMap]
  rfl

theorem concatText_append (xs ys : List Json) :
    concatText [concatText xs, concatText ys] = concatText (xs ++ ys) := by
  simp [concatText, Json.toText, String.join_append, String.join_cons, String.join_nil]

theorem concatArray_append (xs ys : List Json) :
    concatArray [concatArray xs, concatArray ys] = concatArray (xs ++ ys) := by
  simp [concatArray_eq, elements]

theorem mergeObjects_append (xs ys : List Json) :
    mergeObjects [mergeObjects xs, mergeObjects ys] = mergeObjects (xs ++ ys) := by
  have happend : ∀ pairs newer : List (String × Json),
      Dict.ofPairs (pairs ++ newer) = Dict.extend (Dict.ofPairs pairs) newer :=
    fun _ _ => List.foldl_append
  have hnil : Dict.KeysNodup ([] : Dict Json) := List.nodup_nil
  have hself : ∀ pairs : List (String × Json),
      Dict.ofPairs (Dict.ofPairs pairs) = Dict.ofPairs pairs :=
    fun pairs => Dict.ofPairs_eq_self (Dict.keysNodup_extend hnil pairs)
  have hparts : [mergeObjects xs, mergeObjects ys].flatMap entries =
      Dict.ofPairs (xs.flatMap entries) ++ Dict.ofPairs (ys.flatMap entries) := by
    simp [mergeObjects_eq, entries, Json.asObject?]
  rw [mergeObjects_eq [_, _], hparts, happend, hself, mergeObjects_eq, List.flatMap_append, happend]
  exact congrArg Json.object (Dict.extend_assoc hnil _ _).symm

/-! ### Which rule is used -/

theorem sum_of_ne_nil (hne : values ≠ []) : sum kind values = combine kind values :=
  if_neg (mt List.isEmpty_iff.mp hne)

theorem sum_asTexts (hne : values ≠ []) : sum (some "string") values = concatText values :=
  sum_of_ne_nil hne

theorem sum_asArrays (hne : values ≠ []) : sum (some "array") values = concatArray values :=
  sum_of_ne_nil hne

theorem sum_texts (hne : values ≠ []) (h : ∀ v ∈ values, v.isString = true) :
    sum none values = concatText values := by
  have hall : (values.all fun v => v.isString || v.isArray) = true :=
    List.all_eq_true.mpr fun v hv => by rw [h v hv, Bool.true_or]
  obtain ⟨first, rest, rfl⟩ := List.exists_cons_of_ne_nil hne
  obtain ⟨s, rfl⟩ := Json.eq_string_of_isString (h first List.mem_cons_self)
  rw [sum_of_ne_nil hne]
  unfold combine
  rw [if_neg (by decide), if_neg (by decide), if_pos hall]

theorem sum_arrays (hne : values ≠ []) (h : ∀ v ∈ values, v.isArray = true) :
    sum none values = concatArray values := by
  have hall : (values.all fun v => v.isString || v.isArray) = true :=
    List.all_eq_true.mpr fun v hv => by rw [h v hv, Bool.or_true]
  obtain ⟨first, rest, rfl⟩ := List.exists_cons_of_ne_nil hne
  obtain ⟨items, rfl⟩ := Json.eq_array_of_isArray (h first List.mem_cons_self)
  rw [sum_of_ne_nil hne]
  unfold combine
  rw [if_neg (by decide), if_neg (by decide), if_pos hall]

theorem sum_objects (hne : values ≠ []) (h : ∀ v ∈ values, v.isObject = true) :
    sum none values = mergeObjects values := by
  have hall : ¬ (values.all fun v => v.isString || v.isArray) = true := by
    obtain ⟨first, rest, rfl⟩ := List.exists_cons_of_ne_nil hne
    obtain ⟨fields, rfl⟩ := Json.eq_object_of_isObject (h first List.mem_cons_self)
    exact Bool.false_ne_true
  rw [sum_of_ne_nil hne]
  unfold combine
  rw [if_neg (by decide), if_neg (by decide), if_neg hall, if_pos (List.all_eq_true.mpr h)]

/-- The sum of values of one kind is what it should be. -/
theorem sumsTo_sum (hne : values ≠ []) (h : OneKind kind values) :
    SumsTo kind values (sum kind values) := by
  cases h with
  | texts h =>
      rw [sum_texts hne h]
      exact .texts h
  | arrays h =>
      rw [sum_arrays hne h, concatArray_eq]
      exact .arrays h
  | objects h =>
      rw [sum_objects hne h, mergeObjects_eq]
      refine .objects h (Dict.keys_ofPairs _) fun key => ?_
      rw [Dict.ofPairs, Dict.get?_extend]
      exact Option.or_none
  | asTexts =>
      rw [sum_asTexts hne]
      exact .asTexts values
  | asArrays =>
      rw [sum_asArrays hne, concatArray_eq]
      exact .asArrays values

/-- A rule for the sum of values that are all of one kind.  It gives such a value again, and it does
not matter where a list of them is cut in two. -/
structure SumRule (kind : Option String) (rule : List Json → Json) (P : Json → Prop) : Prop where
  sum_eq : ∀ {values}, values ≠ [] → (∀ v ∈ values, P v) → sum kind values = rule values
  oneKind : ∀ {values}, (∀ v ∈ values, P v) → OneKind kind values
  closed : ∀ values, P (rule values)
  append : ∀ xs ys, rule [rule xs, rule ys] = rule (xs ++ ys)

theorem OneKind.exists_rule (h : OneKind kind values) :
    ∃ rule P, SumRule kind rule P ∧ ∀ v ∈ values, P v := by
  cases h with
  | texts h =>
      exact ⟨_, _, ⟨sum_texts, .texts, fun _ => rfl, concatText_append⟩, h⟩
  | arrays h =>
      exact ⟨_, _, ⟨sum_arrays, .arrays, fun _ => rfl, concatArray_append⟩, h⟩
  | objects h =>
      exact ⟨_, _, ⟨sum_objects, .objects, fun _ => rfl, mergeObjects_append⟩, h⟩
  | asTexts =>
      exact ⟨_, fun _ => True, ⟨fun hne _ => sum_asTexts hne, fun _ => .asTexts _,
        fun _ => trivial, concatText_append⟩, fun _ _ => trivial⟩
  | asArrays =>
      exact ⟨_, fun _ => True, ⟨fun hne _ => sum_asArrays hne, fun _ => .asArrays _,
        fun _ => trivial, concatArray_append⟩, fun _ _ => trivial⟩

namespace SumRule

variable {rule : List Json → Json} {P : Json → Prop}

theorem sum_closed (R : SumRule kind rule P) (hne : values ≠ []) (h : ∀ v ∈ values, P v) :
    P (sum kind values) := by
  rw [R.sum_eq hne h]
  exact R.closed values

theorem forall_mem_sums (R : SumRule kind rule P) (hxs : xs ≠ []) (hys : ys ≠ [])
    (h : ∀ v ∈ xs ++ ys, P v) : ∀ v ∈ [sum kind xs, sum kind ys], P v := by
  obtain ⟨hx, hy⟩ := List.forall_mem_append.mp h
  exact List.forall_mem_cons.mpr
    ⟨R.sum_closed hxs hx, List.forall_mem_singleton.mpr (R.sum_closed hys hy)⟩

end SumRule

/-- The parts of a list, and their sums, are of the kind of the list. -/
theorem OneKind.parts (hxs : xs ≠ []) (hys : ys ≠ []) (h : OneKind kind (xs ++ ys)) :
    OneKind kind xs ∧ OneKind kind ys ∧ OneKind kind [sum kind xs, sum kind ys] := by
  obtain ⟨rule, P, R, hall⟩ := h.exists_rule
  obtain ⟨hx, hy⟩ := List.forall_mem_append.mp hall
  exact ⟨R.oneKind hx, R.oneKind hy, R.oneKind (R.forall_mem_sums hxs hys hall)⟩

/-- **The sum of two lists one after the other is the sum of their sums**, for values of one
kind. -/
theorem sum_append (hxs : xs ≠ []) (hys : ys ≠ []) (h : OneKind kind (xs ++ ys)) :
    sum kind [sum kind xs, sum kind ys] = sum kind (xs ++ ys) := by
  obtain ⟨rule, P, R, hall⟩ := h.exists_rule
  obtain ⟨hx, hy⟩ := List.forall_mem_append.mp hall
  calc sum kind [sum kind xs, sum kind ys]
      = rule [sum kind xs, sum kind ys] :=
        R.sum_eq (List.cons_ne_nil _ _) (R.forall_mem_sums hxs hys hall)
    _ = rule [rule xs, rule ys] := by rw [R.sum_eq hxs hx, R.sum_eq hys hy]
    _ = rule (xs ++ ys) := R.append xs ys
    _ = sum kind (xs ++ ys) := (R.sum_eq (List.append_ne_nil_of_left_ne_nil hxs ys) hall).symm

/-- A text among arrays is an element, but a text before an array takes it in. -/
example :
    sum none [.array [.string "a"], .string "b", .array [.string "c"]] =
      .array [.string "a", .string "b", .string "c"] ∧
    sum none [.array [.string "a"], sum none [.string "b", .array [.string "c"]]] =
      .array [.string "a", .string "bc"] :=
  ⟨rfl, by cbv⟩

/-- A kind that is asked for is a conversion that leaves the sum as it is. -/
theorem apply_sum (hne : values ≠ []) {name : String} (h : OneKind (some name) values) :
    ∃ type, OutputType.ofName? name = some type ∧
      type.apply (sum (some name) values) = sum (some name) values := by
  cases h with
  | asTexts =>
      rw [sum_asTexts hne]
      exact ⟨.string, rfl, rfl⟩
  | asArrays =>
      rw [sum_asArrays hne]
      exact ⟨.array, rfl, rfl⟩

end Arithmetic

/-! ### Nodes -/

namespace Evaluation

open Arithmetic (OneKind)

/-- A node that adds values, under either name of their list, and that may ask for texts or
arrays. -/
def IsSum (env : Env) (kind : Option String) (values : List Json) (node : Dict Json) : Prop :=
  ∃ name list, env.registry.resolve? name = some .plus ∧ (list = "values" ∨ list = Key.children) ∧
    node = withList (withSetting name Key.type (kind.map Json.string)) list (.array values)

theorem isSetting_type : IsSetting .plus Key.type :=
  ⟨rfl, by decide, by decide, by decide, by decide⟩

section Sums

variable {env : Env} {kind : Option String} {items values : List Json} {node : Dict Json}
  {name list : String} {depth : Nat} {w w₁ : World}

theorem plainText_kind (h : OneKind kind values) : ∀ s ∈ kind, PlainText env s := by
  cases h with
  | asTexts => exact fun _ hs => Option.mem_some.mp hs ▸ ⟨by decide, fun _ => by decide⟩
  | asArrays => exact fun _ hs => Option.mem_some.mp hs ▸ ⟨by decide, fun _ => by decide⟩
  | _ => exact fun _ hs => nomatch hs

theorem checkOperands_sum (values : List Json) (kind : Option String) :
    env.checkOperands .plus [("values", some (.array values)), ("type", kind.map Json.string)] =
      .ok () := by
  unfold Env.checkOperands Env.check
  split
  · rfl
  · cases kind <;> rfl

theorem conversionOf_sum (hlist : list = "values" ∨ list = Key.children) :
    conversionOf (withList (withSetting name Key.type (kind.map Json.string)) list (.array items)) =
      kind.map Json.string := by
  rcases hlist with rfl | rfl <;> cases kind <;> rfl

/-- The conversion that is asked for with a kind leaves the sum as it is. -/
theorem convert_sum {k : OperatorKind} {fallback : Option Json} (hne : values ≠ [])
    (h : OneKind kind values) (hconversion : conversionOf node = kind.map Json.string) :
    convert env (eval env (depth + 1)) k node fallback (Arithmetic.sum kind values) w =
      (some (.ok (Arithmetic.sum kind values)), w) := by
  cases hkind : kind with
  | none =>
      rw [hkind] at hconversion
      rw [convert, hconversion]
      rfl
  | some name =>
      rw [hkind] at h hconversion
      have hplain : PlainText env name := plainText_kind h name rfl
      obtain ⟨type, htype, happly⟩ := Arithmetic.apply_sum hne h
      rw [convert_of_name hconversion (hplain.eval_eq depth w) htype, happly]

/-- A node whose list comes to values of one kind comes to their sum. -/
theorem IsSum.eval_eq (hsum : IsSum env kind items node) (hne : values ≠ [])
    (h : OneKind kind values)
    (hitems : eval env (depth + 1) (.array items) w = (some (.ok (.array values)), w₁)) :
    eval env (depth + 2) (.object node) w = (some (.ok (Arithmetic.sum kind values)), w₁) := by
  obtain ⟨name, list, known, hlist, rfl⟩ := hsum
  have hoperands : [("values", some (.array values)), ("type", kind.map Json.string)] =
      ("values", some (.array values)) :: ["type"].map fun name =>
        (name, Dict.get? (optionalField Key.type (kind.map Json.string)) name) := by
    cases kind <;> rfl
  have hchecked : env.checkOperands .plus
      [("values", some (.array values)), ("type", kind.map Json.string)] = .ok () :=
    checkOperands_sum values kind
  have hliteral : ∀ e ∈ kind.map Json.string,
      eval env (depth + 1) e w₁ = (some (.ok e), w₁) := fun e he => by
    obtain ⟨s, hs, rfl⟩ := Option.map_eq_some_iff.mp he
    exact (plainText_kind h s hs).eval_eq depth w₁
  rw [hoperands] at hchecked
  have hreaches := isSetting_type.reachesOperands (by decide) hlist known hitems hliteral hchecked
  rw [← hoperands] at hreaches
  have hop : OperatorKind.plus.operation = .strict .plus := rfl
  have hsum : StrictOperator.plus.compute env.options
      [("values", some (.array values)), ("type", kind.map Json.string)] =
        .ok (Arithmetic.sum kind values) := by
    cases kind <;> rfl
  have hrun := hreaches.eval_eq (by decide) (fun _ _ => hreaches.compute_strict hop hsum)
    (convert_sum hne h (conversionOf_sum hlist))
  rwa [isSetting_type.ofNode_eq hlist known] at hrun

end Sums

end Evaluation

open Arithmetic Evaluation in
/-- **A sum of values of one kind is the sum of its parts.**  The values are literals, all of them
strings, arrays or objects, or whatever they are if each of the nodes asks for texts or for arrays.
However they are cut into two lists, a node with all of them comes to the same value as a node with
two nodes, one for each list: the texts or the elements one after the other, or the object with the
keys where they are first there, and the values that are last there. -/
theorem sums_are_associative {env : Env} {kind : Option String} {xs ys : List Json} {w : World}
    (hxs : xs ≠ []) (hys : ys ≠ []) (hkind : OneKind kind (xs ++ ys))
    (hvalues : ∀ v ∈ xs ++ ys, SelfEvaluating env w.names v) :
    SumsTo kind (xs ++ ys) (sum kind (xs ++ ys)) ∧
    sum kind [sum kind xs, sum kind ys] = sum kind (xs ++ ys) ∧
    ∀ whole first second sums : Dict Json,
      IsSum env kind (xs ++ ys) whole → IsSum env kind xs first → IsSum env kind ys second →
      IsSum env kind [.object first, .object second] sums →
      ∃ enough, ∀ depth, enough ≤ depth →
        eval env depth (.object whole) w = (some (.ok (sum kind (xs ++ ys))), w) ∧
        eval env depth (.object first) w = (some (.ok (sum kind xs)), w) ∧
        eval env depth (.object second) w = (some (.ok (sum kind ys)), w) ∧
        eval env depth (.object sums) w = (some (.ok (sum kind (xs ++ ys))), w) := by
  have hne : xs ++ ys ≠ [] := List.append_ne_nil_of_left_ne_nil hxs ys
  obtain ⟨hkindxs, hkindys, hkindsums⟩ := hkind.parts hxs hys
  refine ⟨sumsTo_sum hne hkind, sum_append hxs hys hkind,
    fun whole first second sums hwhole hfirst hsecond hsums => ?_⟩
  obtain ⟨n, hn⟩ := exists_forall_of_forall_exists
    (P := fun n v => eval env n v w = (some (.ok v), w))
    (fun hle hv => eval_mono hle _ w _ _ hv) fun v hv => (hvalues v hv).imp fun _ h => h w rfl
  have hlist : ∀ values, (∀ v ∈ values, v ∈ xs ++ ys) →
      eval env (n + 1) (.array values) w = (some (.ok (.array values)), w) :=
    fun values hmem => eval_array fun v hv => hn v (hmem v hv)
  have hrun := hwhole.eval_eq hne hkind (hlist _ fun _ hv => hv)
  have hrunxs := hfirst.eval_eq hxs hkindxs (hlist _ fun _ hv => List.mem_append_left ys hv)
  have hrunys := hsecond.eval_eq hys hkindys (hlist _ fun _ hv => List.mem_append_right xs hv)
  have hpair : eval env (n + 3) (.array [.object first, .object second]) w =
      (some (.ok (.array [sum kind xs, sum kind ys])), w) :=
    eval_items (.cons hrunxs (.cons hrunys .nil))
  have hrunsums := hsums.eval_eq (List.cons_ne_nil _ _) hkindsums hpair
  rw [sum_append hxs hys hkind] at hrunsums
  exact ⟨n + 4, fun depth hdepth => ⟨eval_mono (by omega) _ w _ _ hrun,
    eval_mono (by omega) _ w _ _ hrunxs, eval_mono (by omega) _ w _ _ hrunys,
    eval_mono hdepth _ w _ _ hrunsums⟩⟩

open Evaluation in
/-- A key that is overridden keeps its place, in one sum and in a sum of sums, whatever names and
lists the nodes have. -/
theorem overridden_key_keeps_its_place :
    let env : Env := ⟨Options.empty, Registry.full⟩
    let w : World := ⟨[], ResultCache.empty 0, []⟩
    let ab : Json := .object [("a", Json.int 1), ("b", Json.int 2)]
    let ca : Json := .object [("c", Json.int 3), ("a", Json.int 4)]
    let whole := withList (withSetting "PLUS" Key.type none) "values" (.array [ab, ca])
    let first := withList (withSetting "merge" Key.type none) Key.children (.array [ab])
    let second := withList (withSetting "+" Key.type none) "values" (.array [ca])
    let sums := withList (withSetting "PLUS" Key.type none) Key.children
      (.array [.object first, .object second])
    let merged : Json := .object [("a", Json.int 4), ("b", Json.int 2), ("c", Json.int 3)]
    ∃ enough, ∀ depth, enough ≤ depth →
      eval env depth (.object whole) w = (some (.ok merged), w) ∧
      eval env depth (.object sums) w = (some (.ok merged), w) := by
  intro env w ab ca whole first second sums merged
  have hplus : env.registry.resolve? "PLUS" = some .plus := Registry.resolve?_name .plus
  have hmerge : env.registry.resolve? "merge" = some .plus :=
    Registry.resolve?_full ⟨"merge", by decide, rfl⟩
  have hsign : env.registry.resolve? "+" = some .plus :=
    Registry.resolve?_full ⟨"+", by decide, rfl⟩
  have hkind : Arithmetic.OneKind none ([ab] ++ [ca]) :=
    .objects (List.forall_mem_cons.mpr ⟨rfl, List.forall_mem_singleton.mpr rfl⟩)
  have hvalues : ∀ v ∈ [ab] ++ [ca], SelfEvaluating env w.names v :=
    List.forall_mem_cons.mpr
      ⟨⟨2, fun _ _ => rfl⟩, List.forall_mem_singleton.mpr ⟨2, fun _ _ => rfl⟩⟩
  have hmerged : Arithmetic.sum none ([ab] ++ [ca]) = merged := rfl
  obtain ⟨-, -, hnodes⟩ := sums_are_associative (List.cons_ne_nil ab [])
    (List.cons_ne_nil ca []) hkind hvalues
  obtain ⟨enough, henough⟩ := hnodes whole first second sums
    ⟨"PLUS", "values", hplus, .inl rfl, rfl⟩ ⟨"merge", Key.children, hmerge, .inr rfl, rfl⟩
    ⟨"+", "values", hsign, .inl rfl, rfl⟩ ⟨"PLUS", Key.children, hplus, .inr rfl, rfl⟩
  refine ⟨enough, fun depth hdepth => ?_⟩
  obtain ⟨hwhole, -, -, hsums⟩ := henough depth hdepth
  rw [hmerged] at hwhole hsums
  exact ⟨hwhole, hsums⟩

end JsonExpr
