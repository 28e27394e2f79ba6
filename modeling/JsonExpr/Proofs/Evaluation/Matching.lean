import JsonExpr.Proofs.Evaluation.Replacement

/-!
# The forms of a match

The branches of a match may be written as an object, as a list of entries, as children, or as the
properties of the node itself.  An object is asked for the text of the value, and so are the
properties; a list is gone through, and every key is evaluated until one is equal to the value.  If
the keys are different and evaluate to themselves, without asking anything, a value that is a string
selects the same branch each time.  Only the scope may differ: a key in a list may be a bound name,
and what it refers to is then known before the branch is evaluated.

Main definitions:

* `JsonExpr.BranchForm` — the four forms;
* `JsonExpr.Evaluation.TakesBranches`, `JsonExpr.Evaluation.withBranches` — the node of a match
  without expression and branches, and with them;
* `JsonExpr.Evaluation.choose` — the branch of a string, evaluated.

Main results:

* `JsonExpr.Evaluation.operatorBody_withBranches` — each form selects among its branches;
* `JsonExpr.Evaluation.select_mirrors` — all of them select the branch of the key;
* `JsonExpr.forms_of_match_agree` — **the forms of a match have the same outcomes**.
-/

set_option autoImplicit false

namespace JsonExpr

/-! ### Forms -/

/-- The ways to write the branches of a match. -/
inductive BranchForm where
  /-- An object with the branches at their keys. -/
  | object
  /-- A list of entries with a key and a branch. -/
  | array
  /-- Keys and branches in turn, after the expression. -/
  | children
  /-- Properties of the node itself. -/
  | properties

/-- Keys of branches are different, and an object with them is no node. -/
structure DifferentKeys (branches : Dict Json) : Prop where
  nodup : Dict.KeysNodup branches
  plain : ∀ key ∈ Dict.keys branches, key ≠ Key.operator ∧ key ≠ Key.fragment

namespace BranchForm

/-- A branch as an entry of a list. -/
def entry (e : String × Json) : Json := .object [("match", .string e.1), ("value", e.2)]

/-- What is written into a node for an expression and branches. -/
def written (m : Json) (branches : Dict Json) : BranchForm → Dict Json
  | object => [("matchExpression", m), ("branches", .object branches)]
  | array => [("matchExpression", m), ("branches", .array (branches.map entry))]
  | children => [(Key.children, .array (m :: branches.flatMap fun e => [.string e.1, e.2]))]
  | properties => ("matchExpression", m) :: branches

/-- The branches that the operator selects from. -/
def given (branches : Dict Json) : BranchForm → Json
  | object | properties => .object branches
  | array | children => .array (branches.map entry)

/-- Branches can be properties of a node if every node reads their keys as such, and the operator
does not use them for something else. -/
def Fits (branches : Dict Json) : BranchForm → Prop
  | properties => ∀ key ∈ Dict.keys branches, isReserved key = false ∧
      key ∉ ["matchExpression", "match", "branches", "arms", "type", "useCache"]
  | _ => True

variable {m : Json} {branches : Dict Json} {form : BranchForm} {key : String}

/-- The keys that are written are not read by every node, but for the children. -/
theorem key_of_written (different : DifferentKeys branches) (fits : form.Fits branches)
    (h : key ∈ Dict.keys (form.written m branches)) :
    key ≠ Key.fragment ∧ key ≠ Key.type ∧
      (isReserved key = false ∧ key ≠ Key.children ∨ form = children ∧ key = Key.children) := by
  have hparameters : ∀ key ∈ ["matchExpression", "branches"],
      key ≠ Key.fragment ∧ key ≠ Key.type ∧ isReserved key = false ∧ key ≠ Key.children := by
    decide
  have hparameter : ∀ key ∈ ["matchExpression", "branches"], key ≠ Key.fragment ∧ key ≠ Key.type ∧
      (isReserved key = false ∧ key ≠ Key.children ∨ form = children ∧ key = Key.children) := by
    intro key hkey
    obtain ⟨hfragment, htype, hreserved⟩ := hparameters key hkey
    exact ⟨hfragment, htype, .inl hreserved⟩
  cases form with
  | object => exact hparameter key h
  | array => exact hparameter key h
  | children =>
      obtain rfl : key = Key.children := List.mem_singleton.mp h
      exact ⟨by decide, by decide, .inr ⟨rfl, rfl⟩⟩
  | properties =>
      rcases List.mem_cons.mp h with rfl | hkey
      · exact hparameter _ List.mem_cons_self
      · obtain ⟨hreserved, hother⟩ := fits key hkey
        have hchildren : key ≠ Key.children := by
          rintro rfl
          exact absurd hreserved (by decide)
        exact ⟨(different.plain key hkey).2, fun heq => hother (heq ▸ by decide),
          .inl ⟨hreserved, hchildren⟩⟩

end BranchForm

namespace Evaluation

open BranchForm (key_of_written)

/-! ### Nodes -/

/-- A node of a match without expression and branches: it has nothing that would be one of them. -/
structure TakesBranches (env : Env) (base : Dict Json) : Prop where
  operator : operatorOf? env base = some .matching
  plain : ∀ key ∈ Dict.keys base, isReserved key = true ∨ key = "type" ∨ key = "useCache"
  noChildren : Dict.hasKey base Key.children = false

/-- A node of a match with its expression and its branches. -/
def withBranches (base : Dict Json) (m : Json) (branches : Dict Json) (form : BranchForm) :
    Dict Json :=
  base ++ form.written m branches

section Reading

variable {env : Env} {base : Dict Json} {m : Json} {branches : Dict Json} {form : BranchForm}
  {key : String}

/-- What every node reads is not written for the branches. -/
theorem get?_withBranches (different : DifferentKeys branches) (fits : form.Fits branches)
    (hkey : key = Key.type ∨ isReserved key = true ∧ key ≠ Key.children) :
    Dict.get? (withBranches base m branches form) key = Dict.get? base key := by
  have hnone : Dict.get? (form.written m branches) key = none := by
    rw [← Dict.hasKey_eq_false_iff, Bool.eq_false_iff, ne_eq, Dict.hasKey_iff]
    intro hmem
    obtain ⟨-, htype, hown⟩ := key_of_written different fits hmem
    rcases hkey with rfl | ⟨hreserved, hchildren⟩
    · exact htype rfl
    · rcases hown with ⟨hfree, -⟩ | ⟨-, rfl⟩
      · cases hfree.symm.trans hreserved
      · exact hchildren rfl
  rw [withBranches, Dict.get?_append, hnone, Option.or_none]

theorem hasKey_fragment (h : TakesBranches env base) (different : DifferentKeys branches)
    (fits : form.Fits branches) :
    Dict.hasKey (withBranches base m branches form) Key.fragment = false := by
  rw [Bool.eq_false_iff, ne_eq, Dict.hasKey_iff, withBranches, Dict.keys, List.map_append,
    List.mem_append]
  rintro (hbase | hwritten)
  · exact absurd (h.plain _ hbase) (by decide)
  · exact (key_of_written different fits hwritten).1 rfl

theorem ofNode_withBranches (different : DifferentKeys branches) (fits : form.Fits branches) :
    Frame.ofNode (withBranches base m branches form) = Frame.ofNode base := by
  have hnone : Dict.filterKeys isBindingName (form.written m branches) = [] := by
    refine List.filter_eq_nil_iff.mpr fun e he hname => ?_
    obtain ⟨-, -, hown⟩ := key_of_written different fits (List.mem_map_of_mem he)
    rcases hown with ⟨hfree, -⟩ | ⟨-, hchildren⟩
    · simp [isReserved, hname] at hfree
    · rw [hchildren] at hname
      exact absurd hname (by decide)
  rw [Frame.ofNode, withBranches, Dict.filterKeys, List.filter_append]
  rw [Dict.filterKeys] at hnone
  rw [hnone, List.append_nil]
  rfl

end Reading

/-! ### Properties -/

/-- Properties of a match on `m` with the given branches. -/
structure Offers (props : Props) (m given : Json) : Prop where
  expression : Dict.get? props "matchExpression" = some m
  branches : (Dict.get? props "branches" = some given ∧ Branching.isLiteral given = true) ∨
    Dict.get? props "branches" = none ∧
      given = .object (Dict.filterKeys Branching.isBranchName props)
  noFallback : Dict.hasKey props Key.fallback = false

section Properties

variable {env : Env} {base : Dict Json} {m : Json} {branches : Dict Json} {form : BranchForm}

/-- The properties of a match without branches are none of them. -/
theorem key_of_ownProps (h : TakesBranches env base) :
    ∀ key ∈ Dict.keys (ownProps OperatorKind.matching.schema base),
      key = "type" ∨ key = "useCache" := by
  intro key hkey
  have hcanonical : ∀ key ∈ ["type", "useCache"],
      OperatorKind.matching.schema.canonicalName? key = none := by decide
  obtain ⟨e, he, rfl⟩ := List.mem_map.mp hkey
  obtain ⟨key, hmem, hfree, hname⟩ := exists_of_mem_ownProps he
  have hplain : key = "type" ∨ key = "useCache" :=
    (h.plain key (List.mem_map_of_mem hmem)).resolve_left (by rw [hfree]; exact Bool.false_ne_true)
  rw [← hname, hcanonical key (by simpa using hplain)]
  exact hplain

theorem canonicalName?_matching {key : String}
    (hkey : key ∉ ["matchExpression", "match", "branches", "arms", "type", "useCache"]) :
    OperatorKind.matching.schema.canonicalName? key = none := by
  simp only [List.mem_cons, not_or] at hkey
  obtain ⟨-, hmatch, -, harms, -⟩ := hkey
  simp [OperatorSchema.canonicalName?, OperatorKind.schema, Catalog.matching, ParamSchema.mandatory,
    ParamSchema.optional, List.find?, hmatch, harms]

theorem pairs?_flatMap (branches : Dict Json) :
    Children.pairs? "match" "value" (branches.flatMap fun e => [.string e.1, e.2]) =
      some (branches.map BranchForm.entry) := by
  induction branches with
  | nil => rfl
  | cons e rest ih =>
      rw [List.flatMap_cons]
      simp [Children.pairs?, ih, BranchForm.entry]

theorem isLiteral_given (form : BranchForm) (different : DifferentKeys branches) :
    Branching.isLiteral (form.given branches) = true := by
  have hobject : Branching.isLiteral (.object branches) = true := by
    have hno : ∀ key, key = Key.operator ∨ key = Key.fragment →
        Dict.hasKey branches key = false := by
      rintro key hkey
      rw [Bool.eq_false_iff, ne_eq, Dict.hasKey_iff]
      intro hmem
      obtain ⟨hoperator, hfragment⟩ := different.plain key hmem
      exact hkey.elim hoperator hfragment
    have hnode : isNode (.object branches) = false := by
      rw [isNode_object, hno _ (.inl rfl), hno _ (.inr rfl)]
      rfl
    rw [Branching.isLiteral, hnode]
    rfl
  cases form with
  | object | properties => exact hobject
  | array | children => rfl

theorem offers_insert {props : Props} (hprops : Dict.hasKey props Key.fallback = false)
    {given : Json} (hliteral : Branching.isLiteral given = true) :
    Offers (Dict.insert (Dict.insert props "matchExpression" m) "branches" given) m given where
  expression := by
    rw [Dict.get?_insert_of_ne _ _ (by decide), Dict.get?_insert_self]
  branches := .inl ⟨Dict.get?_insert_self _ _ _, hliteral⟩
  noFallback := hasKey_insert_of_ne (by decide) (hasKey_insert_of_ne (by decide) hprops _) _

/-- Where the branches are properties, the other properties are none of them. -/
theorem offers_extend (h : TakesBranches env base) (different : DifferentKeys branches)
    (fits : BranchForm.properties.Fits branches) :
    Offers (Dict.extend
      (Dict.insert (ownProps OperatorKind.matching.schema base) "matchExpression" m) branches)
      m (.object branches) := by
  have hno : ∀ key ∈ ["matchExpression", "branches", Key.fallback],
      Dict.hasKey branches key = false := by
    intro key hkey
    rw [Bool.eq_false_iff, ne_eq, Dict.hasKey_iff]
    intro hmem
    obtain ⟨hfree, hother⟩ := fits key hmem
    simp only [List.mem_cons, List.not_mem_nil, or_false] at hkey
    rcases hkey with rfl | rfl | rfl
    · exact hother (by decide)
    · exact hother (by decide)
    · exact absurd hfree (by decide)
  simp only [List.forall_mem_cons] at hno
  obtain ⟨hexpression, hbranches, hfallback, -⟩ := hno
  refine ⟨?_, .inr ⟨?_, ?_⟩, ?_⟩
  · rw [Dict.get?_extend_of_not_hasKey hexpression, Dict.get?_insert_self]
  · rw [Dict.get?_extend_of_not_hasKey hbranches, Dict.get?_insert_of_ne _ _ (by decide),
      ← Dict.hasKey_eq_false_iff, Bool.eq_false_iff, ne_eq, Dict.hasKey_iff]
    exact fun hmem => absurd (key_of_ownProps h _ hmem) (by decide)
  · have hnone : Dict.filterKeys Branching.isBranchName
        (ownProps OperatorKind.matching.schema base) = [] := by
      refine List.filter_eq_nil_iff.mpr fun e he => ?_
      rcases key_of_ownProps h e.1 (List.mem_map_of_mem he) with hkey | hkey <;> rw [hkey] <;>
        decide
    have hall : Dict.filterKeys Branching.isBranchName branches = branches := by
      refine List.filter_eq_self.mpr fun e he => ?_
      obtain ⟨-, hother⟩ := fits e.1 (List.mem_map_of_mem he)
      simp only [List.mem_cons, not_or] at hother
      simp [Branching.isBranchName, hother]
    rw [Dict.filterKeys_extend, Dict.filterKeys_insert, if_neg (by decide), hnone, hall]
    exact congrArg Json.object (Dict.ofPairs_eq_self different.nodup).symm
  · rw [Dict.hasKey_extend, hfallback, hasKey_insert_of_ne (by decide) (hasKey_ownProps _ _)]
    rfl

theorem get?_children (h : TakesBranches env base) (different : DifferentKeys branches)
    (fits : form.Fits branches) (hform : form ≠ .children) :
    Dict.get? (withBranches base m branches form) Key.children = none := by
  rw [withBranches, Dict.get?_append, Dict.hasKey_eq_false_iff.mp h.noChildren, Option.none_or,
    ← Dict.hasKey_eq_false_iff, Bool.eq_false_iff, ne_eq, Dict.hasKey_iff]
  intro hmem
  obtain ⟨-, -, ⟨-, hne⟩ | ⟨heq, -⟩⟩ := key_of_written different fits hmem
  · exact hne rfl
  · exact hform heq

/-- Unless they are children, all that is written are properties under their own names. -/
theorem property_of_written (fits : form.Fits branches) (hform : form ≠ .children) :
    ∀ key ∈ Dict.keys (form.written m branches), isReserved key = false ∧
      OperatorKind.matching.schema.canonicalName? key = none := by
  have hparameters : ∀ key ∈ ["matchExpression", "branches"], isReserved key = false ∧
      OperatorKind.matching.schema.canonicalName? key = none := by decide
  cases form with
  | object => exact hparameters
  | array => exact hparameters
  | children => exact absurd rfl hform
  | properties =>
      refine List.forall_mem_cons.mpr ⟨hparameters _ List.mem_cons_self, fun key hkey => ?_⟩
      exact ⟨(fits key hkey).1, canonicalName?_matching (fits key hkey).2⟩

theorem gather_properties (h : TakesBranches env base) (different : DifferentKeys branches)
    (fits : form.Fits branches) (hform : form ≠ .children) (ev : Evaluator Failure) :
    gather ev .matching (withBranches base m branches form) =
      Run.value (Dict.extend (ownProps OperatorKind.matching.schema base)
        (form.written m branches)) := by
  rw [gather, get?_children h different fits hform, ownProps, withBranches, List.foldl_append,
    foldl_addProp (property_of_written fits hform)]
  rfl

theorem gather_children_of_match (h : TakesBranches env base) (ev : Evaluator Failure) :
    gather ev .matching (withBranches base m branches .children) =
      Run.value (Dict.insert (Dict.insert (ownProps OperatorKind.matching.schema base)
        "matchExpression" m) "branches" (.array (branches.map BranchForm.entry))) := by
  have hreserved : isReserved Key.children = true := by decide
  have hchildren : Dict.get? (withBranches base m branches .children) Key.children =
      some (.array (m :: branches.flatMap fun e => [.string e.1, e.2])) := by
    rw [withBranches, Dict.get?_append, Dict.hasKey_eq_false_iff.mp h.noChildren]
    rfl
  have hown : ownProps OperatorKind.matching.schema (withBranches base m branches .children) =
      ownProps OperatorKind.matching.schema base := by
    have hadd : ∀ v props, addProp OperatorKind.matching.schema props Key.children v = props := by
      intro v props
      rw [addProp, hreserved, if_pos rfl]
    rw [ownProps, withBranches, List.foldl_append]
    exact hadd (.array (m :: branches.flatMap fun e => [.string e.1, e.2])) _
  have hplaced : placeChildren .matching (m :: branches.flatMap fun e => [.string e.1, e.2])
      (ownProps OperatorKind.matching.schema base) =
        .ok (Dict.insert (Dict.insert (ownProps OperatorKind.matching.schema base)
          "matchExpression" m) "branches" (.array (branches.map BranchForm.entry))) := by
    rw [placeChildren, List.drop_one, List.tail_cons, pairs?_flatMap]
    rfl
  funext w
  rw [gather, hchildren, hown]
  exact (Run.bind_of_ok rfl).trans (by rw [hplaced]; rfl)

/-- **In every form, a node offers its expression and its branches.** -/
theorem gather_withBranches (h : TakesBranches env base) (different : DifferentKeys branches)
    (fits : form.Fits branches) (ev : Evaluator Failure) :
    ∃ props, gather ev .matching (withBranches base m branches form) = Run.value props ∧
      Offers props m (form.given branches) := by
  have hbase := hasKey_ownProps .matching base
  have hliteral := isLiteral_given form different
  cases form with
  | object =>
      exact ⟨_, gather_properties h different fits (by simp) ev, offers_insert hbase hliteral⟩
  | array =>
      exact ⟨_, gather_properties h different fits (by simp) ev, offers_insert hbase hliteral⟩
  | children => exact ⟨_, gather_children_of_match h ev, offers_insert hbase hliteral⟩
  | properties =>
      exact ⟨_, gather_properties h different fits (by simp) ev, offers_extend h different fits⟩

end Properties

/-! ### Selection -/

/-- The branch for a string among those that are given, evaluated. -/
def choose (ev : Evaluator OperatorFault) (s : String) (given : Json) : Run OperatorFault Json := do
  match ← Branching.select ev (.string s) given with
  | some branch => ev branch
  | none => Run.fail (.noMatch s)

section Choosing

variable {env : Env} {base : Dict Json} {m : Json} {branches : Dict Json} {form : BranchForm}
  {s : String} {w w₁ : World}

/-- A string and branches have the declared types. -/
theorem check_matching {given : Option Json}
    (hgiven : ∀ b, given = some b → b.isObject = true ∨ b.isArray = true) :
    env.check (Branching.matchingItems (some (.string s)) given) = .ok () := by
  unfold Env.check
  split
  · rfl
  · cases given with
    | none => rfl
    | some b =>
        rcases hgiven b rfl with hb | hb
        · obtain ⟨fields, rfl⟩ := Json.eq_object_of_isObject hb
          rfl
        · obtain ⟨items, rfl⟩ := Json.eq_array_of_isArray hb
          rfl

/-- The branches that are offered are taken as they are written. -/
theorem branches_of_offers {props : Props} {given : Json} (h : Offers props m given)
    (ev : Evaluator OperatorFault) (w : World) :
    ∃ found, Branching.branches ev props w = (some (.ok found), w) ∧
      found.getD (.object (Dict.filterKeys Branching.isBranchName props)) = given ∧
      ∀ b, found = some b → b.isObject = true ∨ b.isArray = true := by
  unfold Branching.branches
  rcases h.branches with ⟨hbranches, hliteral⟩ | ⟨hbranches, hrest⟩
  · refine ⟨some given, by simp [hbranches, hliteral], rfl, ?_⟩
    rintro b ⟨⟩
    simp only [Branching.isLiteral, Bool.and_eq_true, Bool.or_eq_true] at hliteral
    exact hliteral.1
  · refine ⟨none, by rw [hbranches]; rfl, hrest.symm, ?_⟩
    rintro b ⟨⟩

/-- A match whose expression comes to a string chooses among the branches that it is offered. -/
theorem matching_of_offers {props : Props} {given : Json} (h : Offers props m given)
    {ev : Evaluator OperatorFault} (hm : ev m w = (some (.ok (.string s)), w₁)) :
    Branching.matching env ev props w = choose ev s given w₁ := by
  have hexpression : ev.optional (Dict.get? props "matchExpression") w =
      (some (.ok (some (.string s))), w₁) := by
    rw [h.expression]
    exact Run.andThen_of_ok hm
  obtain ⟨found, hfound, hgiven, htypes⟩ := branches_of_offers h ev w₁
  unfold Branching.matching
  rw [Run.bind_of_ok hexpression, Run.bind_of_ok hfound,
    Run.bind_of_ok (Asking.passes (check_matching htypes) w₁), hgiven]
  rfl

/-- **Each form selects among its branches**, once the expression has come to a string. -/
theorem operatorBody_withBranches (h : TakesBranches env base) (different : DifferentKeys branches)
    (fits : form.Fits branches) {ev : Evaluator Failure}
    (hm : ev m w = (some (.ok (.string s)), w₁)) :
    operatorBody env ev (withBranches base m branches form) w =
      settle env ev .matching base (choose (inside ev) s (form.given branches)) w₁ := by
  have hread : ∀ key ∈ [Key.operator, Key.fallback, Key.outputType, Key.type],
      key = Key.type ∨ isReserved key = true ∧ key ≠ Key.children := by decide
  obtain ⟨props, hgather, hoffers⟩ := gather_withBranches h different fits ev (m := m)
  have hmissing : missing .matching props = [] := by
    refine List.filter_eq_nil_iff.mpr fun name hname => ?_
    have hname : name = "matchExpression" := List.mem_singleton.mp hname
    simp [hname, Dict.hasKey, hoffers.expression]
  have hcompute : compute env (inside ev) .matching props w =
      choose (inside ev) s (form.given branches) w₁ := matching_of_offers hoffers (inside_of_ok hm)
  rw [operatorBody_of_gather h.operator
    (fun key hkey => get?_withBranches different fits (hread key hkey)) hoffers.noFallback
    (by rw [hgather, Run.value_apply]), apply_of_nothing_missing hmissing]
  exact settle_congr hcompute

end Choosing

/-! ### Selection by keys that evaluate to themselves -/

section Selecting

variable {env : Env} {scope : Scope} {n : Nat} {branches : Dict Json} {form form' : BranchForm}

/-- Keys that are taken as they are select the entry with the key. -/
theorem entryFor_verbatim (s : String) (branches : Dict Json) :
    Branching.entryFor Evaluator.verbatim (.string s) (branches.map BranchForm.entry) =
      Run.value ((branches.find? fun e => e.1 == s).map BranchForm.entry) := by
  induction branches with
  | nil => rfl
  | cons e rest ih =>
      have hstep : Branching.entryFor Evaluator.verbatim (.string s)
          ((e :: rest).map BranchForm.entry) =
            if e.1 == s then Run.value (some (BranchForm.entry e))
            else Branching.entryFor Evaluator.verbatim (.string s)
              (rest.map BranchForm.entry) := rfl
      rw [hstep, ih, List.find?_cons]
      cases e.1 == s <;> rfl

theorem get?_eq_find? (d : Dict Json) (key : String) :
    Dict.get? d key = (d.find? fun e => e.1 == key).map Prod.snd := by
  induction d with
  | nil => rfl
  | cons e rest ih =>
      rw [Dict.get?, List.find?_cons, ih]
      by_cases h : e.1 = key
      · simp [h]
      · rw [if_neg h, beq_false_of_ne h]

/-- In every form, the branch of a string is the one at the key. -/
theorem select_verbatim (s : String) (branches : Dict Json) (form : BranchForm) :
    Branching.select Evaluator.verbatim (.string s) (form.given branches) =
      Run.value (Dict.get? branches s) := by
  have hlist : Branching.select Evaluator.verbatim (.string s)
      (.array (branches.map BranchForm.entry)) = Run.value (Dict.get? branches s) := by
    rw [Branching.select, entryFor_verbatim, get?_eq_find?]
    cases branches.find? fun e => e.1 == s <;> rfl
  cases form with
  | object | properties => rfl
  | array | children => exact hlist

/-- Entries whose keys are evaluated alike are selected alike. -/
theorem entryFor_mirrors {ev ev' : Evaluator OperatorFault} (value : Json)
    (h : ∀ key ∈ Dict.keys branches,
      Run.Mirrors env scope Eq (ev (.string key)) (ev' (.string key))) :
    Run.Mirrors env scope Eq (Branching.entryFor ev value (branches.map BranchForm.entry))
      (Branching.entryFor ev' value (branches.map BranchForm.entry)) := by
  induction branches with
  | nil => exact .value rfl
  | cons e rest ih =>
      obtain ⟨hfirst, hrest⟩ := List.forall_mem_cons.mp h
      refine hfirst.bind_eq fun c => ?_
      by_cases hc : c.sameValue value = true
      · simp only [hc, if_true]
        exact .value rfl
      · simp only [hc]
        exact ih hrest

theorem select_mirrors_of_keys {ev ev' : Evaluator OperatorFault} (value : Json)
    (h : ∀ key ∈ Dict.keys branches,
      Run.Mirrors env scope Eq (ev (.string key)) (ev' (.string key)))
    (form : BranchForm) :
    Run.Mirrors env scope Eq (Branching.select ev value (form.given branches))
      (Branching.select ev' value (form.given branches)) := by
  cases form with
  | object | properties => exact .value rfl
  | array | children => exact (entryFor_mirrors value h).bind_eq fun entry => .value rfl

/-- **All forms select the branch of the key**, if the keys evaluate to themselves. -/
theorem select_mirrors
    (settled : ∀ key ∈ Dict.keys branches, SettledAt env scope n (.string key) (.ok (.string key)))
    (s : String) (depth : Nat) :
    Run.Mirrors env scope Eq
      (Branching.select (inside (eval env depth)) (.string s) (form.given branches))
      (Branching.select (inside (eval env (depth + n))) (.string s) (form'.given branches)) := by
  have hleft : Run.Mirrors env scope Eq
      (Branching.select (inside (eval env depth)) (.string s) (form.given branches))
      (Branching.select Evaluator.verbatim (.string s) (form.given branches)) :=
    select_mirrors_of_keys _
      (fun key hkey => ((settled key hkey).mirrors_value depth).mapFailure _) form
  have hright : Run.Mirrors env scope Eq
      (Branching.select Evaluator.verbatim (.string s) (form'.given branches))
      (Branching.select (inside (eval env (depth + n))) (.string s) (form'.given branches)) :=
    select_mirrors_of_keys _
      (fun key hkey => ((settled key hkey).value_mirrors depth).mapFailure _) form'
  rw [select_verbatim] at hleft hright
  exact hleft.trans hright

theorem choose_mirrors (form form' : BranchForm) (within : Scope.SettledWithin env n scope)
    (settled : ∀ key ∈ Dict.keys branches, SettledAt env scope n (.string key) (.ok (.string key)))
    (s : String) (depth : Nat) :
    Run.Mirrors env scope Eq (choose (inside (eval env depth)) s (form.given branches))
      (choose (inside (eval env (depth + n))) s (form'.given branches)) := by
  refine (select_mirrors settled s depth).bind_eq fun branch => ?_
  cases branch with
  | none => exact .ofExcept (.error _)
  | some branch => exact (Json.Like.refl within branch).inside depth

/-- What a node comes to depends on its operator by what it computes. -/
theorem settle_mirrors (within : Scope.SettledWithin env n scope) (k : OperatorKind)
    (node : Dict Json) {computed computed' : Run OperatorFault Json}
    (h : Run.Mirrors env scope Eq computed computed') (depth : Nat) :
    Run.Mirrors env scope Eq (settle env (eval env depth) k node computed)
      (settle env (eval env (depth + n)) k node computed') := by
  have hnode : Dict.Related (fun _ => Json.Exchange env scope n) node node :=
    Dict.Related.refl (fun _ x => Json.Exchange.refl within x) node
  have hfallback : Option.Rel (Json.Like env scope n) (Dict.get? node Key.fallback)
      (Dict.get? node Key.fallback) :=
    (hnode.mono fun _ _ _ hexchange => hexchange.like).rel_get? Key.fallback
  refine Run.Mirrors.bind_eq ?_ fun result => convert_mirrors hnode hfallback result depth
  refine h.attempt.bind fun outcome outcome' hout => ?_
  cases hout with
  | error fault => exact fallbackOr_mirrors hfallback _ depth
  | ok heq => exact .value heq

end Selecting

/-! ### Runs -/

section Runs

variable {env : Env} {base : Dict Json} {m : Json} {branches : Dict Json} {form form' : BranchForm}
  {s : String} {w : World} {n : Nat}

theorem eval_withBranches (h : TakesBranches env base) (different : DifferentKeys branches)
    (fits : form.Fits branches) (depth : Nat) :
    eval env (depth + 1) (.object (withBranches base m branches form)) =
      Run.withFrame (Frame.ofNode base)
        (operatorBody env (eval env depth) (withBranches base m branches form)) := by
  have hoperator : Dict.hasKey (withBranches base m branches form) Key.operator = true := by
    rw [Dict.hasKey, get?_withBranches different fits (.inr (by decide)), ← Dict.hasKey]
    exact hasKey_operator h.operator
  rw [eval, node_operator env _ (hasKey_fragment h different fits) hoperator, operatorNode,
    ofNode_withBranches different fits]

/-- What one form comes to, the others come to. -/
theorem eval_of_form (h : TakesBranches env base) (different : DifferentKeys branches)
    (fits : form.Fits branches) (fits' : form'.Fits branches)
    (within : Scope.SettledWithin env n (w.enter (Frame.ofNode base)).scope)
    (settled : ∀ key ∈ Dict.keys branches,
      SettledAt env (w.enter (Frame.ofNode base)).scope n (.string key) (.ok (.string key)))
    (hm : ∃ depth w₁, eval env depth m (w.enter (Frame.ofNode base)) =
      (some (.ok (.string s)), w₁))
    {outcome : Except Failure Json} {cache : ResultCache} {history : History}
    (hform : ∃ depth scope, eval env depth (.object (withBranches base m branches form)) w =
      (some outcome, ⟨scope, cache, history⟩)) :
    ∃ depth scope, eval env depth (.object (withBranches base m branches form')) w =
      (some outcome, ⟨scope, cache, history⟩) := by
  obtain ⟨dm, w₁, hm⟩ := hm
  obtain ⟨depth, scope, hrun⟩ := hform
  -- One depth serves the expression and the node.
  obtain ⟨enough, hdm, hdepth⟩ : ∃ enough, dm ≤ enough ∧ depth ≤ enough + 1 :=
    ⟨max dm depth, by omega, by omega⟩
  have hm₁ := eval_mono hdm m _ _ _ hm
  have hm₂ := eval_mono (Nat.le_add_right enough n) m _ _ _ hm₁
  have hagree : Scope.Agree env (w.enter (Frame.ofNode base)).scope w₁.scope w₁.scope := by
    obtain ⟨_, _, -, -, hagree⟩ := Json.Like.refl within m dm (Scope.Agree.refl env _) hm
    exact hagree.left
  have hrun := eval_mono hdepth _ w _ _ hrun
  rw [eval_withBranches h different fits] at hrun
  obtain ⟨⟨s₂, cache₂, history₂⟩, hinside, hleave⟩ := Run.eq_of_withFrame hrun
  rw [operatorBody_withBranches h different fits hm₁] at hinside
  obtain ⟨s₂', hinside'⟩ := (settle_mirrors within .matching base
    (choose_mirrors form form' within settled s enough) enough).of_world hagree hinside
  rw [← operatorBody_withBranches h different fits' hm₂] at hinside'
  rw [leave_eq] at hleave
  cases hleave
  exact ⟨enough + n + 1, _, by rw [eval_withBranches h different fits',
    Run.withFrame_of_eq hinside', leave_eq]⟩

end Runs

end Evaluation

open Evaluation (Silently TakesBranches withBranches)

/-- **The forms of a match have the same outcomes.**  Let the expression of a match come to a string
where the bindings of the node are in scope, whatever it asks for that, and let the keys of the
branches be different, evaluate to themselves, and not make a node of an object.  Then the branches
may be written as an object, as a list of entries or as children, and as properties of the node if
they are not taken for something else: the node comes to the same outcomes, with the same questions
to the host and the same cache. -/
theorem forms_of_match_agree {env : Env} {base : Dict Json} (h : TakesBranches env base) {m : Json}
    {branches : Dict Json} {w : World} (different : DifferentKeys branches)
    (selfEvaluating : ∀ key ∈ Dict.keys branches,
      Silently env (w.enter (Frame.ofNode base)).scope (.string key) (.string key))
    {s : String} (hm : ∃ depth w₁, eval env depth m (w.enter (Frame.ofNode base)) =
      (some (.ok (.string s)), w₁))
    {form form' : BranchForm} (fits : form.Fits branches) (fits' : form'.Fits branches)
    (outcome : Except Failure Json) (cache : ResultCache) (history : History) :
    (∃ depth scope, eval env depth (.object (withBranches base m branches form)) w =
        (some outcome, ⟨scope, cache, history⟩)) ↔
      ∃ depth scope, eval env depth (.object (withBranches base m branches form')) w =
        (some outcome, ⟨scope, cache, history⟩) := by
  obtain ⟨n, within⟩ := Scope.exists_settledWithin env (w.enter (Frame.ofNode base)).scope
  obtain ⟨d, settled⟩ := exists_forall_of_forall_exists
    (P := fun d key => Evaluation.SettledAt env (w.enter (Frame.ofNode base)).scope d (.string key)
      (.ok (.string key)))
    (fun hle hsettled => hsettled.mono hle)
    fun key hkey => (selfEvaluating key hkey).exists_settledAt within
  have within := within.mono (Nat.le_max_left n d)
  have settled := fun key hkey => (settled key hkey).mono (Nat.le_max_right n d)
  exact ⟨Evaluation.eval_of_form h different fits fits' within settled hm,
    Evaluation.eval_of_form h different fits' fits within settled hm⟩

/-- A match on a bound text, with its branches as properties or as children. -/
theorem properties_of_match_may_be_children :
    let env : Env := ⟨Options.empty, Registry.full⟩
    let base : Dict Json := [("operator", .string "MATCH"), ("$x", .string "b")]
    let branches : Dict Json := [("a", Json.int 1), ("b", Json.int 2)]
    let w : World := ⟨[], ResultCache.empty 0, []⟩
    (∃ depth scope, eval env depth
        (.object (withBranches base (.string "$x") branches .properties)) w =
          (some (.ok (Json.int 2)), ⟨scope, ResultCache.empty 0, []⟩)) ↔
      ∃ depth scope, eval env depth
        (.object (withBranches base (.string "$x") branches .children)) w =
          (some (.ok (Json.int 2)), ⟨scope, ResultCache.empty 0, []⟩) := by
  intro env base branches w
  have known : Evaluation.operatorOf? env base = some .matching := by
    have hname : (Dict.get? base Key.operator).bind Json.asString? = some "MATCH" := rfl
    rw [Evaluation.operatorOf?, hname, Option.bind_some]
    exact Registry.resolve?_name .matching
  have takes : TakesBranches env base := ⟨known, by decide, rfl⟩
  have different : DifferentKeys branches := ⟨by decide, by decide⟩
  have text : ∀ key ∈ Dict.keys branches, Silently env (w.enter (Frame.ofNode base)).scope
      (.string key) (.string key) := by
    refine List.forall_mem_cons.mpr ⟨?_, List.forall_mem_singleton.mpr ?_⟩
    · exact (Inert.text rfl rfl).silently _
    · exact (Inert.text rfl rfl).silently _
  have fits : BranchForm.properties.Fits branches := by
    simp only [BranchForm.Fits]
    decide
  have fits' : BranchForm.children.Fits branches := trivial
  exact forms_of_match_agree takes different text ⟨3, _, rfl⟩ fits fits' _ _ _

end JsonExpr
