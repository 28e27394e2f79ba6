import JsonExpr.Evaluation
import JsonExpr.Proofs.Json.Spot

/-!
# Properties that an operator does not read

An operator that chooses what it evaluates leaves the rest alone: a conditional the branch that its
condition does not select, conjunction and disjunction the operands after the one that decides them,
and a match the branches that are not selected and, of an array of branches, what the entries after
the selected one are compared with.  What stands at such a spot has no influence on what the
operator computes, neither on its outcome nor on the world afterwards.

Main definitions:

* `JsonExpr.Branching.Compares` — the value that a match compares its branches with;
* `JsonExpr.Branching.Unread` — a spot among the properties that an operator does not read.

Main results:

* `JsonExpr.Branching.scan_append`, `JsonExpr.Branching.entryFor_append` — operands and entries one
  part after the other;
* `JsonExpr.Evaluation.compute_eq_of_unread` — **what is unread has no influence on what an operator
  computes**.
-/

set_option autoImplicit false

namespace JsonExpr

namespace Branching

variable {env : Env} {ev : Evaluator OperatorFault} {props props' : Props} {w : World}

/-! ### Operands and entries one part after the other -/

/-- Operands are looked through from left to right. -/
theorem scan_append (wanted : Bool) (before after : List Json) :
    scan ev wanted (before ++ after) = .andThen (scan ev wanted before) fun found =>
      if found then .value true else scan ev wanted after := by
  induction before with
  | nil => rfl
  | cons node rest ih =>
      simp only [List.cons_append, scan, Run.andThen_assoc]
      congr 1
      funext v
      by_cases hv : v.truthy = wanted
      · simp only [hv, if_true]
        rfl
      · simp only [hv, if_false]
        exact ih

/-- What follows operands that decide, fail or do not end does not matter. -/
theorem scan_append_of_decided {wanted : Bool} {before : List Json}
    (h : ∀ w₁, scan ev wanted before w ≠ (some (.ok false), w₁)) (after : List Json) :
    scan ev wanted (before ++ after) w = scan ev wanted before w := by
  rw [scan_append]
  rcases hs : scan ev wanted before w with ⟨_ | e | found, w₁⟩
  · rw [Run.andThen_of_exhausted hs]
  · rw [Run.andThen_of_error hs]
  · rw [Run.andThen_of_ok hs]
    cases found with
    | true => rfl
    | false => exact absurd hs (h w₁)

/-- Entries are compared from left to right. -/
theorem entryFor_append (value : Json) (before after : List Json) :
    entryFor ev value (before ++ after) = .andThen (entryFor ev value before) fun found =>
      match found with
      | some entry => .value (some entry)
      | none => entryFor ev value after := by
  induction before with
  | nil => rfl
  | cons entry rest ih =>
      simp only [List.cons_append, entryFor]
      cases entry.field? "match" with
      | none => exact ih
      | some candidate =>
          simp only [Run.andThen_assoc]
          congr 1
          funext c
          by_cases hc : c.sameValue value = true
          · simp only [hc, if_true]
            rfl
          · simp only [hc]
            exact ih

/-- What follows entries one of which is selected, or whose comparison fails or does not end, does
not matter. -/
theorem entryFor_append_of_selected {value : Json} {before : List Json}
    (h : ∀ w₁, entryFor ev value before w ≠ (some (.ok none), w₁)) (after : List Json) :
    entryFor ev value (before ++ after) w = entryFor ev value before w := by
  rw [entryFor_append]
  rcases hs : entryFor ev value before w with ⟨_ | e | found, w₁⟩
  · rw [Run.andThen_of_exhausted hs]
  · rw [Run.andThen_of_error hs]
  · rw [Run.andThen_of_ok hs]
    cases found with
    | some entry => rfl
    | none => exact absurd hs (h w₁)

/-- The value of an entry that is not selected does not matter. -/
theorem entryFor_eq_of_not_selected {value : Json} {before after : List Json} {rest : Spot}
    {a b : Json} (hab : Json.AgreeOff (.key "value" :: rest) a b)
    (h : ∀ w₁, entryFor ev value before w = (some (.ok none), w₁) →
      ∀ entry w₂, entryFor ev value [a] w₁ ≠ (some (.ok (some entry)), w₂)) :
    entryFor ev value (before ++ b :: after) w = entryFor ev value (before ++ a :: after) w := by
  rw [entryFor_append, entryFor_append]
  refine Run.bind_congr fun found w₁ hfound => ?_
  cases found with
  | some entry => rfl
  | none =>
      -- The entries are compared alike, since they differ in nothing that is compared.
      have hfield : b.field? "match" = a.field? "match" := by
        rcases hab with rfl | ⟨d, d', rfl, rfl, hd⟩
        · rfl
        · exact Dict.AgreeOff.get?_eq hd (by decide)
      have hnot := h w₁ hfound
      simp only [entryFor, hfield] at hnot ⊢
      cases hm : a.field? "match" with
      | none => rfl
      | some candidate =>
          rw [hm] at hnot
          refine Run.bind_congr fun c w₂ hc => ?_
          by_cases hsame : c.sameValue value = true
          · refine absurd ?_ (hnot a w₂)
            dsimp only
            rw [Run.andThen_of_ok hc]
            simp only [hsame, if_true]
            rfl
          · simp only [hsame]
            rfl

/-! ### What an operator does not read -/

/-- The value that a match compares its branches with, and the world in which it does, when the
branches are written out: that of the expression, if the operands pass their check. -/
def Compares (env : Env) (ev : Evaluator OperatorFault) (props : Props) (w : World) (value : Json)
    (w₁ : World) : Prop :=
  ∃ found, ev.optional (Dict.get? props "matchExpression") w = (some (.ok found), w₁) ∧
    env.check (matchingItems found (Dict.get? props "branches")) = .ok () ∧
    value = Json.ofOption found

/-- A spot among the properties of an operator that the operator does not read when it starts from
the given world. -/
inductive Unread (env : Env) (ev : Evaluator OperatorFault) (props : Props) (w : World) :
    OperatorKind → Spot → Prop where
  /-- The branch of a conditional that its condition does not select. -/
  | branch {name : String} {rest : Spot} (hname : name = "valueIfTrue" ∨ name = "valueIfFalse")
      (h : ∀ condition w₁,
        ev.optional (Dict.get? props "condition") w = (some (.ok condition), w₁) →
        branchName condition ≠ name) :
      Unread env ev props w .conditional (.key name :: rest)
  /-- An operand of a conjunction after one that is false. -/
  | conjunct {items : List Json} {i : Nat} {rest : Spot}
      (hitems : Dict.get? props "values" = some (.array items))
      (h : ∀ w₁, scan ev false (items.take i) w ≠ (some (.ok false), w₁)) :
      Unread env ev props w .and (.key "values" :: .index i :: rest)
  /-- An operand of a disjunction after one that is true. -/
  | disjunct {items : List Json} {i : Nat} {rest : Spot}
      (hitems : Dict.get? props "values" = some (.array items))
      (h : ∀ w₁, scan ev true (items.take i) w ≠ (some (.ok false), w₁)) :
      Unread env ev props w .or (.key "values" :: .index i :: rest)
  /-- A branch under another key of an object than the text of the value. -/
  | keyed {fields : Dict Json} {name : String} {rest : Spot}
      (hfields : Dict.get? props "branches" = some (.object fields))
      (hliteral : isLiteral (.object fields) = true)
      (h : ∀ value w₁, Compares env ev props w value w₁ → value.toText ≠ name) :
      Unread env ev props w .matching (.key "branches" :: .key name :: rest)
  /-- A branch under another name than the text of the value, when the properties that remain are
  the branches. -/
  | remaining {name : String} {rest : Spot} (hbranches : Dict.get? props "branches" = none)
      (hname : isBranchName name = true)
      (h : ∀ value w₁, Compares env ev props w value w₁ → value.toText ≠ name) :
      Unread env ev props w .matching (.key name :: rest)
  /-- The value of an entry that is not selected. -/
  | entryValue {entries : List Json} {i : Nat} {rest : Spot}
      (hentries : Dict.get? props "branches" = some (.array entries))
      (h : ∀ value w₁, Compares env ev props w value w₁ →
        ∀ w₂, entryFor ev value (entries.take i) w₁ = (some (.ok none), w₂) →
        ∀ entry w₃, entryFor ev value entries[i]?.toList w₂ ≠ (some (.ok (some entry)), w₃)) :
      Unread env ev props w .matching (.key "branches" :: .index i :: .key "value" :: rest)
  /-- What an entry after the selected one is compared with. -/
  | entryMatch {entries : List Json} {i : Nat} {rest : Spot}
      (hentries : Dict.get? props "branches" = some (.array entries))
      (h : ∀ value w₁, Compares env ev props w value w₁ →
        ∀ w₂, entryFor ev value (entries.take i) w₁ ≠ (some (.ok none), w₂)) :
      Unread env ev props w .matching (.key "branches" :: .index i :: .key "match" :: rest)

/-! ### It has no influence -/

theorem conditional_eq_of_branch {name : String} {rest : Spot}
    (hp : Dict.AgreeOff name rest props props') (hname : name ≠ "condition")
    (h : ∀ condition w₁,
      ev.optional (Dict.get? props "condition") w = (some (.ok condition), w₁) →
      branchName condition ≠ name) :
    conditional env ev props' w = conditional env ev props w := by
  unfold conditional
  rw [hp.get?_eq hname.symm]
  refine Run.bind_congr fun condition w₁ hcondition => ?_
  rw [hp.get?_eq (h condition w₁ hcondition)]

theorem meets_eq_of_decided {k : OperatorKind} {wanted : Bool} {items : List Json} {i : Nat}
    {rest : Spot} (hp : Dict.AgreeOff "values" (.index i :: rest) props props')
    (hitems : Dict.get? props "values" = some (.array items))
    (h : ∀ w₁, scan ev wanted (items.take i) w ≠ (some (.ok false), w₁)) :
    meets env ev k wanted props' w = meets env ev k wanted props w := by
  obtain ⟨v', hv', hagree⟩ := hp.get?_of_some hitems
  unfold meets
  rw [hitems, hv']
  obtain rfl | ⟨before, a, b, after, rfl, rfl, rfl, -⟩ := hagree.of_array
  · rfl
  · rw [List.take_left] at h
    exact (scan_append_of_decided h _).trans (scan_append_of_decided h _).symm

/-- Branches that are written out have the declared type, whatever they are. -/
theorem check_matchingItems (found : Option Json) {branches branches' : Json}
    (hb : isLiteral branches = true) (hb' : isLiteral branches' = true) :
    env.check (matchingItems found (some branches')) =
      env.check (matchingItems found (some branches)) := by
  -- The declared type does not look inside: any object or array passes for an empty array.
  have hempty : ∀ b, isLiteral b = true →
      env.check (matchingItems found (some b)) =
        env.check (matchingItems found (some (.array []))) := by
    intro b hb
    cases b with
    | array items => rfl
    | object fields => rfl
    | _ => cases hb
  rw [hempty branches' hb', hempty branches hb]

theorem branches_of_literal {b : Json} (hb : Dict.get? props "branches" = some b)
    (hliteral : isLiteral b = true) : branches ev props = .value (Dict.get? props "branches") := by
  unfold branches
  simp only [hb, hliteral, if_true]

/-- A match computes the same over two properties whose branches are written out, if it selects the
same branch for the value that it compares them with. -/
theorem matching_eq_of_select
    (hexpression : Dict.get? props' "matchExpression" = Dict.get? props "matchExpression")
    (hgiven : branches ev props = .value (Dict.get? props "branches"))
    (hgiven' : branches ev props' = .value (Dict.get? props' "branches"))
    (hcheck : ∀ found, env.check (matchingItems found (Dict.get? props' "branches")) =
      env.check (matchingItems found (Dict.get? props "branches")))
    (h : ∀ value w₁, Compares env ev props w value w₁ →
      select ev value ((Dict.get? props' "branches").getD
          (.object (Dict.filterKeys isBranchName props'))) w₁ =
        select ev value ((Dict.get? props "branches").getD
          (.object (Dict.filterKeys isBranchName props))) w₁) :
    matching env ev props' w = matching env ev props w := by
  unfold matching
  rw [hexpression, hgiven, hgiven']
  refine Run.bind_congr fun found w₁ hfound => ?_
  show (Run.ofExcept (env.check (matchingItems found (Dict.get? props' "branches"))) >>= _) w₁ =
    (Run.ofExcept (env.check (matchingItems found (Dict.get? props "branches"))) >>= _) w₁
  rw [hcheck found]
  refine Run.bind_congr fun _ w₂ hok => ?_
  -- A check leaves the world as it is.
  have hw : w₁ = w₂ := congrArg Prod.snd hok
  subst hw
  have hok : env.check (matchingItems found (Dict.get? props "branches")) = .ok () :=
    Option.some.inj (congrArg Prod.fst hok)
  exact Run.bind_congr_left (h _ _ ⟨found, hfound, hok, rfl⟩)

/-- The same where both properties have written-out branches. -/
theorem matching_eq_of_literal {b b' : Json}
    (hexpression : Dict.get? props' "matchExpression" = Dict.get? props "matchExpression")
    (hb : Dict.get? props "branches" = some b) (hb' : Dict.get? props' "branches" = some b')
    (hliteral : isLiteral b = true) (hliteral' : isLiteral b' = true)
    (h : ∀ value w₁, Compares env ev props w value w₁ →
      select ev value b' w₁ = select ev value b w₁) :
    matching env ev props' w = matching env ev props w := by
  refine matching_eq_of_select hexpression (branches_of_literal hb hliteral)
    (branches_of_literal hb' hliteral') (fun found => ?_) ?_
  · rw [hb, hb']
    exact check_matchingItems found hliteral hliteral'
  · rw [hb, hb']
    exact h

theorem isLiteral_object {name : String} {rest : Spot} {d d' : Dict Json}
    (h : Dict.AgreeOff name rest d d') : isLiteral (.object d') = isLiteral (.object d) := by
  have hoperator := h.hasKey_eq Key.operator
  have hfragment := h.hasKey_eq Key.fragment
  unfold Dict.hasKey at hoperator hfragment
  simp only [isLiteral, isNode, isOperatorNode, isFragmentNode, Json.field?, hoperator, hfragment]
  rfl

end Branching

open Branching in
/-- **What is unread has no influence on what an operator computes**, neither on its outcome nor on
the world afterwards. -/
theorem Evaluation.compute_eq_of_unread {env : Env} {ev : Evaluator OperatorFault}
    {k : OperatorKind} {props props' : Props} {w : World} {spot : Spot}
    (h : Unread env ev props w k spot) (hp : Json.AgreeOff spot (.object props) (.object props')) :
    Evaluation.compute env ev k props' w = Evaluation.compute env ev k props w := by
  cases h with
  | @branch name rest hname h =>
      obtain ⟨_, ⟨⟩, hp⟩ := Dict.AgreeOff.of_object hp
      have hne : name ≠ "condition" := by
        rcases hname with rfl | rfl <;> decide
      exact conditional_eq_of_branch hp hne h
  | conjunct hitems h =>
      obtain ⟨_, ⟨⟩, hp⟩ := Dict.AgreeOff.of_object hp
      exact Run.bind_congr_left (meets_eq_of_decided hp hitems h)
  | disjunct hitems h =>
      obtain ⟨_, ⟨⟩, hp⟩ := Dict.AgreeOff.of_object hp
      exact Run.bind_congr_left (meets_eq_of_decided hp hitems h)
  | @keyed fields name rest hfields hliteral h =>
      obtain ⟨_, ⟨⟩, hp⟩ := Dict.AgreeOff.of_object hp
      obtain ⟨v', hv', hagree⟩ := hp.get?_of_some hfields
      obtain ⟨d', rfl, hd⟩ := Dict.AgreeOff.of_object hagree
      refine matching_eq_of_literal (hp.get?_eq (by decide)) hfields hv' hliteral
        ((isLiteral_object hd).trans hliteral) fun value w₁ hvalue => ?_
      simp only [select, hd.get?_eq (h value w₁ hvalue)]
  | @remaining name rest hbranches hname h =>
      obtain ⟨_, ⟨⟩, hp⟩ := Dict.AgreeOff.of_object hp
      have hne : ∀ key, isBranchName key = false → key ≠ name := by
        rintro key hkey rfl
        rw [hkey] at hname
        cases hname
      have hbranches' : Dict.get? props' "branches" = none := by
        rw [hp.get?_eq (hne _ (by decide)), hbranches]
      have hgiven : ∀ props : Props, Dict.get? props "branches" = none →
          branches ev props = .value (Dict.get? props "branches") := by
        intro props hprops
        rw [branches, hprops]
      refine matching_eq_of_select (hp.get?_eq (hne _ (by decide))) (hgiven _ hbranches)
        (hgiven _ hbranches') (fun found => by rw [hbranches, hbranches']) fun value w₁ hvalue => ?_
      rw [hbranches, hbranches']
      have hfiltered : Dict.AgreeOff name rest (Dict.filterKeys isBranchName props)
          (Dict.filterKeys isBranchName props') := Dict.Related.filterKeys hp _
      simp only [Option.getD_none, select, hfiltered.get?_eq (h value w₁ hvalue)]
  | @entryValue entries i rest hentries h =>
      obtain ⟨_, ⟨⟩, hp⟩ := Dict.AgreeOff.of_object hp
      obtain ⟨v', hv', hagree⟩ := hp.get?_of_some hentries
      obtain rfl | ⟨before, a, b, after, rfl, rfl, rfl, hab⟩ := hagree.of_array
      · exact matching_eq_of_literal (hp.get?_eq (by decide)) hentries hv' rfl rfl fun _ _ _ => rfl
      · refine matching_eq_of_literal (hp.get?_eq (by decide)) hentries hv' rfl rfl
          fun value w₁ hvalue => Run.bind_congr_left ?_
        refine entryFor_eq_of_not_selected hab fun w₂ hbefore entry w₃ => ?_
        have hnot := h value w₁ hvalue w₂ (by rwa [List.take_left]) entry w₃
        simpa using hnot
  | @entryMatch entries i rest hentries h =>
      obtain ⟨_, ⟨⟩, hp⟩ := Dict.AgreeOff.of_object hp
      obtain ⟨v', hv', hagree⟩ := hp.get?_of_some hentries
      obtain rfl | ⟨before, a, b, after, rfl, rfl, rfl, -⟩ := hagree.of_array
      · exact matching_eq_of_literal (hp.get?_eq (by decide)) hentries hv' rfl rfl fun _ _ _ => rfl
      · refine matching_eq_of_literal (hp.get?_eq (by decide)) hentries hv' rfl rfl
          fun value w₁ hvalue => Run.bind_congr_left ?_
        have hselected := h value w₁ hvalue
        rw [List.take_left] at hselected
        exact (entryFor_append_of_selected hselected _).trans
          (entryFor_append_of_selected hselected _).symm

end JsonExpr
