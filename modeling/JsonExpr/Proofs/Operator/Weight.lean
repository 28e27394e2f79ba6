import JsonExpr.Proofs.DictOrder
import JsonExpr.Proofs.Evaluation.Graded
import JsonExpr.Proofs.Json.Room

/-!
# What properties weigh

The properties of a node, and the children put in their places, are made of the values that the node
writes down, each used once.  So whatever weighs the values, the properties weigh no more than the
entries of the node, and children in their places no more than the children do.  Children are put
into arrays and objects on the way, so there have to be weights for what is built of them.

One kind of object is built with names that the children choose, the parameters of a request; it
could come out as a node, which the children then never were.

Main definitions:

* `JsonExpr.Weighing.Builds` — weights of what is built of values that have weights;
* `JsonExpr.Weighing.Fits` — a bound for what entries weigh whose key satisfies a condition;
* `JsonExpr.Children.MakesNoNode` — children that do not name their parameters like a node.

Main results:

* `JsonExpr.Weighing.ownProps_fits` — own properties weigh no more than the entries they come from;
* `JsonExpr.Weighing.placeChildren_fits` — **children in their places weigh no more than before**.
-/

set_option autoImplicit false

namespace JsonExpr

/-- Children do not name their parameters like a node: they are not taken for one as parameters of
a request. -/
def Children.MakesNoNode (k : OperatorKind) (children : List Json) : Prop :=
  match k with
  | .get | .post => isNode (.object (Children.requestFields (children.drop 1)).1) = false
  | .graphQL => isNode (.object (Children.requestFields (children.drop 2)).1) = false
  | _ => True

namespace Weighing

/-! ### Entries -/

section Entries

variable {W W' : Weighing} {d newer : Dict Json} {p : String → Bool} {n m : Nat} {key : String}
  {v : Json}

theorem total_cons (e : String × Json) (d : Dict Json) :
    W.total (e :: d) = W.weight e.2 + W.total d := by
  rw [total, List.map_cons, List.sum_cons, total]

theorem total_append (d newer : Dict Json) : W.total (d ++ newer) = W.total d + W.total newer := by
  rw [total, List.map_append, List.sum_append_nat, total, total]

theorem total_perm {d d' : Dict Json} (h : d.Perm d') : W.total d = W.total d' :=
  (h.map _).sum_nat

theorem total_filterKeys_cons (p : String → Bool) (e : String × Json) (d : Dict Json) :
    W.total (Dict.filterKeys p (e :: d)) =
      (if p e.1 then W.weight e.2 else 0) + W.total (Dict.filterKeys p d) := by
  unfold Dict.filterKeys
  rw [List.filter_cons]
  by_cases hp : p e.1 = true
  · rw [if_pos hp, if_pos hp, total_cons]
  · rw [if_neg hp, if_neg hp, Nat.zero_add]

/-- All entries may be evaluated, and those whose key satisfies `p` weigh at most `n` together. -/
structure Fits (W : Weighing) (p : String → Bool) (n : Nat) (d : Dict Json) : Prop where
  covers : W.Covers d
  total_le : W.total (Dict.filterKeys p d) ≤ n

theorem Fits.nil : W.Fits p n [] := ⟨(fun _ h => nomatch h), Nat.zero_le n⟩

theorem Fits.mono (h : W.Fits p n d) (hle : n ≤ m) : W.Fits p m d :=
  ⟨h.covers, Nat.le_trans h.total_le hle⟩

/-- A write adds no more than the value weighs, and nothing under a key that does not count. -/
theorem total_filterKeys_insert_le (p : String → Bool) (d : Dict Json) (key : String) (v : Json) :
    W.total (Dict.filterKeys p (Dict.insert d key v)) ≤
      W.total (Dict.filterKeys p d) + if p key then W.weight v else 0 := by
  rw [Dict.filterKeys_insert]
  by_cases hp : p key = true
  · rw [if_pos hp, if_pos hp]
    exact Dict.sum_insert_le (fun e => W.weight e.2) (Dict.filterKeys p d) key v
  · rw [if_neg hp, if_neg hp, Nat.add_zero]

theorem Fits.insert (h : W.Fits p n d) (hv : W.domain v) (key : String) :
    W.Fits p (n + if p key then W.weight v else 0) (Dict.insert d key v) := by
  refine ⟨fun e he => ?_, ?_⟩
  · rcases Dict.mem_of_mem_insert he with hmem | rfl
    · exact h.covers e hmem
    · exact hv
  · have hinsert := total_filterKeys_insert_le (W := W) p d key v
    have htotal := h.total_le
    omega

theorem Fits.insert_le (h : W.Fits p n d) (hv : W.domain v) (hle : n + W.weight v ≤ m)
    (key : String) : W.Fits p m (Dict.insert d key v) := by
  refine (h.insert hv key).mono ?_
  split <;> omega

theorem Fits.extend (h : W.Fits p n d) (covered : W.Covers newer) :
    W.Fits p (n + W.total newer) (Dict.extend d newer) := by
  unfold Dict.extend
  induction newer generalizing d n with
  | nil => exact h
  | cons e rest ih =>
      obtain ⟨he, hrest⟩ := List.forall_mem_cons.mp covered
      rw [total_cons, ← Nat.add_assoc]
      exact ih (h.insert_le he (Nat.le_refl _) e.1) hrest

/-- Names paired with values weigh no more than the values that get a name. -/
theorem total_zip_le (names : List String) (values : List Json) :
    W.total (names.zip values) ≤ ((values.take names.length).map W.weight).sum := by
  induction names generalizing values with
  | nil => exact Nat.zero_le _
  | cons name names ih =>
      cases values with
      | nil => exact Nat.zero_le _
      | cons v rest =>
          rw [List.zip_cons_cons, total_cons, List.length_cons, List.take_succ_cons, List.map_cons,
            List.sum_cons]
          exact Nat.add_le_add_left (ih rest) _

theorem covers_zip {values : List Json} (h : ∀ v ∈ values, W.domain v) (names : List String) :
    W.Covers (names.zip values) :=
  fun _ he => h _ (List.of_mem_zip he).2

/-- Taking a key out leaves the other entries. -/
theorem Fits.swapRemove (h : W.Fits p n d) {fallback : Json} {key : String}
    (hkey : Dict.get? d key = some fallback) (hp : p key = true) :
    W.weight fallback ≤ n ∧ W.Fits p (n - W.weight fallback) (Dict.swapRemove d key) := by
  have hperm := Dict.perm_swapRemove hkey
  have htotal : W.total (Dict.filterKeys p d) =
      W.weight fallback + W.total (Dict.filterKeys p (Dict.swapRemove d key)) := by
    have hfiltered : (Dict.filterKeys p d).Perm
        (Dict.filterKeys p ((key, fallback) :: Dict.swapRemove d key)) := hperm.filter _
    rw [total_perm hfiltered, total_filterKeys_cons, if_pos hp]
  have hle := h.total_le
  refine ⟨by omega, ⟨fun e he => ?_, by omega⟩⟩
  exact h.covers e (hperm.mem_iff.mpr (List.mem_cons_of_mem _ he))

end Entries

/-! ### Own properties -/

section Own

variable {W : Weighing} {k : OperatorKind} {n : Nat} {props : Props}

/-- No parameter has `type` as an alias. -/
theorem canonicalName?_type (k : OperatorKind) : k.schema.canonicalName? Key.type = none := by
  cases k <;> decide

/-- The entries of a node that its operator may read. -/
def owns (k : OperatorKind) (key : String) : Bool := !isReserved key && k.reads key

theorem addProp_fits (h : W.Fits k.reads n props) {v : Json} (key : String)
    (hv : isReserved key = false → W.domain v) :
    W.Fits k.reads (n + if owns k key then W.weight v else 0) (addProp k.schema props key v) := by
  unfold addProp
  by_cases hreserved : isReserved key = true
  · rw [if_pos hreserved]
    exact h.mono (Nat.le_add_right _ _)
  · have hfree : isReserved key = false := Bool.not_eq_true _ ▸ hreserved
    rw [if_neg hreserved]
    cases hcanonical : k.schema.canonicalName? key with
    | some canonical =>
        have hne : key ≠ Key.type := by
          rintro rfl
          rw [canonicalName?_type] at hcanonical
          cases hcanonical
        have howns : owns k key = true := by simp [owns, OperatorKind.reads, hfree, hne]
        rw [if_pos howns]
        dsimp only
        unfold Dict.insertIfNew
        split
        · exact h.mono (Nat.le_add_right _ _)
        · exact h.insert_le (hv hfree) (Nat.le_refl _) canonical
    | none =>
        have howns : owns k key = k.reads key := by simp [owns, hfree]
        rw [howns]
        exact h.insert (hv hfree) key

/-- **Own properties weigh no more than the entries of the node that they come from.** -/
theorem ownProps_fits {node : Dict Json}
    (covered : ∀ e ∈ node, isReserved e.1 = false → W.domain e.2) :
    W.Fits k.reads (W.total (Dict.filterKeys (owns k) node)) (ownProps k.schema node) := by
  -- By induction on the node, for all properties that may be there before.
  have hfold : ∀ n props, W.Fits k.reads n props →
      W.Fits k.reads (n + W.total (Dict.filterKeys (owns k) node))
        (node.foldl (fun props entry => addProp k.schema props entry.1 entry.2) props) := by
    induction node with
    | nil => exact fun _ _ h => h
    | cons e rest ih =>
        intro n props h
        obtain ⟨he, hrest⟩ := List.forall_mem_cons.mp covered
        rw [total_filterKeys_cons, ← Nat.add_assoc]
        exact ih hrest _ _ (addProp_fits h e.1 he)
  have hall := hfold 0 [] Fits.nil
  rwa [Nat.zero_add] at hall

end Own

/-! ### Children in their places -/

/-- Weights `W'` of what is built of values with weights `W`: arrays, objects that are no nodes, and
`null` in the place of a value that is not there. -/
structure Builds (W W' : Weighing) : Prop where
  keeps : ∀ {v : Json}, W.domain v → W'.domain v ∧ W'.weight v ≤ W.weight v
  null : W.domain .null ∧ W.weight .null = 0
  array : ∀ {items : List Json}, (∀ v ∈ items, W.domain v) →
    W'.domain (.array items) ∧ W'.weight (.array items) ≤ (items.map W.weight).sum
  object : ∀ {fields : Dict Json}, W.Covers fields → isNode (.object fields) = false →
    W'.domain (.object fields) ∧ W'.weight (.object fields) ≤ W.total fields

section Placed

variable {W W' W'' : Weighing} {p : String → Bool} {n : Nat} {props : Props} {children : List Json}

theorem Fits.of_builds (B : Builds W W') {d : Dict Json} (h : W.Fits p n d) : W'.Fits p n d := by
  refine ⟨fun e he => (B.keeps (h.covers e he)).1, Nat.le_trans ?_ h.total_le⟩
  have hcovers := h.covers.filterKeys p
  generalize Dict.filterKeys p d = kept at hcovers
  induction kept with
  | nil => exact Nat.le_refl 0
  | cons e rest ih =>
      obtain ⟨he, hrest⟩ := List.forall_mem_cons.mp hcovers
      rw [total_cons, total_cons]
      exact Nat.add_le_add (B.keeps he).2 (ih hrest)

theorem byNames_fits (h : W.Fits p n props) (hchildren : ∀ v ∈ children, W.domain v)
    (names : List String) :
    W.Fits p (n + ((children.take names.length).map W.weight).sum)
      (Children.byNames names children props) := by
  exact (h.extend (covers_zip hchildren names)).mono
    (Nat.add_le_add_left (total_zip_le names children) n)

theorem sum_take_add_sum_drop (i : Nat) (values : List Json) :
    ((values.take i).map W.weight).sum + ((values.drop i).map W.weight).sum =
      (values.map W.weight).sum := by
  rw [← List.sum_append_nat, ← List.map_append, List.take_append_drop]

theorem headAndRest_fits (B : Builds W W') (h : W.Fits p n props)
    (hchildren : ∀ v ∈ children, W.domain v) (first rest : String) :
    W'.Fits p (n + (children.map W.weight).sum)
      (Children.headAndRest first rest children props) := by
  obtain ⟨hdomain, hweight⟩ := B.array fun v hv => hchildren v (List.mem_of_mem_drop hv)
  have hsplit := sum_take_add_sum_drop (W := W) 1 children
  refine ((byNames_fits h hchildren [first]).of_builds B).insert_le hdomain ?_ rest
  simp only [List.length_singleton] at *
  omega

/-- Names with values, or with `null` where there are none left. -/
theorem zipNames_le (hnull : W.domain .null ∧ W.weight .null = 0) {values : List Json}
    (hvalues : ∀ v ∈ values, W.domain v) (names : List String) :
    W.Covers (Children.zipNames names values) ∧
      W.total (Children.zipNames names values) ≤
        ((values.take names.length).map W.weight).sum := by
  induction names generalizing values with
  | nil => exact ⟨(fun _ h => nomatch h), Nat.zero_le _⟩
  | cons name names ih =>
      cases values with
      | nil =>
          obtain ⟨hcovers, htotal⟩ := ih hvalues
          refine ⟨List.forall_mem_cons.mpr ⟨hnull.1, hcovers⟩, ?_⟩
          rw [Children.zipNames, total_cons, hnull.2, Nat.zero_add]
          simpa using htotal
      | cons v rest =>
          obtain ⟨hv, hrest⟩ := List.forall_mem_cons.mp hvalues
          obtain ⟨hcovers, htotal⟩ := ih hrest
          refine ⟨List.forall_mem_cons.mpr ⟨hv, hcovers⟩, ?_⟩
          rw [Children.zipNames, total_cons, List.length_cons, List.take_succ_cons, List.map_cons,
            List.sum_cons]
          exact Nat.add_le_add_left htotal _

/-- Entries written into an empty dictionary weigh no more than before. -/
theorem ofPairs_le {entries : Dict Json} (h : W.Covers entries) :
    W.Covers (Dict.ofPairs entries) ∧ W.total (Dict.ofPairs entries) ≤ W.total entries := by
  have hall : ∀ d : Dict Json, Dict.filterKeys (fun _ => true) d = d := fun d =>
    List.filter_eq_self.mpr fun _ _ => rfl
  have hfits := Fits.extend (W := W) (p := fun _ => true) (n := 0) Fits.nil h
  refine ⟨hfits.covers, ?_⟩
  have htotal := hfits.total_le
  rwa [hall, Nat.zero_add] at htotal

theorem placeRequest_fits (B : Builds W W') (h : W'.Fits p n props)
    (hchildren : ∀ v ∈ children, W.domain v)
    (hnode : isNode (.object (Children.requestFields children).1) = false)
    (fields last : String) :
    W'.Fits p (n + (children.map W.weight).sum)
      (Children.placeRequest fields last children props) := by
  have hrest : ∀ v ∈ children.drop 1, W.domain v := fun v hv => hchildren v (List.mem_of_mem_drop hv)
  obtain ⟨hnamed, hnames⟩ := zipNames_le B.null hrest (Children.fieldNames children)
  obtain ⟨hcovers, htotal⟩ := ofPairs_le hnamed
  obtain ⟨hdomain, hweight⟩ := B.object hcovers hnode
  have hsplit := sum_take_add_sum_drop (W := W) (Children.fieldNames children).length
    (children.drop 1)
  have hfirst := sum_take_add_sum_drop (W := W) 1 children
  unfold Children.placeRequest
  dsimp only [Children.requestFields] at *
  have hparameters := h.insert_le (m := n + ((children.drop 1).take
    (Children.fieldNames children).length |>.map W.weight).sum) hdomain (by omega) fields
  cases hextra : ((children.drop 1).drop (Children.fieldNames children).length).head? with
  | none => exact hparameters.mono (by omega)
  | some v =>
      obtain ⟨others, hothers⟩ := List.head?_eq_some_iff.mp hextra
      have hmem : v ∈ (children.drop 1).drop (Children.fieldNames children).length :=
        hothers ▸ List.mem_cons_self
      obtain ⟨hv, hle⟩ := B.keeps (hrest v (List.mem_of_mem_drop hmem))
      rw [hothers, List.map_cons, List.sum_cons] at hsplit
      exact hparameters.insert_le hv (by omega) last

/-- Pairs of values weigh no more than the values. -/
theorem pairs?_le (B : Builds W W') {first second : String}
    (hnode : ∀ a b, isNode (.object [(first, a), (second, b)]) = false) :
    ∀ {children entries : List Json}, (∀ v ∈ children, W.domain v) →
      Children.pairs? first second children = some entries →
      (∀ v ∈ entries, W'.domain v) ∧
        (entries.map W'.weight).sum ≤ (children.map W.weight).sum
  | [], _, _, h => by
      cases h
      exact ⟨(fun _ h => nomatch h), Nat.zero_le _⟩
  | [_], _, _, h => by cases h
  | a :: b :: rest, entries, hchildren, h => by
      obtain ⟨others, hothers, rfl⟩ := Option.map_eq_some_iff.mp h
      obtain ⟨ha, hmore⟩ := List.forall_mem_cons.mp hchildren
      obtain ⟨hb, hrest⟩ := List.forall_mem_cons.mp hmore
      obtain ⟨hdomain, hsum⟩ := pairs?_le B hnode hrest hothers
      have hpair : W.Covers [(first, a), (second, b)] :=
        List.forall_mem_cons.mpr ⟨ha, List.forall_mem_singleton.mpr hb⟩
      obtain ⟨hobject, hweight⟩ := B.object hpair (hnode a b)
      refine ⟨List.forall_mem_cons.mpr ⟨hobject, hdomain⟩, ?_⟩
      have htotal : W.total [(first, a), (second, b)] = W.weight a + W.weight b := rfl
      simp only [List.map_cons, List.sum_cons]
      omega

/-- **Children in their places weigh no more than before.** -/
theorem placeChildren_fits (B : Builds W W') (B' : Builds W' W'') {k : OperatorKind}
    (h : W.Fits p n props) (hchildren : ∀ v ∈ children, W.domain v)
    (plain : Children.MakesNoNode k children) {placed : Props}
    (hplaced : placeChildren k children props = .ok placed) :
    W''.Fits p (n + (children.map W.weight).sum) placed := by
  have hdrop : ∀ i, ∀ v ∈ children.drop i, W.domain v := fun i v hv =>
    hchildren v (List.mem_of_mem_drop hv)
  have hsplit := fun i => sum_take_add_sum_drop (W := W) i children
  have hnames : ∀ names : List String, W'.Fits p (n + (children.map W.weight).sum)
      (Children.byNames names children props) := fun names =>
    ((byNames_fits h hchildren names).mono
      (Nat.add_le_add_left (Nat.le.intro (hsplit names.length)) n)).of_builds B
  cases k <;> simp only [placeChildren, Except.ok.injEq] at hplaced
  case conditional | regex | split | passthru | objectProperties =>
    subst hplaced
    exact (hnames _).of_builds B'
  case stringSubstitution | pgSql | customFunctions =>
    subst hplaced
    exact (headAndRest_fits B h hchildren _ _).of_builds B'
  case get | post =>
    subst hplaced
    have hurl := (byNames_fits h hchildren ["url"]).of_builds B
    have hplaced := placeRequest_fits B hurl (hdrop 1) plain "parameters" "returnProperty"
    rw [Nat.add_assoc, List.length_singleton, hsplit] at hplaced
    exact hplaced.of_builds B'
  case graphQL =>
    subst hplaced
    have hquery := (byNames_fits h hchildren ["query", "url"]).of_builds B
    have hplaced := placeRequest_fits B hquery (hdrop 2) plain "variables" "returnNode"
    rw [Nat.add_assoc, List.length_cons, List.length_singleton, hsplit] at hplaced
    exact hplaced.of_builds B'
  case buildObject =>
    cases hpairs : Children.pairs? "key" "value" children with
    | none =>
        rw [hpairs] at hplaced
        cases hplaced
    | some entries =>
        rw [hpairs] at hplaced
        cases hplaced
        obtain ⟨hentries, hsum⟩ := pairs?_le B (fun _ _ => rfl) hchildren hpairs
        obtain ⟨hdomain, hweight⟩ := B'.array hentries
        exact ((h.of_builds B).of_builds B').insert_le hdomain (by omega) _
  case matching =>
    cases hpairs : Children.pairs? "match" "value" (children.drop 1) with
    | none =>
        rw [hpairs] at hplaced
        cases hplaced
    | some branches =>
        rw [hpairs] at hplaced
        cases hplaced
        obtain ⟨hbranches, hsum⟩ := pairs?_le B (fun _ _ => rfl) (hdrop 1) hpairs
        obtain ⟨hdomain, hweight⟩ := B'.array hbranches
        have hfirst := byNames_fits h hchildren ["matchExpression"]
        have hone := hsplit 1
        exact ((hfirst.of_builds B).of_builds B').insert_le hdomain (by
          simp only [List.length_singleton]
          omega) _
  all_goals
    subst hplaced
    obtain ⟨hdomain, hweight⟩ := B.array hchildren
    exact ((h.of_builds B).insert_le hdomain (by omega) _).of_builds B'

end Placed

end Weighing

/-! ### Gathered properties -/

namespace Evaluation

variable {ev : Evaluator Failure} {k : OperatorKind} {node : Dict Json} {w w' : World}

/-- The children of a node are those it writes down, or those that it evaluates to. -/
theorem childList_eq_ok {children : Json} {items : List Json}
    (h : childList ev k children w = (some (.ok items), w')) :
    (children = .array items ∧ w' = w) ∨
      ((∀ items, children ≠ .array items) ∧
        ev children w = (some (.ok (.array items)), w')) := by
  unfold childList at h
  cases children with
  | array _ =>
      cases h
      exact .inl ⟨rfl, rfl⟩
  | _ =>
      obtain ⟨e, -, he⟩ | ⟨v, w₁, hv, hitems⟩ := Run.andThen_finished h
      · cases he
      · cases v with
        | array _ =>
            cases hitems
            exact .inr ⟨(fun _ heq => nomatch heq), hv⟩
        | _ => cases hitems

/-- The properties of a node are its own, with its children in their places. -/
theorem gather_eq_ok {props : Props} (h : gather ev k node w = (some (.ok props), w')) :
    (Dict.get? node Key.children = none ∧ props = ownProps k.schema node ∧ w' = w) ∨
      ∃ children items, Dict.get? node Key.children = some children ∧
        childList ev k children w = (some (.ok items), w') ∧
        placeChildren k items (ownProps k.schema node) = .ok props := by
  unfold gather at h
  cases hchildren : Dict.get? node Key.children with
  | none =>
      rw [hchildren] at h
      cases h
      exact .inl ⟨rfl, rfl, rfl⟩
  | some children =>
      rw [hchildren] at h
      obtain ⟨e, -, he⟩ | ⟨items, w₁, hitems, hplaced⟩ := Run.andThen_finished h
      · cases he
      · rw [Run.ofExcept_apply] at hplaced
        cases hp : placeChildren k items (ownProps k.schema node) with
        | error fault =>
            rw [hp] at hplaced
            cases hplaced
        | ok placed =>
            rw [hp] at hplaced
            cases hplaced
            exact .inr ⟨children, items, rfl, hitems, hp⟩

end Evaluation

end JsonExpr
