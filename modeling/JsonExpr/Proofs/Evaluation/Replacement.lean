import JsonExpr.Proofs.Evaluation.Mirror
import JsonExpr.Proofs.Evaluation.Written

/-!
# Replacing an operand by its value

An operand that is evaluated without asking anything may as well be written as its value, if the
value is one that evaluates to itself.  That is not because it is evaluated to the same value in the
same place: it may be evaluated later than the operands before it, more than once, after a failure
or not at all, and bindings that it looks up would have been given their values by it.  It is
because it is settled in the scope of its node, and so is the value.

For most operators it is enough that the two evaluate alike.  Where the list of operands is written
out, or becomes so, there is more to be said: conjunction and disjunction do not check what is
written out, and children are taken apart before they are evaluated.

Main definitions:

* `JsonExpr.Evaluation.Silently` — an evaluation that asks nothing, so `Silently env s v v` says of
  a value that it evaluates to itself;
* `JsonExpr.Evaluation.ReplacesOperand` — nodes that differ in one operand;
* `JsonExpr.Json.Like`, `JsonExpr.Json.Exchange` — expressions that evaluate alike, and expressions
  that may be exchanged as properties of a node.

Main results:

* `JsonExpr.Evaluation.Silently.of_eval` — one run that asks nothing is enough, with no cache;
* `JsonExpr.Inert.silently`, `JsonExpr.Evaluation.Silently.of_bound` — literals evaluate to
  themselves in every scope, and names to what they are bound to;
* `JsonExpr.Json.Exchange.of_hasValue` — an expression may be exchanged for its value;
* `JsonExpr.Evaluation.operatorBody_mirrors` — nodes with exchanged properties come to the same;
* `JsonExpr.operand_may_be_replaced_by_its_value` — **replacing an operand by its value changes
  nothing**.
-/

set_option autoImplicit false

namespace JsonExpr

/-- Names with related values. -/
theorem Dict.Related.zip {α β : Type} {S : α → β → Prop} (names : List String) {as : List α}
    {bs : List β} (h : List.Forall₂ S as bs) :
    Dict.Related (fun _ => S) (names.zip as) (names.zip bs) := by
  induction h generalizing names with
  | nil =>
      rw [List.zip_nil_right, List.zip_nil_right]
      exact .nil
  | cons hs _ ih =>
      cases names with
      | nil => exact .nil
      | cons name names => exact .cons hs (ih names)

/-! ### Evaluations that ask nothing -/

namespace Evaluation

/-- An expression that comes to a value without a question and without the cache. -/
def Silently (env : Env) (s : Scope) (e v : Json) : Prop :=
  ∃ depth, ∀ cache history, ∃ s₁,
    eval env depth e ⟨s, cache, history⟩ = (some (.ok v), ⟨s₁, cache, history⟩)

/-- One run without a question is enough, if there is no cache that could have answered it. -/
theorem Silently.of_eval {env : Env} {depth : Nat} {s : Scope} {e v : Json} {asked : History}
    {w₁ : World}
    (hrun : eval env depth e ⟨s, ResultCache.empty 0, asked⟩ = (some (.ok v), w₁))
    (hquiet : w₁.history = asked) : Silently env s e v := by
  obtain ⟨n, within⟩ := Scope.exists_settledWithin env s
  have hsettled := SettledAt.of_eval within (.refl env s) hrun
    (Nat.le_of_eq (congrArg List.length hquiet))
  refine ⟨depth + n, fun cache history => ?_⟩
  obtain ⟨s₁, hrun, -⟩ := hsettled s (.refl env s) cache history
  exact ⟨s₁, hrun⟩

/-- What comes to a value silently is settled, within some depth. -/
theorem Silently.exists_settledAt {env : Env} {base : Scope} {n : Nat} {e v : Json}
    (h : Silently env base e v) (within : Scope.SettledWithin env n base) :
    ∃ depth, SettledAt env base depth e (.ok v) := by
  obtain ⟨depth, hrun⟩ := h
  obtain ⟨s₁, hrun⟩ := hrun (ResultCache.empty 0) []
  exact ⟨depth + n, .of_eval within (.refl env base) hrun (Nat.le_refl _)⟩

end Evaluation

open Evaluation (Silently SettledAt Settled)

/-- Literals evaluate to themselves in every scope. -/
theorem Inert.silently {env : Env} {v : Json} (h : Inert env v) (s : Scope) :
    Silently env s v v := by
  obtain ⟨depth, hliteral⟩ := h.exists_literalAt
  exact ⟨depth, fun _ _ => ⟨s, (hliteral _).eval_eq rfl⟩⟩

/-- A name refers to a binding where strings are not read as nodes. -/
theorem Evaluation.referenceOf?_of_name {env : Env} {name : String}
    (reads : env.options.readsStrings = false) (hname : isBindingName name = true) :
    referenceOf? env (.string name) = some name := by
  simp [referenceOf?, Json.asString?, Option.filter, reads, hname]

/-- A name that the nearest frame binds comes to what it is bound to. -/
theorem Evaluation.Silently.of_bound {env : Env} {name : String} {frame : Frame} {slot : Slot}
    {outer : Scope} {v : Json} (hname : Evaluation.referenceOf? env (.string name) = some name)
    (hget : Dict.get? frame name = some slot) (hvalue : slot.value = none)
    (h : Silently env outer slot.expression v) :
    Silently env (frame :: outer) (.string name) v := by
  obtain ⟨depth, hrun⟩ := h
  refine ⟨depth + 1, fun cache history => ?_⟩
  obtain ⟨s₁, hrun⟩ := hrun cache history
  rw [eval, Evaluation.node_of_reference hname]
  exact ⟨_, Run.bind_of_ok (Evaluator.reference_of_eval hget hvalue hrun)⟩

/-! ### Expressions that evaluate alike -/

/-- Wherever scopes agree, the second expression comes to the same as the first, within a depth that
is greater by `n`. -/
def Json.Like (env : Env) (base : Scope) (n : Nat) (x x' : Json) : Prop :=
  ∀ depth, Run.Mirrors env base Eq (eval env depth x) (eval env (depth + n) x')

/-- An expression that comes to a value, all within a depth: without a question, and element by
element if it is an array; and the value and its elements evaluate to themselves. -/
structure Json.HasValue (env : Env) (base : Scope) (n : Nat) (e v : Json) : Prop where
  settled : SettledAt env base n e (.ok v)
  settledItems : ∀ items, e = .array items → ∃ vs, v = .array vs ∧
    List.Forall₂ (fun item u => SettledAt env base n item (.ok u)) items vs
  fixed : SettledAt env base n v (.ok v)
  fixedItems : ∀ vs, v = .array vs → ∀ u ∈ vs, SettledAt env base n u (.ok u)

/-- Two expressions that may be exchanged as properties of a node: they evaluate alike, arrays do so
element by element, and what evaluates to an array that is written out comes to it. -/
structure Json.Exchange (env : Env) (base : Scope) (n : Nat) (x x' : Json) : Prop where
  like : Json.Like env base n x x'
  items : ∀ items items', x = .array items → x' = .array items' →
    List.Forall₂ (Json.Like env base n) items items'
  computed : x.isArray = false → x'.isArray = true → Json.HasValue env base n x x'
  written : x.isArray = true → x'.isArray = false → Json.HasValue env base n x' x

section Settled

variable {env : Env} {base : Scope} {n : Nat} {e v : Json}

/-- A settled expression is as good as its value. -/
theorem Evaluation.SettledAt.mirrors_value (h : SettledAt env base n e (.ok v)) (depth : Nat) :
    Run.Mirrors env base Eq (eval env depth e) (Run.value v) := by
  intro s s' cache history outcome s₁ cache₁ history₁ hagree hrun
  obtain ⟨rfl, _, ⟨⟩, hagree₁⟩ := Settled.eval_eq ⟨n, h⟩ hagree.left hrun
  exact ⟨_, s', rfl, .ok rfl, hagree₁.symm.trans hagree⟩

/-- The value of a settled expression is as good as the expression, from some depth on. -/
theorem Evaluation.SettledAt.value_mirrors (h : SettledAt env base n e (.ok v)) (depth : Nat) :
    Run.Mirrors env base Eq (Run.value v) (eval env (depth + n) e) := by
  intro s s' cache history outcome s₁ cache₁ history₁ hagree hrun
  cases hrun
  obtain ⟨s₁', hrun', hagree'⟩ := h.mono (Nat.le_add_left n depth) s' hagree.right cache history
  exact ⟨_, s₁', hrun', .ok rfl, hagree.trans hagree'⟩

end Settled

namespace Json

variable {env : Env} {base : Scope} {n m : Nat} {x x' e e' v : Json}

namespace Like

theorem refl (within : Scope.SettledWithin env n base) (x : Json) : Like env base n x x :=
  fun depth => .of_follows (eval_agree depth base within x)

/-- Expressions that are settled with the same value evaluate alike. -/
theorem of_settled (h : SettledAt env base n e (.ok v)) (h' : SettledAt env base n e' (.ok v)) :
    Like env base n e e' :=
  fun depth => (h.mirrors_value depth).trans (h'.value_mirrors depth)

/-- Arrays are evaluated alike if their elements are. -/
theorem array {items items' : List Json} (h : List.Forall₂ (Like env base n) items items') :
    Like env base n (.array items) (.array items') := by
  intro depth
  cases depth with
  | zero =>
      intro s s' cache history outcome s₁ cache₁ history₁ hagree hrun
      cases hrun
  | succ depth =>
      rw [Nat.add_right_comm]
      have hall : Run.Mirrors env base Eq ((eval env depth).all items)
          ((eval env (depth + n)).all items') :=
        Run.Mirrors.traverse (fun _ _ hlike => hlike depth) h
      exact hall.bind_eq fun vs => Run.Mirrors.value rfl

/-- What is evaluated alike is so inside an operator. -/
theorem inside (h : Like env base n x x') (depth : Nat) :
    Run.Mirrors env base Eq (Evaluation.inside (eval env depth) x)
      (Evaluation.inside (eval env (depth + n)) x') :=
  (h depth).mapFailure _

end Like

namespace HasValue

/-- An array comes to an array. -/
theorem isArray (h : HasValue env base n e v) (he : e.isArray = true) : v.isArray = true := by
  obtain ⟨items, rfl⟩ := Json.eq_array_of_isArray he
  obtain ⟨vs, rfl, -⟩ := h.settledItems items rfl
  rfl

theorem items (h : HasValue env base n e v) {items vs : List Json} (he : e = .array items)
    (hv : v = .array vs) :
    List.Forall₂ (fun item u => SettledAt env base n item (.ok u) ∧ SettledAt env base n u (.ok u))
      items vs := by
  obtain ⟨_, hvs, hitems⟩ := h.settledItems items he
  cases hv.symm.trans hvs
  have hboth := (List.forall₂_and_left _ _).mpr ⟨h.fixedItems vs hv, hitems.flip⟩
  exact hboth.flip.imp fun _ _ => And.symm

end HasValue

namespace Exchange

theorem refl (within : Scope.SettledWithin env n base) (x : Json) : Exchange env base n x x where
  like := .refl within x
  items items items' hx hx' := by
    cases hx.symm.trans hx'
    exact List.forall₂_same.mpr fun u _ => .refl within u
  computed h h' := nomatch h.symm.trans h'
  written h h' := nomatch h.symm.trans h'

theorem array {items items' : List Json} (h : List.Forall₂ (Like env base n) items items') :
    Exchange env base n (.array items) (.array items') where
  like := .array h
  items _ _ hx hx' := by
    cases hx
    cases hx'
    exact h
  computed h := nomatch h
  written _ h := nomatch h

/-- **An expression may be exchanged for its value.** -/
theorem of_hasValue (h : HasValue env base n e v) : Exchange env base n e v where
  like := .of_settled h.settled h.fixed
  items _ _ he hv := (h.items he hv).imp fun _ _ hitem => .of_settled hitem.1 hitem.2
  computed _ _ := h
  written he hv := nomatch (h.isArray he).symm.trans hv

/-- A value may be exchanged for an expression that comes to it. -/
theorem of_hasValue_symm (h : HasValue env base n e v) : Exchange env base n v e where
  like := .of_settled h.fixed h.settled
  items _ _ hv he :=
    ((h.items he hv).imp fun _ _ hitem => Like.of_settled hitem.2 hitem.1).flip
  computed hv he := nomatch (h.isArray he).symm.trans hv
  written _ _ := h

end Exchange

end Json

open Json (Like Exchange HasValue)

namespace Evaluation

/-! ### Conjunction and disjunction -/

section Deciding

variable {env : Env} {base : Scope} {n : Nat} {k : OperatorKind} {props props' : Props}

theorem scan_verbatim (wanted : Bool) (vs : List Json) :
    Branching.scan Evaluator.verbatim wanted vs =
      Run.value (vs.any fun u => u.truthy == wanted) := by
  funext w
  exact scan_of_values (fun u _ => rfl) wanted

theorem decideAll_mirrors (wanted : Bool) (v : Json) :
    Run.Mirrors env base Eq (decideAll env k wanted v) (decideAll env k wanted v) :=
  .guarded _ (.value rfl)

/-- Operands that are computed decide as they do when their values are written out. -/
theorem decideAll_mirrors_scan (hk : k = .and ∨ k = .or) (wanted : Bool) {e : Json}
    {vs : List Json} (h : HasValue env base n e (.array vs)) (depth : Nat) :
    Run.Mirrors env base Eq (inside (eval env depth) e >>= decideAll env k wanted)
        (Branching.scan (inside (eval env (depth + n))) wanted vs) ∧
      Run.Mirrors env base Eq (Branching.scan (inside (eval env depth)) wanted vs)
        (inside (eval env (depth + n)) e >>= decideAll env k wanted) := by
  -- Both decide as the values do when they are taken as they are.
  have hvalue : decideAll env k wanted (.array vs) =
      Branching.scan Evaluator.verbatim wanted vs := by
    rw [decideAll_array hk, scan_verbatim]
  have hfixed : List.Forall₂ (fun u u' => u = u' ∧ SettledAt env base n u (.ok u)) vs vs :=
    List.forall₂_same.mpr fun u hu => ⟨rfl, h.fixedItems vs rfl u hu⟩
  constructor
  · have hleft : Run.Mirrors env base Eq (inside (eval env depth) e) (Run.value (.array vs)) :=
      (h.settled.mirrors_value depth).mapFailure _
    refine (hleft.bind_eq (decideAll_mirrors wanted)).trans ?_
    show Run.Mirrors env base Eq (decideAll env k wanted (.array vs)) _
    rw [hvalue]
    refine .scan (fun u u' hu => ?_) wanted hfixed
    obtain ⟨rfl, hu⟩ := hu
    exact (hu.value_mirrors depth).mapFailure _
  · have hright : Run.Mirrors env base Eq (Run.value (.array vs))
        (inside (eval env (depth + n)) e) :=
      (h.settled.value_mirrors depth).mapFailure _
    refine .trans ?_ (hright.bind_eq (decideAll_mirrors wanted))
    show Run.Mirrors env base Eq _ (decideAll env k wanted (.array vs))
    rw [hvalue]
    refine .scan (fun u u' hu => ?_) wanted hfixed
    obtain ⟨rfl, hu⟩ := hu
    exact (hu.mirrors_value depth).mapFailure _

theorem meets_mirrors (hk : k = .and ∨ k = .or) (wanted : Bool)
    (hprops : Dict.Related (fun _ => Exchange env base n) props props') (depth : Nat) :
    Run.Mirrors env base Eq (Branching.meets env (inside (eval env depth)) k wanted props)
      (Branching.meets env (inside (eval env (depth + n))) k wanted props') := by
  have hlike : ∀ x x', Exchange env base n x x' → Run.Mirrors env base Eq
      (inside (eval env depth) x) (inside (eval env (depth + n)) x') :=
    fun x x' h => h.like.inside depth
  rcases hprops.get? "values" with ⟨hget, hget'⟩ | ⟨x, x', hget, hget', hexchange⟩
  · unfold Branching.meets
    rw [hget, hget']
    exact (Run.Mirrors.operands hlike hprops _).bind_eq fun _ => .guarded _ (.value rfl)
  · cases hx : x.isArray <;> cases hx' : x'.isArray
    · rw [meets_of_computed hget hx, meets_of_computed hget' hx']
      exact (hlike x x' hexchange).bind_eq (decideAll_mirrors wanted)
    · obtain ⟨vs, rfl⟩ := Json.eq_array_of_isArray hx'
      rw [meets_of_computed hget hx, meets_of_array hget']
      exact (decideAll_mirrors_scan hk wanted (hexchange.computed hx hx') depth).1
    · obtain ⟨vs, rfl⟩ := Json.eq_array_of_isArray hx
      rw [meets_of_array hget, meets_of_computed hget' hx']
      exact (decideAll_mirrors_scan hk wanted (hexchange.written hx hx') depth).2
    · obtain ⟨items, rfl⟩ := Json.eq_array_of_isArray hx
      obtain ⟨items', rfl⟩ := Json.eq_array_of_isArray hx'
      rw [meets_of_array hget, meets_of_array hget']
      exact .scan (fun u u' hu => hu.inside depth) wanted (hexchange.items _ _ rfl rfl)

end Deciding

/-! ### Properties -/

/-- Properties of an operator that evaluate alike, or may be exchanged if it is a conjunction or a
disjunction. -/
def Operand (env : Env) (base : Scope) (n : Nat) (k : OperatorKind) (x x' : Json) : Prop :=
  Like env base n x x' ∧ (k = .and ∨ k = .or → Exchange env base n x x')

section Properties

variable {env : Env} {base : Scope} {n : Nat} {k : OperatorKind} {props props' : Props}
  {items items' : List Json}

theorem ownProps_related {R : Json → Json → Prop} {node node' : Dict Json} (schema : OperatorSchema)
    (h : Dict.Related (fun _ => R) node node') :
    Dict.Related (fun _ => R) (ownProps schema node) (ownProps schema node') := by
  -- By induction on the nodes, for all properties that may be there before.
  have hfold : ∀ props props' : Props, Dict.Related (fun _ => R) props props' →
      Dict.Related (fun _ => R)
        (node.foldl (fun props entry => addProp schema props entry.1 entry.2) props)
        (node'.foldl (fun props entry => addProp schema props entry.1 entry.2) props') := by
    induction h with
    | nil => exact fun _ _ hprops => hprops
    | cons hr _ ih =>
        refine fun props props' hprops => ih _ _ ?_
        dsimp only [addProp]
        split
        · exact hprops
        · split
          · exact hprops.insertIfNew hr
          · exact hprops.insert hr
  exact hfold [] [] .nil

theorem byNames_related {R : Json → Json → Prop} (names : List String)
    (hprops : Dict.Related (fun _ => R) props props') (hitems : List.Forall₂ R items items') :
    Dict.Related (fun _ => R) (Children.byNames names items props)
      (Children.byNames names items' props') :=
  hprops.extend (.zip names hitems)

/-- Children that evaluate alike become properties that do. -/
theorem placeChildren_related (hk : k.looksInside = false)
    (hprops : Dict.Related (fun _ => Operand env base n k) props props')
    (hitems : List.Forall₂ (Like env base n) items items') :
    Alike (Dict.Related fun _ => Operand env base n k) (placeChildren k items props)
      (placeChildren k items' props') := by
  have hlist : Dict.Related (fun _ => Operand env base n k)
      (Dict.insert props "values" (.array items)) (Dict.insert props' "values" (.array items')) :=
    hprops.insert ⟨.array hitems, fun _ => .array hitems⟩
  -- The other operators are neither conjunction nor disjunction.
  have hnamed : ¬(k = .and ∨ k = .or) → ∀ names, Dict.Related (fun _ => Operand env base n k)
      (Children.byNames names items props) (Children.byNames names items' props') :=
    fun hne names => byNames_related names hprops
      (hitems.imp fun _ _ hlike => ⟨hlike, fun heq => (hne heq).elim⟩)
  have hrest : ¬(k = .and ∨ k = .or) → ∀ first rest, Dict.Related (fun _ => Operand env base n k)
      (Children.headAndRest first rest items props)
      (Children.headAndRest first rest items' props') :=
    fun hne first rest => (hnamed hne [first]).insert
      ⟨.array (List.forall₂_drop 1 hitems), fun heq => (hne heq).elim⟩
  cases k with
  | buildObject | matching | get | post | graphQL => cases hk
  | conditional | regex | split | passthru | objectProperties => exact .ok (hnamed (by decide) _)
  | stringSubstitution | pgSql | customFunctions => exact .ok (hrest (by decide) _ _)
  | _ => exact .ok hlist

/-- Children that are computed are taken as the list that they come to. -/
theorem childList_eq_bind {ev : Evaluator Failure} {c : Json} (hc : c.isArray = false) :
    childList ev k c = ev c >>= childList Evaluator.verbatim k := by
  funext w
  cases c with
  | array _ => cases hc
  | _ => exact Run.bind_congr fun v _ _ => by cases v <;> rfl

theorem childList_verbatim_mirrors (within : Scope.SettledWithin env n base) (k : OperatorKind)
    (v : Json) : Run.Mirrors env base (List.Forall₂ (Like env base n))
      (childList Evaluator.verbatim k v) (childList Evaluator.verbatim k v) := by
  cases v with
  | array items => exact .value (List.forall₂_same.mpr fun u _ => .refl within u)
  | _ => exact .ofExcept (.error _)

/-- Children that may be exchanged are lists of expressions that evaluate alike. -/
theorem childList_mirrors (within : Scope.SettledWithin env n base) (k : OperatorKind)
    {c c' : Json} (h : Exchange env base n c c') (depth : Nat) :
    Run.Mirrors env base (List.Forall₂ (Like env base n)) (childList (eval env depth) k c)
      (childList (eval env (depth + n)) k c') := by
  have hthen := childList_verbatim_mirrors within k
  cases hc : c.isArray <;> cases hc' : c'.isArray
  · rw [childList_eq_bind hc, childList_eq_bind hc']
    exact (h.like depth).bind_eq hthen
  · obtain ⟨vs, rfl⟩ := Json.eq_array_of_isArray hc'
    rw [childList_eq_bind hc]
    exact ((h.computed hc hc').settled.mirrors_value depth).bind_eq hthen
  · obtain ⟨vs, rfl⟩ := Json.eq_array_of_isArray hc
    rw [childList_eq_bind hc']
    exact ((h.written hc hc').settled.value_mirrors depth).bind_eq hthen
  · obtain ⟨items, rfl⟩ := Json.eq_array_of_isArray hc
    obtain ⟨items', rfl⟩ := Json.eq_array_of_isArray hc'
    exact .value (h.items _ _ rfl rfl)

theorem gather_mirrors (within : Scope.SettledWithin env n base) (hk : k.looksInside = false)
    {node node' : Dict Json} (h : Dict.Related (fun _ => Exchange env base n) node node')
    (depth : Nat) :
    Run.Mirrors env base (Dict.Related fun _ => Operand env base n k)
      (gather (eval env depth) k node) (gather (eval env (depth + n)) k node') := by
  have hprops : Dict.Related (fun _ => Operand env base n k) (ownProps k.schema node)
      (ownProps k.schema node') :=
    (ownProps_related k.schema h).mono fun _ _ _ hexchange => ⟨hexchange.like, fun _ => hexchange⟩
  unfold gather
  rcases h.get? Key.children with ⟨hget, hget'⟩ | ⟨c, c', hget, hget', hexchange⟩ <;>
    rw [hget, hget']
  · exact .value hprops
  · exact (childList_mirrors within k hexchange depth).bind fun items items' hitems =>
      .ofExcept ((placeChildren_related hk hprops hitems).mapError _)

end Properties

/-! ### Nodes -/

section Nodes

variable {env : Env} {base : Scope} {n : Nat} {k : OperatorKind} {node node' : Dict Json}
  {props props' : Props} {fallback fallback' : Option Json}

/-- The first of two values that may be absent. -/
theorem rel_or {R : Json → Json → Prop} {a a' b b' : Option Json} (ha : Option.Rel R a a')
    (hb : Option.Rel R b b') : Option.Rel R (a.or b) (a'.or b') := by
  cases ha with
  | none => exact hb
  | some h => exact .some h

theorem fallbackOr_mirrors (h : Option.Rel (Like env base n) fallback fallback')
    (failure : Failure) (depth : Nat) :
    Run.Mirrors env base Eq (fallbackOr env (eval env depth) fallback failure)
      (fallbackOr env (eval env (depth + n)) fallback' failure) := by
  cases h with
  | some hlike => exact hlike depth
  | none =>
      simp only [fallbackOr]
      split
      · exact .value rfl
      · exact .ofExcept (.error _)

theorem convert_mirrors (hnode : Dict.Related (fun _ => Exchange env base n) node node')
    (h : Option.Rel (Like env base n) fallback fallback') (result : Json) (depth : Nat) :
    Run.Mirrors env base Eq (convert env (eval env depth) k node fallback result)
      (convert env (eval env (depth + n)) k node' fallback' result) := by
  have hlike := hnode.mono fun _ _ _ hexchange => hexchange.like
  have hconversion : Option.Rel (Like env base n) (conversionOf node) (conversionOf node') :=
    rel_or (hlike.rel_get? Key.outputType) (hlike.rel_get? Key.type)
  unfold convert
  generalize conversionOf node = name at hconversion ⊢
  generalize conversionOf node' = name' at hconversion ⊢
  cases hconversion with
  | none => exact .value rfl
  | some hname =>
      refine (hname depth).attempt.bind fun outcome outcome' hout => ?_
      cases hout with
      | error failure => exact fallbackOr_mirrors h failure depth
      | ok heq =>
          subst heq
          dsimp only
          split
          · exact .value rfl
          · exact fallbackOr_mirrors h _ depth

theorem computeOr_mirrors (permitted : env.Permits k) (hk : k.looksInside = false)
    (hprops : Dict.Related (fun _ => Operand env base n k) props props')
    (h : Option.Rel (Like env base n) fallback fallback') (depth : Nat) :
    Run.Mirrors env base Eq (computeOr env (eval env depth) k fallback props)
      (computeOr env (eval env (depth + n)) k fallback' props') := by
  have hcompute : Run.Mirrors env base Eq (compute env (inside (eval env depth)) k props)
      (compute env (inside (eval env (depth + n))) k props') :=
    .compute (R := Operand env base n k) (fun x x' hx => hx.1.inside depth) hprops permitted hk
      fun hand wanted => meets_mirrors hand wanted (hprops.mono fun _ _ _ hx => hx.2 hand) depth
  refine hcompute.attempt.bind fun outcome outcome' hout => ?_
  cases hout with
  | error fault => exact fallbackOr_mirrors h _ depth
  | ok heq => exact .value heq

theorem apply_mirrors (permitted : env.Permits k) (hk : k.looksInside = false)
    (hnode : Dict.Related (fun _ => Exchange env base n) node node')
    (hprops : Dict.Related (fun _ => Operand env base n k) props props')
    (h : Option.Rel (Like env base n) fallback fallback') (depth : Nat) :
    Run.Mirrors env base Eq (apply env (eval env depth) k node fallback props)
      (apply env (eval env (depth + n)) k node' fallback' props') := by
  have hmissing : missing k props' = missing k props := by
    simp only [missing, hprops.hasKey_eq]
  unfold apply
  rw [hmissing]
  split
  · exact fallbackOr_mirrors h _ depth
  · exact (computeOr_mirrors permitted hk hprops h depth).bind_eq fun result =>
      convert_mirrors hnode h result depth

theorem runOperator_mirrors (within : Scope.SettledWithin env n base) (permitted : env.Permits k)
    (hk : k.looksInside = false)
    (hnode : Dict.Related (fun _ => Exchange env base n) node node') (depth : Nat) :
    Run.Mirrors env base Eq (runOperator env (eval env depth) k node)
      (runOperator env (eval env (depth + n)) k node') := by
  have hlike := hnode.mono fun _ _ _ hexchange => hexchange.like
  refine (gather_mirrors within hk hnode depth).attempt.bind fun outcome outcome' hout => ?_
  cases hout with
  | error failure => exact fallbackOr_mirrors (hlike.rel_get? Key.fallback) failure depth
  | @ok props props' hprops =>
      have hfallback : Option.Rel (Like env base n) (fallbackOf node props)
          (fallbackOf node' props') :=
        rel_or ((hprops.mono fun _ _ _ hx => hx.1).rel_get? Key.fallback)
          (hlike.rel_get? Key.fallback)
      refine apply_mirrors permitted hk hnode ?_ hfallback depth
      unfold withoutFallback
      rw [hprops.hasKey_eq]
      split
      · exact hprops.swapRemove Key.fallback
      · exact hprops

/-- **Nodes with exchanged properties come to the same.** -/
theorem operatorBody_mirrors (within : Scope.SettledWithin env n base)
    (hname : Dict.get? node' Key.operator = Dict.get? node Key.operator)
    (hk : ∀ k, operatorOf? env node = some k → k.looksInside = false)
    (hnode : Dict.Related (fun _ => Exchange env base n) node node') (depth : Nat) :
    Run.Mirrors env base Eq (operatorBody env (eval env depth) node)
      (operatorBody env (eval env (depth + n)) node') := by
  have hoperator : operatorOf? env node' = operatorOf? env node := by
    rw [operatorOf?, hname, operatorOf?]
  have hshown : shownName node' = shownName node := by
    rw [shownName, hname, shownName]
  unfold operatorBody
  rw [hoperator, hshown]
  cases hknown : operatorOf? env node with
  | some k =>
      exact runOperator_mirrors within (Env.permits_of_operatorOf? hknown) (hk k hknown) hnode depth
  | none =>
      have hlike := hnode.mono fun _ _ _ hexchange => hexchange.like
      exact fallbackOr_mirrors (hlike.rel_get? Key.fallback) _ depth

end Nodes

/-! ### Replacing one operand -/

/-- An operand in which an expression is replaced by a value: the expression itself, or an array in
which it is an element. -/
inductive Replaces (e v : Json) : Json → Json → Prop where
  | whole : Replaces e v e v
  | element (before after : List Json) :
    Replaces e v (.array (before ++ e :: after)) (.array (before ++ v :: after))

/-- Nodes that differ in one operand, in which an expression is replaced by a value.  The name of
the operator is no operand, and neither is a binding. -/
inductive ReplacesOperand (e v : Json) : Dict Json → Dict Json → Prop where
  | entry (key : String) (before after : Dict Json) {x x' : Json} (hoperator : key ≠ Key.operator)
    (hname : isBindingName key = false) (h : Replaces e v x x') :
    ReplacesOperand e v (before ++ (key, x) :: after) (before ++ (key, x') :: after)

namespace ReplacesOperand

variable {env : Env} {base : Scope} {n : Nat} {e v : Json} {node node' : Dict Json}

theorem get?_operator (h : ReplacesOperand e v node node') :
    Dict.get? node' Key.operator = Dict.get? node Key.operator := by
  obtain ⟨key, before, after, hoperator, -, -⟩ := h
  have hsame : ∀ d : Dict Json, Dict.Related (fun k a b => k ≠ key → a = b) d d :=
    Dict.Related.refl fun _ _ _ => rfl
  rcases ((hsame before).append (.cons (fun hne => absurd rfl hne) (hsame after))).get?
    Key.operator with ⟨hget, hget'⟩ | ⟨a, b, hget, hget', hab⟩ <;> rw [hget, hget']
  rw [hab hoperator.symm]

theorem ofNode_eq (h : ReplacesOperand e v node node') :
    Frame.ofNode node' = Frame.ofNode node := by
  obtain ⟨key, before, after, -, hname, -⟩ := h
  simp [Frame.ofNode, Dict.filterKeys, List.filter_append, hname]

/-- The properties of the two nodes may be exchanged, either for the other. -/
theorem related (h : ReplacesOperand e v node node') (within : Scope.SettledWithin env n base)
    (hvalue : HasValue env base n e v) :
    Dict.Related (fun _ => Exchange env base n) node node' ∧
      Dict.Related (fun _ => Exchange env base n) node' node := by
  obtain ⟨key, before, after, -, -, hreplaces⟩ := h
  have hsame : ∀ d : Dict Json, Dict.Related (fun _ => Exchange env base n) d d :=
    Dict.Related.refl fun _ x => .refl within x
  have hlike : ∀ items : List Json, List.Forall₂ (Like env base n) items items :=
    fun items => List.forall₂_same.mpr fun u _ => .refl within u
  cases hreplaces with
  | whole =>
      exact ⟨(hsame before).append (.cons (.of_hasValue hvalue) (hsame after)),
        (hsame before).append (.cons (.of_hasValue_symm hvalue) (hsame after))⟩
  | element first rest =>
      have hthere := List.rel_append (hlike first)
        (.cons (Like.of_settled hvalue.settled hvalue.fixed) (hlike rest))
      have hback := List.rel_append (hlike first)
        (.cons (Like.of_settled hvalue.fixed hvalue.settled) (hlike rest))
      exact ⟨(hsame before).append (.cons (.array hthere) (hsame after)),
        (hsame before).append (.cons (.array hback) (hsame after))⟩

end ReplacesOperand

/-- Within one depth, an expression comes to the value that it comes to silently, if the value
evaluates to itself. -/
theorem exists_hasValue {env : Env} {base : Scope} {e v : Json} (silent : Silently env base e v)
    (fixed : Silently env base v v) :
    ∃ n, Scope.SettledWithin env n base ∧ HasValue env base n e v := by
  obtain ⟨n, within⟩ := Scope.exists_settledWithin env base
  obtain ⟨d, hsettled⟩ := silent.exists_settledAt within
  obtain ⟨d', hfixed⟩ := fixed.exists_settledAt within
  -- The elements of an array that is settled need more depth than the array.
  obtain ⟨enough, h₀, h₁, h₂⟩ : ∃ enough, n ≤ enough ∧ d + n ≤ enough ∧ d' + n ≤ enough :=
    ⟨d + d' + n, by omega, by omega, by omega⟩
  refine ⟨enough, within.mono h₀, hsettled.mono (Nat.le_of_add_right_le h₁), fun items he => ?_,
    hfixed.mono (Nat.le_of_add_right_le h₂), fun vs hv u hu => ?_⟩
  · subst he
    obtain ⟨vs, hv, hitems⟩ := hsettled.items within
    exact ⟨vs, hv, hitems.imp fun _ _ hitem => hitem.mono h₁⟩
  · subst hv
    obtain ⟨_, ⟨⟩, hitems⟩ := hfixed.items within
    exact (List.forall₂_same.mp hitems u hu).mono h₂

/-- A node is left with the cache and the history that it ends with. -/
theorem leave_eq (w : World) (frame : Frame) :
    w.leave frame = ⟨(w.leave frame).scope, w.cache, w.history⟩ := by
  unfold World.leave
  split <;> rfl

/-- A node comes to what one with exchanged properties comes to. -/
theorem eval_of_exchange {env : Env} {node node' : Dict Json} {w : World} {n : Nat}
    (within : Scope.SettledWithin env n (w.enter (Frame.ofNode node)).scope)
    (hoperator : Dict.hasKey node Key.operator = true)
    (hfragment : Dict.hasKey node Key.fragment = false)
    (hname : Dict.get? node' Key.operator = Dict.get? node Key.operator)
    (hframe : Frame.ofNode node' = Frame.ofNode node)
    (hk : ∀ k, operatorOf? env node = some k → k.looksInside = false)
    (hnode : Dict.Related (fun _ => Exchange env (w.enter (Frame.ofNode node)).scope n) node node')
    {outcome : Except Failure Json} {cache : ResultCache} {history : History}
    (h : ∃ depth scope, eval env depth (.object node) w = (some outcome, ⟨scope, cache, history⟩)) :
    ∃ depth scope, eval env depth (.object node') w =
      (some outcome, ⟨scope, cache, history⟩) := by
  obtain ⟨depth, scope, hrun⟩ := h
  cases depth with
  | zero => cases hrun
  | succ depth =>
      rw [eval, node_operator env _ hfragment hoperator] at hrun
      obtain ⟨⟨s₁, cache₁, history₁⟩, hinside, hleave⟩ := Run.eq_of_withFrame hrun
      obtain ⟨s₁', hrun'⟩ :=
        (operatorBody_mirrors within hname hk hnode depth).of_world (.refl env _) hinside
      have hoperator' := (hnode.hasKey_eq Key.operator).trans hoperator
      have hfragment' := (hnode.hasKey_eq Key.fragment).trans hfragment
      rw [leave_eq] at hleave
      cases hleave
      refine ⟨depth + n + 1,
        ((⟨s₁', cache₁, history₁⟩ : World).leave (Frame.ofNode node)).scope, ?_⟩
      rw [eval, node_operator env _ hfragment' hoperator', operatorNode, hframe,
        Run.withFrame_of_eq hrun', leave_eq]

end Evaluation

open Evaluation (ReplacesOperand)

/-- **Replacing an operand by its value changes nothing.**  Let an operator node have any operator,
known or not, but those that look for expressions inside of their operands.  Let an expression be a
property of it other than the operator and the bindings, or an element of an array that is such a
property.  If the expression, where the bindings of the node are in scope, comes to a value without
a question and without the cache, and the value evaluates to itself there, then the node and the one
with the value in the place of the expression come to the same outcomes, with the same questions to
the host and the same cache. -/
theorem operand_may_be_replaced_by_its_value {env : Env} {node node' : Dict Json} {e v : Json}
    {w : World} (hoperator : Dict.hasKey node Key.operator = true)
    (hfragment : Dict.hasKey node Key.fragment = false)
    (hk : ∀ k, Evaluation.operatorOf? env node = some k → k.looksInside = false)
    (replaces : ReplacesOperand e v node node')
    (silent : Silently env (w.enter (Frame.ofNode node)).scope e v)
    (fixed : Silently env (w.enter (Frame.ofNode node)).scope v v)
    (outcome : Except Failure Json) (cache : ResultCache) (history : History) :
    (∃ depth scope, eval env depth (.object node) w = (some outcome, ⟨scope, cache, history⟩)) ↔
      ∃ depth scope, eval env depth (.object node') w =
        (some outcome, ⟨scope, cache, history⟩) := by
  obtain ⟨n, within, hvalue⟩ := Evaluation.exists_hasValue silent fixed
  obtain ⟨hthere, hback⟩ := replaces.related within hvalue
  have hname := replaces.get?_operator
  have hframe := replaces.ofNode_eq
  have hk' : ∀ k, Evaluation.operatorOf? env node' = some k → k.looksInside = false := by
    rw [Evaluation.operatorOf?, hname, ← Evaluation.operatorOf?]
    exact hk
  constructor
  · exact Evaluation.eval_of_exchange within hoperator hfragment hname hframe hk hthere
  · rw [← hframe] at within hback
    exact Evaluation.eval_of_exchange within ((hthere.hasKey_eq _).trans hoperator)
      ((hthere.hasKey_eq _).trans hfragment) hname.symm hframe.symm hk' hback

/-- A conjunction whose list of operands is bound to a name comes to `false` just as the one does in
which the list is written out, although the one evaluates and checks the list as a whole, and the
other evaluates its elements one by one. -/
theorem bound_list_of_conjunction_may_be_written_out :
    let env : Env := ⟨Options.empty, Registry.full⟩
    let node : Json → Dict Json := fun operands => [("operator", .string "AND"),
      ("$xs", .array [.string "a", .string ""]), ("values", operands)]
    let w : World := ⟨[], ResultCache.empty 0, []⟩
    (∃ depth scope, eval env depth (.object (node (.string "$xs"))) w =
        (some (.ok (.bool false)), ⟨scope, ResultCache.empty 0, []⟩)) ↔
      ∃ depth scope, eval env depth (.object (node (.array [.string "a", .string ""]))) w =
        (some (.ok (.bool false)), ⟨scope, ResultCache.empty 0, []⟩) := by
  intro env node w
  have known : Evaluation.operatorOf? env (node (.string "$xs")) = some .and := by
    have hname : (Dict.get? (node (.string "$xs")) Key.operator).bind Json.asString? =
        some "AND" := rfl
    rw [Evaluation.operatorOf?, hname, Option.bind_some]
    exact Registry.resolve?_name .and
  have inert : Inert env (.array [.string "a", .string ""]) :=
    .array (List.forall_mem_cons.mpr ⟨.text rfl rfl, List.forall_mem_singleton.mpr (.text rfl rfl)⟩)
  refine operand_may_be_replaced_by_its_value rfl rfl (fun k hk => ?_)
    (.entry "values" [("operator", .string "AND"), ("$xs", .array [.string "a", .string ""])] []
      (by decide) (by decide) .whole)
    ⟨3, fun cache history => ⟨_, rfl⟩⟩ (inert.silently _) _ _ _
  cases known.symm.trans hk
  rfl

end JsonExpr
