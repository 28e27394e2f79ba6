import JsonExpr.Proofs.Evaluation.Depth
import JsonExpr.Proofs.Evaluation.Pairing
import Mathlib.Data.List.Forall2

/-!
# Settled expressions

What an expression comes to depends on the values that bindings have so far, and these change as
evaluation goes on.  An expression is settled in a scope if that makes no difference: if it comes to
the same outcome, without asking anything, in every scope that the scope may have become.

A scope can only have become one in which a binding with a settled expression has either no value
yet or the value that the expression comes to.  So the two notions are defined together, from the
outermost frame inwards.  Two scopes that one scope may have become agree if they differ in nothing
but settled values which one of them has got and the other has not.

An expression that was once evaluated without a question and without the cache is settled, since it
can only have evaluated bindings that are settled themselves.  And evaluation in scopes that agree
comes to the same and ends in scopes that agree.

Main definitions:

* `JsonExpr.Scope.Agree` — scopes that may have come from the same one, and differ only in values
  that are settled;
* `JsonExpr.Evaluation.SettledAt`, `JsonExpr.Evaluation.Settled` — settled expressions, within a
  given depth and within some.

Main results:

* `JsonExpr.Scope.exists_settledWithin` — one depth does for all bindings in scope;
* `JsonExpr.eval_agree` — **evaluation in scopes that agree comes to the same**;
* `JsonExpr.Evaluation.SettledAt.of_eval` — **what evaluates without a question is settled**.
-/

set_option autoImplicit false

namespace JsonExpr

/-! ### Bindings as evaluation goes on -/

/-- A binding after an evaluation of its expression. -/
def Slot.evaluated (x : Slot) (outcome : Except Failure Json) : Slot :=
  ⟨x.expression, Run.valueOf? (some outcome), x.evaluations + 1⟩

/-- A binding and what it may become, given what expressions are known to come to: it keeps its
value, and if it gets one, that is the known one. -/
structure Slot.Becomes (known : Json → Except Failure Json → Prop) (x y : Slot) : Prop where
  expression : y.expression = x.expression
  keeps : ∀ v, x.value = some v → y.value = some v
  fits : ∀ v outcome, x.value = none → y.value = some v → known x.expression outcome →
    outcome = .ok v

/-- Two states that a binding may come to, and that differ at most in a known value. -/
structure Slot.Agree (known : Json → Except Failure Json → Prop) (x y z : Slot) : Prop where
  left : Slot.Becomes known x y
  right : Slot.Becomes known x z
  same : y.value = z.value ∨ ∃ v, known x.expression (.ok v)

/-- Two states that the bindings of a frame may come to, and that differ at most in known values. -/
def Frame.Agree (known : Json → Except Failure Json → Prop) (base frame frame' : Frame) : Prop :=
  ∀ name, (Dict.get? base name = none ∧ Dict.get? frame name = none ∧
      Dict.get? frame' name = none) ∨
    ∃ x y z, Dict.get? base name = some x ∧ Dict.get? frame name = some y ∧
      Dict.get? frame' name = some z ∧ Slot.Agree known x y z

/-- An expression that comes to the same outcome in all scopes of a kind, without asking anything,
and in each of them ends in one that agrees with it. -/
def Evaluation.SettledIn (env : Env) (agree : Scope → Scope → Prop) (depth : Nat)
    (expression : Json) (outcome : Except Failure Json) : Prop :=
  ∀ s, agree s s → ∀ cache history, ∃ s₁,
    eval env depth expression ⟨s, cache, history⟩ = (some outcome, ⟨s₁, cache, history⟩) ∧
      agree s s₁

/-- Two scopes that a scope may have become, and that differ at most in settled values.  A binding
is evaluated in the scope outside its frame. -/
def Scope.Agree (env : Env) : Scope → Scope → Scope → Prop
  | [], [], [] => True
  | base :: outer, frame :: s, frame' :: s' =>
    Scope.Agree env outer s s' ∧ Frame.Agree (fun expression outcome =>
      ∃ depth, Evaluation.SettledIn env (Scope.Agree env outer) depth expression outcome)
      base frame frame'
  | _, _, _ => False

namespace Evaluation

/-- An expression that comes to the same outcome, within a depth and without asking anything, in
every scope that the given one may have become. -/
def SettledAt (env : Env) (base : Scope) (depth : Nat) (expression : Json)
    (outcome : Except Failure Json) : Prop :=
  SettledIn env (Scope.Agree env base) depth expression outcome

/-- An expression that does so within some depth. -/
def Settled (env : Env) (base : Scope) (expression : Json) (outcome : Except Failure Json) : Prop :=
  ∃ depth, SettledAt env base depth expression outcome

end Evaluation

open Evaluation (SettledAt Settled)

/-! ### Agreement -/

section Agreement

variable {known : Json → Except Failure Json → Prop}

namespace Slot

variable {x y z u : Slot}

theorem Becomes.refl (x : Slot) : Becomes known x x :=
  ⟨rfl, fun _ h => h, fun _ _ hnone hsome _ => nomatch hnone.symm.trans hsome⟩

/-- A binding without a value had none before. -/
theorem Becomes.value_eq_none (h : Becomes known x y) (hy : y.value = none) : x.value = none := by
  cases hkept : x.value with
  | none => rfl
  | some v => cases (h.keeps v hkept).symm.trans hy

/-- A binding goes on by an evaluation that comes to what is known, if anything is. -/
theorem Becomes.evaluated (h : Becomes known x y) (hy : y.value = none)
    {outcome : Except Failure Json}
    (only : ∀ outcome', known x.expression outcome' → outcome' = outcome) :
    Becomes known x (y.evaluated outcome) := by
  refine ⟨h.expression, fun v hx => ?_, fun v outcome' _ hv hknown => ?_⟩
  · cases (h.value_eq_none hy).symm.trans hx
  · rw [only outcome' hknown]
    cases outcome with
    | ok u =>
        cases hv
        rfl
    | error e => cases hv

theorem Agree.refl (x : Slot) : Agree known x x x := ⟨.refl x, .refl x, .inl rfl⟩

theorem Agree.symm (h : Agree known x y z) : Agree known x z y :=
  ⟨h.right, h.left, h.same.imp_left Eq.symm⟩

theorem Agree.trans (h : Agree known x y z) (h' : Agree known x z u) : Agree known x y u := by
  refine ⟨h.left, h'.right, ?_⟩
  rcases h.same with heq | hknown
  · exact h'.same.imp_left heq.trans
  · exact .inr hknown

/-- Both states go on by an evaluation with the same outcome. -/
theorem Agree.evaluated_both (h : Agree known x y z) (hy : y.value = none) (hz : z.value = none)
    {outcome : Except Failure Json}
    (only : ∀ outcome', known x.expression outcome' → outcome' = outcome) :
    Agree known x (y.evaluated outcome) (z.evaluated outcome) :=
  ⟨h.left.evaluated hy only, h.right.evaluated hz only, .inl rfl⟩

/-- One state goes on by an evaluation that comes to what is known. -/
theorem Agree.evaluated (h : Agree known x y z) (hz : z.value = none)
    {outcome : Except Failure Json} (hknown : known x.expression outcome)
    (only : ∀ outcome', known x.expression outcome' → outcome' = outcome) :
    Agree known x y (z.evaluated outcome) := by
  refine ⟨h.left, h.right.evaluated hz only, ?_⟩
  cases outcome with
  | ok v => exact .inr ⟨v, hknown⟩
  | error e => exact h.same.imp_left fun heq => heq.trans hz

/-- If both have a value, it is the same. -/
theorem Agree.eq_of_value (h : Agree known x y z) {v v' : Json} (hy : y.value = some v)
    (hz : z.value = some v') : v = v' := by
  cases hx : x.value with
  | some w =>
      have hkept := (h.left.keeps w hx).trans (h.right.keeps w hx).symm
      exact Option.some.inj (hy.symm.trans (hkept.trans hz))
  | none =>
      rcases h.same with heq | ⟨w, hknown⟩
      · cases hy.symm.trans (heq.trans hz)
        rfl
      · cases h.left.fits v _ hx hy hknown
        cases h.right.fits v' _ hx hz hknown
        rfl

/-- If only one has a value, it is the one that the expression is known to come to. -/
theorem Agree.known_of_value (h : Agree known x y z) {v : Json} (hy : y.value = some v)
    (hz : z.value = none) : x.value = none ∧ known x.expression (.ok v) := by
  have hx := h.right.value_eq_none hz
  rcases h.same with heq | ⟨w, hknown⟩
  · cases hy.symm.trans (heq.trans hz)
  · cases h.left.fits v _ hx hy hknown
    exact ⟨hx, hknown⟩

/-- A state without a new value but a known one has the value of any other state, if both have
one. -/
theorem Agree.eq_of_known (h : Agree known x x y) (h' : Becomes known x z) {v v' : Json}
    (hy : y.value = some v) (hz : z.value = some v') : v = v' := by
  cases hx : x.value with
  | some w =>
      have hkept := (h.right.keeps w hx).trans (h'.keeps w hx).symm
      exact Option.some.inj (hy.symm.trans (hkept.trans hz))
  | none =>
      cases h'.fits v' _ hx hz (h.symm.known_of_value hy hx).2
      rfl

end Slot

namespace Frame.Agree

variable {base frame frame' frame'' : Frame} {name : String} {x y z : Slot}

theorem refl (base : Frame) : Agree known base base base := by
  intro name
  cases hget : Dict.get? base name with
  | none => exact .inl ⟨rfl, rfl, rfl⟩
  | some x => exact .inr ⟨x, x, x, rfl, rfl, rfl, .refl x⟩

theorem symm (h : Agree known base frame frame') : Agree known base frame' frame := by
  intro name
  rcases h name with ⟨hx, hy, hz⟩ | ⟨x, y, z, hx, hy, hz, hslot⟩
  · exact .inl ⟨hx, hz, hy⟩
  · exact .inr ⟨x, z, y, hx, hz, hy, hslot.symm⟩

theorem trans (h : Agree known base frame frame') (h' : Agree known base frame' frame'') :
    Agree known base frame frame'' := by
  intro name
  rcases h name with ⟨hx, hy, hz⟩ | ⟨x, y, z, hx, hy, hz, hslot⟩ <;>
    rcases h' name with ⟨hx', hy', hz'⟩ | ⟨x', y', z', hx', hy', hz', hslot'⟩
  · exact .inl ⟨hx, hy, hz'⟩
  · cases hx.symm.trans hx'
  · cases hx.symm.trans hx'
  · cases hx.symm.trans hx'
    cases hz.symm.trans hy'
    exact .inr ⟨x, y, z', hx, hy, hz', hslot.trans hslot'⟩

/-- A binding goes on in both frames. -/
theorem insert_both (h : Agree known base frame frame') (hx : Dict.get? base name = some x)
    (hslot : Slot.Agree known x y z) :
    Agree known base (Dict.insert frame name y) (Dict.insert frame' name z) := by
  intro key
  by_cases hkey : key = name
  · subst hkey
    exact .inr ⟨x, y, z, hx, Dict.get?_insert_self _ _ _, Dict.get?_insert_self _ _ _, hslot⟩
  · rw [Dict.get?_insert_of_ne _ _ hkey, Dict.get?_insert_of_ne _ _ hkey]
    exact h key

/-- A binding goes on in one of the frames. -/
theorem insert_right (h : Agree known base frame frame') (hx : Dict.get? base name = some x)
    (hy : Dict.get? frame name = some y) (hslot : Slot.Agree known x y z) :
    Agree known base frame (Dict.insert frame' name z) := by
  intro key
  by_cases hkey : key = name
  · subst hkey
    exact .inr ⟨x, y, z, hx, hy, Dict.get?_insert_self _ _ _, hslot⟩
  · rw [Dict.get?_insert_of_ne _ _ hkey]
    exact h key

end Frame.Agree

end Agreement

namespace Scope.Agree

variable {env : Env} {base frame frame' : Frame} {outer s s' s'' : Scope}

theorem refl (env : Env) (s : Scope) : Agree env s s s := by
  induction s with
  | nil => trivial
  | cons frame outer ih => exact ⟨ih, .refl frame⟩

theorem symm (h : Agree env outer s s') : Agree env outer s' s := by
  induction outer generalizing s s' with
  | nil =>
      cases s <;> cases s' <;> trivial
  | cons base outer ih =>
      cases s <;> cases s' <;> first | exact h.elim | exact ⟨ih h.1, h.2.symm⟩

theorem trans (h : Agree env outer s s') (h' : Agree env outer s' s'') :
    Agree env outer s s'' := by
  induction outer generalizing s s' s'' with
  | nil =>
      cases s <;> cases s' <;> cases s'' <;> trivial
  | cons base outer ih =>
      cases s <;> cases s' <;> cases s'' <;>
        first | exact h.elim | exact h'.elim | exact ⟨ih h.1 h'.1, h.2.trans h'.2⟩

theorem left (h : Agree env outer s s') : Agree env outer s s := h.trans h.symm

theorem right (h : Agree env outer s s') : Agree env outer s' s' := h.symm.trans h

/-- The frames of scopes that agree. -/
theorem cases_cons (h : Agree env (base :: outer) s s') :
    ∃ frame t frame' t', s = frame :: t ∧ s' = frame' :: t' ∧ Agree env outer t t' ∧
      Frame.Agree (Settled env outer) base frame frame' := by
  cases s <;> cases s' <;> first | exact h.elim | exact ⟨_, _, _, _, rfl, rfl, h⟩

theorem nil_eq (h : Agree env [] s s') : s = [] ∧ s' = [] := by
  cases s <;> cases s' <;> first | exact ⟨rfl, rfl⟩ | exact h.elim

end Scope.Agree

/-! ### Settled expressions -/

namespace Evaluation

variable {env : Env} {base s : Scope} {depth depth' : Nat} {expression : Json}
  {outcome outcome' : Except Failure Json}

theorem SettledAt.mono (hle : depth ≤ depth') (h : SettledAt env base depth expression outcome) :
    SettledAt env base depth' expression outcome := by
  intro s hs cache history
  obtain ⟨s₁, hrun, hagree⟩ := h s hs cache history
  exact ⟨s₁, eval_mono hle _ _ _ _ hrun, hagree⟩

/-- An evaluation of a settled expression has the outcome that is settled, and asks nothing. -/
theorem Settled.eval_eq (h : Settled env base expression outcome) (hs : Scope.Agree env base s s)
    {cache : ResultCache} {history : History} {w₁ : World}
    (hrun : eval env depth expression ⟨s, cache, history⟩ = (some outcome', w₁)) :
    outcome' = outcome ∧ ∃ s₁, w₁ = ⟨s₁, cache, history⟩ ∧ Scope.Agree env base s s₁ := by
  obtain ⟨enough, hsettled⟩ := h
  obtain ⟨s₁, hrun', hagree⟩ := hsettled s hs cache history
  obtain ⟨houtcome, hw⟩ := eval_unique hrun hrun'
  exact ⟨houtcome, s₁, hw, hagree⟩

theorem Settled.unique (h : Settled env base expression outcome)
    (h' : Settled env base expression outcome') : outcome = outcome' := by
  obtain ⟨enough, hsettled⟩ := h
  obtain ⟨s₁, hrun, -⟩ := hsettled base (.refl env base) (ResultCache.empty 0) []
  exact (h'.eval_eq (.refl env base) hrun).1

end Evaluation

/-- Within the depth, all bindings in scope with settled expressions come to their outcomes. -/
def Scope.SettledWithin (env : Env) (depth : Nat) : Scope → Prop
  | [] => True
  | frame :: outer => Scope.SettledWithin env depth outer ∧
    ∀ e ∈ frame, ∀ outcome, Settled env outer e.2.expression outcome →
      SettledAt env outer depth e.2.expression outcome

namespace Scope.SettledWithin

variable {env : Env} {n m : Nat} {s : Scope}

theorem mono (hle : n ≤ m) (h : SettledWithin env n s) : SettledWithin env m s := by
  induction s with
  | nil => trivial
  | cons frame outer ih =>
      exact ⟨ih h.1, fun e he outcome hsettled => (h.2 e he outcome hsettled).mono hle⟩

theorem settledAt {frame : Frame} {outer : Scope} (h : SettledWithin env n (frame :: outer))
    {name : String} {slot : Slot} (hget : Dict.get? frame name = some slot)
    {outcome : Except Failure Json} (hsettled : Settled env outer slot.expression outcome) :
    SettledAt env outer n slot.expression outcome :=
  h.2 (name, slot) (Dict.mem_of_get? hget) outcome hsettled

end Scope.SettledWithin

/-- Some depth does for an expression, whether it is settled or not. -/
theorem Evaluation.exists_settledAt (env : Env) (base : Scope) (expression : Json) :
    ∃ depth, ∀ outcome, Settled env base expression outcome →
      SettledAt env base depth expression outcome := by
  by_cases hsettled : ∃ outcome, Settled env base expression outcome
  · obtain ⟨outcome, depth, hdepth⟩ := hsettled
    refine ⟨depth, fun outcome' h => ?_⟩
    cases h.unique ⟨depth, hdepth⟩
    exact hdepth
  · exact ⟨0, fun outcome h => absurd ⟨outcome, h⟩ hsettled⟩

/-- One depth does for all bindings in scope. -/
theorem Scope.exists_settledWithin (env : Env) (s : Scope) :
    ∃ depth, Scope.SettledWithin env depth s := by
  induction s with
  | nil => exact ⟨0, trivial⟩
  | cons frame outer ih =>
      obtain ⟨n, hn⟩ := ih
      obtain ⟨m, hm⟩ : ∃ m, ∀ e ∈ frame, ∀ outcome, Settled env outer e.2.expression outcome →
          SettledAt env outer m e.2.expression outcome :=
        exists_forall_of_forall_exists
          (fun hle h outcome hsettled => (h outcome hsettled).mono hle)
          fun e _ => Evaluation.exists_settledAt env outer e.2.expression
      exact ⟨max n m, hn.mono (Nat.le_max_left n m), fun e he outcome hsettled =>
        (hm e he outcome hsettled).mono (Nat.le_max_right n m)⟩

/-! ### Evaluation in scopes that agree -/

/-- A name that a frame binds to an expression, as an evaluation of the expression ends. -/
theorem Evaluator.reference_of_eval {ev : Evaluator Failure} {name : String} {frame : Frame}
    {slot : Slot} (hget : Dict.get? frame name = some slot) (hvalue : slot.value = none)
    {outer outer₁ : Scope} {cache cache₁ : ResultCache} {history history₁ : History}
    {outcome : Except Failure Json} (hrun : ev slot.expression ⟨outer, cache, history⟩ =
      (some outcome, ⟨outer₁, cache₁, history₁⟩)) :
    ev.reference name ⟨frame :: outer, cache, history⟩ = (some (outcome.map some),
      ⟨Dict.insert frame name (slot.evaluated outcome) :: outer₁, cache₁, history₁⟩) := by
  rw [reference_of_expression hget hvalue, hrun]
  rfl

/-- Two runs in scopes that agree, which ask the same. -/
def Pairing.agreeing (env : Env) (base : Scope) : Pairing where
  scopes := Scope.Agree env base
  silent := none

theorem Pairing.agreeing_paired {env : Env} {base s s' : Scope} (h : Scope.Agree env base s s')
    (cache : ResultCache) (history : History) :
    (agreeing env base).Paired 0 ⟨s, cache, history⟩ ⟨s', cache, history⟩ :=
  ⟨h, rfl, rfl⟩

/-- Computations that go in step do the same in scopes that agree. -/
theorem Run.FollowsAt.of_agree {ε α : Type} {env : Env} {base s s' s₁ : Scope} {m m' : Run ε α}
    (h : m.FollowsAt (.agreeing env base) 0 m') (hagree : Scope.Agree env base s s')
    {cache cache₁ : ResultCache} {history history₁ : History} {outcome : Except ε α}
    (hrun : m ⟨s, cache, history⟩ = (some outcome, ⟨s₁, cache₁, history₁⟩)) :
    ∃ s₁', m' ⟨s', cache, history⟩ = (some outcome, ⟨s₁', cache₁, history₁⟩) ∧
      Scope.Agree env base s₁ s₁' := by
  obtain ⟨⟨s₁', _, _⟩, hrun', hagree₁, rfl, rfl⟩ :=
    h (Pairing.agreeing_paired hagree cache history) hrun fun hsilent => nomatch hsilent
  exact ⟨s₁', hrun', hagree₁⟩

/-- A silent run in a scope without other new values than settled ones, and any run in a scope that
agrees with a given one. -/
def Pairing.silently (env : Env) (base start : Scope) (cache : ResultCache) (history : History) :
    Pairing where
  scopes s s' := Scope.Agree env base base s ∧ Scope.Agree env base start s'
  silent := some (cache, history)

section References

variable {env : Env} {depth n : Nat} {base frame frame' : Frame} {outer t t' t₁ : Scope}
  {x y z : Slot} {name : String} {cache cache₁ : ResultCache} {history history₁ : History}

section Bound

-- A name is bound in the innermost of the frames that agree.
variable (hagree : Scope.Agree env outer t t')
  (hframe : Frame.Agree (Settled env outer) base frame frame') (hx : Dict.get? base name = some x)
  (hz : Dict.get? frame' name = some z) (hslot : Slot.Agree (Settled env outer) x y z)

include hagree hframe hx hz hslot

/-- A value that the first run has is there in the second one, or is settled. -/
theorem reference_agree_of_value (within : Scope.SettledWithin env n (base :: outer))
    (hy : Dict.get? frame name = some y) {v : Json} (hyv : y.value = some v) :
    ∃ w₁', (eval env (depth + n)).reference name ⟨frame' :: t', cache, history⟩ =
      (some (.ok (some v)), w₁') ∧
        (Pairing.agreeing env (base :: outer)).Paired 0 ⟨frame :: t, cache, history⟩ w₁' := by
  cases hzv : z.value with
  | some v' =>
      cases hslot.eq_of_value hyv hzv
      exact ⟨_, Evaluator.reference_of_value hz hzv, ⟨hagree, hframe⟩, rfl, rfl⟩
  | none =>
      obtain ⟨-, hsettled⟩ := hslot.known_of_value hyv hzv
      obtain ⟨t₁', hrun', hagree'⟩ :=
        (within.settledAt hx hsettled).mono (Nat.le_add_left n depth) t' hagree.right cache history
      rw [← hslot.right.expression] at hrun'
      refine ⟨_, Evaluator.reference_of_eval hz hzv hrun', ⟨hagree.trans hagree', ?_⟩, rfl, rfl⟩
      exact hframe.insert_right hx hy (hslot.evaluated hzv hsettled fun _ h => h.unique hsettled)

/-- What the first run evaluates is evaluated by the second one too, or is settled. -/
theorem reference_agree_of_expression
    (ih : ∀ v, (eval env depth v).Follows (.agreeing env outer) (eval env (depth + n) v))
    (hyv : y.value = none) {result : Except Failure Json}
    (heval : eval env depth y.expression ⟨t, cache, history⟩ =
      (some result, ⟨t₁, cache₁, history₁⟩)) :
    ∃ w₁', (eval env (depth + n)).reference name ⟨frame' :: t', cache, history⟩ =
      (some (result.map some), w₁') ∧
        (Pairing.agreeing env (base :: outer)).Paired 0
          ⟨Dict.insert frame name (y.evaluated result) :: t₁, cache₁, history₁⟩ w₁' := by
  rw [hslot.left.expression] at heval
  have only : ∀ outcome', Settled env outer x.expression outcome' → outcome' = result :=
    fun _ h => (h.eval_eq hagree.left heval).1.symm
  cases hzv : z.value with
  | some v =>
      obtain ⟨-, hsettled⟩ := hslot.symm.known_of_value hzv hyv
      obtain ⟨rfl, _, ⟨⟩, hagree'⟩ := hsettled.eval_eq hagree.left heval
      refine ⟨_, Evaluator.reference_of_value hz hzv, ⟨hagree'.symm.trans hagree, ?_⟩, rfl, rfl⟩
      exact (hframe.symm.insert_right hx hz (hslot.symm.evaluated hyv hsettled only)).symm
  | none =>
      obtain ⟨t₁', heval', hagree₁⟩ := ((ih x.expression).follows 0).of_agree hagree heval
      rw [← hslot.right.expression] at heval'
      refine ⟨_, Evaluator.reference_of_eval hz hzv heval', ⟨hagree₁, ?_⟩, rfl, rfl⟩
      exact hframe.insert_both hx (hslot.evaluated_both hyv hzv only)

end Bound

/-- References go in step in scopes that agree, if what is bound does in the scopes outside. -/
theorem reference_agree (ih : ∀ base, Scope.SettledWithin env n base → ∀ v,
      (eval env depth v).Follows (.agreeing env base) (eval env (depth + n) v))
    (base : Scope) (within : Scope.SettledWithin env n base) (name : String) :
    ((eval env depth).reference name).FollowsAt (.agreeing env base) 0
      ((eval env (depth + n)).reference name) := by
  induction base with
  | nil =>
      rintro ⟨s, cache, history⟩ ⟨s', cache', history'⟩ outcome w₁ ⟨hscope, houtside⟩ hrun -
      obtain ⟨rfl, rfl⟩ := Scope.Agree.nil_eq hscope
      cases hrun
      exact ⟨_, rfl, hscope, houtside⟩
  | cons base outer ihouter =>
      rintro ⟨s, _, _⟩ ⟨s', cache, history⟩ outcome w₁ ⟨hscope, rfl, rfl⟩ hrun -
      obtain ⟨frame, t, frame', t', rfl, rfl, hagree, hframe⟩ := Scope.Agree.cases_cons hscope
      rcases hframe name with ⟨-, hy, hz⟩ | ⟨x, y, z, hx, hy, hz, hslot⟩
      · rw [Evaluator.reference_of_get?_none hy] at hrun
        rcases hrest : (eval env depth).reference name ⟨t, cache, history⟩ with
          ⟨result, t₁, cache₁, history₁⟩
        rw [hrest] at hrun
        cases hrun
        obtain ⟨t₁', hrest', hagree₁⟩ := (ihouter within.1).of_agree hagree hrest
        refine ⟨⟨frame' :: t₁', cache₁, history₁⟩, ?_, ⟨hagree₁, hframe⟩, rfl, rfl⟩
        rw [Evaluator.reference_of_get?_none hz, hrest']
      · cases hyv : y.value with
        | some v =>
            rw [Evaluator.reference_of_value hy hyv] at hrun
            cases hrun
            exact reference_agree_of_value hagree hframe hx hz hslot within hy hyv
        | none =>
            rcases heval : eval env depth y.expression ⟨t, cache, history⟩ with
              ⟨_ | result, t₁, cache₁, history₁⟩
            · rw [Evaluator.reference_of_expression hy hyv, heval] at hrun
              cases hrun
            · rw [Evaluator.reference_of_eval hy hyv heval] at hrun
              cases hrun
              exact reference_agree_of_expression hagree hframe hx hz hslot (ih outer within.1)
                hyv heval

end References

/-- **Evaluation in scopes that agree comes to the same**, with the same questions and the same
cache, and ends in scopes that agree. -/
theorem eval_agree {env : Env} {n : Nat} (depth : Nat) (base : Scope)
    (within : Scope.SettledWithin env n base) (v : Json) :
    (eval env depth v).Follows (.agreeing env base) (eval env (depth + n) v) := by
  induction depth generalizing base v with
  | zero => exact ⟨fun _ => Nat.le_refl _, fun _ _ _ _ _ _ h => nomatch h⟩
  | succ depth ih =>
      rw [Nat.add_right_comm]
      exact Run.Follows.node (reference_agree ih base within) (ih base within) v

/-! ### Evaluation without a question -/

theorem Pairing.silently_paired {env : Env} {base start s s' : Scope}
    (hs : Scope.Agree env base base s) (hs' : Scope.Agree env base start s') (cache : ResultCache)
    (history asked : History) :
    (silently env base start cache history).Paired 0 ⟨s, ResultCache.empty 0, asked⟩
      ⟨s', cache, history⟩ :=
  ⟨⟨hs, hs'⟩, rfl, rfl, rfl⟩

/-- What goes in step with a run that asks nothing asks nothing either. -/
theorem Run.FollowsAt.of_silently {ε α : Type} {env : Env} {base start s s' : Scope}
    {cache : ResultCache} {history asked : History} {m m' : Run ε α} {outcome : Except ε α}
    {w₁ : World} (h : m.FollowsAt (.silently env base start cache history) 0 m')
    (hs : Scope.Agree env base base s) (hs' : Scope.Agree env base start s')
    (hrun : m ⟨s, ResultCache.empty 0, asked⟩ = (some outcome, w₁))
    (hquiet : w₁.history.length ≤ asked.length) :
    Scope.Agree env base base w₁.scope ∧ w₁.cache = ResultCache.empty 0 ∧
      ∃ s₁', m' ⟨s', cache, history⟩ = (some outcome, ⟨s₁', cache, history⟩) ∧
        Scope.Agree env base start s₁' := by
  obtain ⟨⟨s₁', _, _⟩, hrun', ⟨hs₁, hs₁'⟩, hcache, rfl, rfl⟩ :=
    h (Pairing.silently_paired hs hs' cache history asked) hrun fun _ => hquiet
  exact ⟨hs₁, hcache, s₁', hrun', hs₁'⟩

section Silent

variable {env : Env} {depth n : Nat} {base frame frame' start : Frame}
  {outer t t' t₁ rest : Scope} {x y z u : Slot} {name : String} {cache cache₁ : ResultCache}
  {history asked asked₁ : History}

/-- What evaluates without a question is settled, if any two runs of it go in step. -/
theorem Evaluation.SettledAt.of_follows {m : Nat} {expression : Json}
    (h : ∀ start cache history, Scope.Agree env outer start start →
      (eval env depth expression).Follows (.silently env outer start cache history)
        (eval env m expression))
    (ht : Scope.Agree env outer outer t) {result : Except Failure Json} {w₁ : World}
    (hrun : eval env depth expression ⟨t, ResultCache.empty 0, asked⟩ = (some result, w₁))
    (hquiet : w₁.history.length ≤ asked.length) : SettledAt env outer m expression result := by
  intro s hs cache history
  obtain ⟨-, -, s₁, hrun', hagree⟩ :=
    ((h s cache history hs).follows 0).of_silently ht hs hrun hquiet
  exact ⟨s₁, hrun', hagree⟩

section Bound

-- A name is bound in the innermost frames of both runs.
variable (ht : Scope.Agree env outer outer t)
  (hframe : Frame.Agree (Settled env outer) base base frame) (ht' : Scope.Agree env outer rest t')
  (hframe' : Frame.Agree (Settled env outer) base start frame')
  (hx : Dict.get? base name = some x) (hu : Dict.get? start name = some u)
  (hz : Dict.get? frame' name = some z) (hleft : Slot.Agree (Settled env outer) x x y)
  (hright : Slot.Agree (Settled env outer) x u z)

include ht hframe ht' hframe' hx hu hz hleft hright

/-- A value that the silent run has was there from the start, or is settled. -/
theorem reference_silently_of_value (within : Scope.SettledWithin env n (base :: outer))
    {v : Json} (hyv : y.value = some v) :
    ∃ w₁', (eval env (depth + n)).reference name ⟨frame' :: t', cache, history⟩ =
      (some (.ok (some v)), w₁') ∧
        (Pairing.silently env (base :: outer) (start :: rest) cache history).Paired 0
          ⟨frame :: t, ResultCache.empty 0, asked⟩ w₁' := by
  cases hzv : z.value with
  | some v' =>
      cases hleft.eq_of_known hright.right hyv hzv
      exact ⟨_, Evaluator.reference_of_value hz hzv, ⟨⟨ht, hframe⟩, ht', hframe'⟩, rfl, rfl, rfl⟩
  | none =>
      have hsettled := (hleft.symm.known_of_value hyv (hright.right.value_eq_none hzv)).2
      obtain ⟨t₁', hrun', hagree'⟩ :=
        (within.settledAt hx hsettled).mono (Nat.le_add_left n depth) t' ht'.right cache history
      rw [← hright.right.expression] at hrun'
      refine ⟨_, Evaluator.reference_of_eval hz hzv hrun',
        ⟨⟨ht, hframe⟩, ht'.trans hagree', ?_⟩, rfl, rfl, rfl⟩
      exact hframe'.insert_right hx hu
        (hright.evaluated hzv hsettled fun _ h => h.unique hsettled)

/-- What the silent run evaluates is settled, so the other run has the value or evaluates it too. -/
theorem reference_silently_of_expression
    (ih : ∀ start cache history v, Scope.Agree env outer start start →
      (eval env depth v).Follows (.silently env outer start cache history) (eval env (depth + n) v))
    (hyv : y.value = none) {result : Except Failure Json}
    (heval : eval env depth y.expression ⟨t, ResultCache.empty 0, asked⟩ =
      (some result, ⟨t₁, cache₁, asked₁⟩)) (hquiet : asked₁.length ≤ asked.length) :
    ∃ w₁', (eval env (depth + n)).reference name ⟨frame' :: t', cache, history⟩ =
      (some (result.map some), w₁') ∧
        (Pairing.silently env (base :: outer) (start :: rest) cache history).Paired 0
          ⟨Dict.insert frame name (y.evaluated result) :: t₁, cache₁, asked₁⟩ w₁' := by
  rw [hleft.right.expression] at heval
  have hsettled : Settled env outer x.expression result := ⟨depth + n, .of_follows
    (fun start cache history => ih start cache history x.expression) ht heval hquiet⟩
  have only : ∀ outcome', Settled env outer x.expression outcome' → outcome' = result :=
    fun _ h => h.unique hsettled
  obtain ⟨ht₁, rfl, t₁', heval', hagree'⟩ :=
    ((ih t' cache history x.expression ht'.right).follows 0).of_silently ht ht'.right heval hquiet
  have hframe₁ := hframe.insert_right hx hx (hleft.evaluated hyv hsettled only)
  cases hzv : z.value with
  | some v =>
      cases hright.right.fits v _ (hleft.right.value_eq_none hyv) hzv hsettled
      exact ⟨_, Evaluator.reference_of_value hz hzv,
        ⟨⟨ht₁, hframe₁⟩, ht', hframe'⟩, rfl, rfl, rfl⟩
  | none =>
      rw [← hright.right.expression] at heval'
      exact ⟨_, Evaluator.reference_of_eval hz hzv heval',
        ⟨⟨ht₁, hframe₁⟩, ht'.trans hagree',
          hframe'.insert_right hx hu (hright.evaluated hzv hsettled only)⟩, rfl, rfl, rfl⟩

end Bound

/-- References of a silent run go in step with those of any other, if what is bound does in the
scopes outside. -/
theorem reference_silently (ih : ∀ base, Scope.SettledWithin env n base →
      ∀ start cache history v, Scope.Agree env base start start →
        (eval env depth v).Follows (.silently env base start cache history)
          (eval env (depth + n) v))
    (base : Scope) (within : Scope.SettledWithin env n base) (start : Scope) (cache : ResultCache)
    (history : History) (hstart : Scope.Agree env base start start) (name : String) :
    ((eval env depth).reference name).FollowsAt (.silently env base start cache history) 0
      ((eval env (depth + n)).reference name) := by
  induction base generalizing start with
  | nil =>
      rintro ⟨s, _, asked⟩ ⟨s', _, _⟩ outcome w₁ ⟨⟨hs, hs'⟩, houtside⟩ hrun -
      obtain ⟨-, rfl⟩ := Scope.Agree.nil_eq hs
      obtain ⟨-, rfl⟩ := Scope.Agree.nil_eq hs'
      cases hrun
      exact ⟨_, rfl, ⟨hs, hs'⟩, houtside⟩
  | cons base outer ihouter =>
      rintro ⟨s, _, asked⟩ ⟨s', _, _⟩ outcome w₁ ⟨⟨hs, hs'⟩, rfl, rfl, rfl⟩ hrun hquiet
      obtain ⟨_, _, frame, t, ⟨⟩, rfl, ht, hframe⟩ := Scope.Agree.cases_cons hs
      obtain ⟨start, rest, frame', t', rfl, rfl, ht', hframe'⟩ := Scope.Agree.cases_cons hs'
      have hquiet : w₁.history.length ≤ asked.length := hquiet rfl
      rcases hframe name with ⟨hx, -, hy⟩ | ⟨x, _, y, hx, hx', hy, hleft⟩ <;>
        rcases hframe' name with ⟨hx₂, hu, hz⟩ | ⟨x₂, u, z, hx₂, hu, hz, hright⟩
      · rw [Evaluator.reference_of_get?_none hy] at hrun
        rcases hrest : (eval env depth).reference name ⟨t, ResultCache.empty 0, asked⟩ with
          ⟨result, w₂⟩
        rw [hrest] at hrun
        cases hrun
        obtain ⟨ht₁, hcache, t₁', hrest', ht₁'⟩ :=
          (ihouter within.1 rest ht'.left).of_silently ht ht' hrest hquiet
        refine ⟨⟨frame' :: t₁', _, _⟩, ?_, ⟨⟨ht₁, hframe⟩, ht₁', hframe'⟩, hcache, rfl, rfl⟩
        rw [Evaluator.reference_of_get?_none hz, hrest']
      · cases hx.symm.trans hx₂
      · cases hx.symm.trans hx₂
      · cases hx.symm.trans hx'
        cases hx.symm.trans hx₂
        cases hyv : y.value with
        | some v =>
            rw [Evaluator.reference_of_value hy hyv] at hrun
            cases hrun
            exact reference_silently_of_value ht hframe ht' hframe' hx hu hz hleft hright within hyv
        | none =>
            rcases heval : eval env depth y.expression ⟨t, ResultCache.empty 0, asked⟩ with
              ⟨_ | result, t₁, cache₁, asked₁⟩
            · rw [Evaluator.reference_of_expression hy hyv, heval] at hrun
              cases hrun
            · rw [Evaluator.reference_of_eval hy hyv heval] at hrun
              cases hrun
              exact reference_silently_of_expression ht hframe ht' hframe' hx hu hz hleft hright
                (ih outer within.1) hyv heval hquiet

end Silent

/-- A silent run goes in step with a run in any scope that the scope may have become, whatever the
cache and the history of that run are. -/
theorem eval_silently {env : Env} {n : Nat} (depth : Nat) (base : Scope)
    (within : Scope.SettledWithin env n base) (start : Scope) (cache : ResultCache)
    (history : History) (v : Json) (hstart : Scope.Agree env base start start) :
    (eval env depth v).Follows (.silently env base start cache history)
      (eval env (depth + n) v) := by
  induction depth generalizing base start cache history v with
  | zero => exact ⟨fun _ => Nat.le_refl _, fun _ _ _ _ _ _ h => nomatch h⟩
  | succ depth ih =>
      rw [Nat.add_right_comm]
      exact Run.Follows.node (reference_silently ih base within start cache history hstart)
        (fun v => ih base within start cache history v hstart) v

/-! ### Arrays -/

/-- A traversal that ended well did so for the first element and for the others. -/
theorem Run.traverse_cons_ok {ε α β : Type} {f : α → Run ε β} {a : α} {rest : List α} {bs : List β}
    {w w' : World} (h : Run.traverse f (a :: rest) w = (some (.ok bs), w')) :
    ∃ b w₁ bs', f a w = (some (.ok b), w₁) ∧ Run.traverse f rest w₁ = (some (.ok bs'), w') ∧
      bs = b :: bs' := by
  rw [Run.traverse] at h
  obtain ⟨_, -, ⟨⟩⟩ | ⟨b, w₁, hb, h⟩ := Run.andThen_finished h
  obtain ⟨_, -, ⟨⟩⟩ | ⟨bs', w₂, hbs, h⟩ := Run.andThen_finished h
  cases h
  exact ⟨b, w₁, bs', hb, hbs, rfl⟩

namespace Evaluation.SettledAt

variable {env : Env} {base : Scope} {depth n : Nat}

/-- **What evaluates without a question is settled.** -/
theorem of_eval (within : Scope.SettledWithin env n base) {s : Scope}
    (hs : Scope.Agree env base base s) {expression : Json} {outcome : Except Failure Json}
    {asked : History} {w₁ : World}
    (hrun : eval env depth expression ⟨s, ResultCache.empty 0, asked⟩ = (some outcome, w₁))
    (hquiet : w₁.history.length ≤ asked.length) :
    SettledAt env base (depth + n) expression outcome :=
  .of_follows (fun start cache history hstart =>
    eval_silently depth base within start cache history expression hstart) hs hrun hquiet

/-- So are all elements of an array that is evaluated without a question. -/
theorem of_traverse (within : Scope.SettledWithin env n base) {items vs : List Json} {s : Scope}
    (hs : Scope.Agree env base base s) {asked : History} {w₁ : World}
    (hrun : Run.traverse (eval env depth) items ⟨s, ResultCache.empty 0, asked⟩ =
      (some (.ok vs), w₁)) (hquiet : w₁.history.length ≤ asked.length) :
    List.Forall₂ (fun item v => SettledAt env base (depth + n) item (.ok v)) items vs := by
  have follows := fun v => eval_silently depth base within base (ResultCache.empty 0) [] v
    (.refl env base)
  have C := Run.Follows.compositional env (.silently env base base (ResultCache.empty 0) [])
  induction items generalizing s vs asked with
  | nil =>
      cases hrun
      exact .nil
  | cons item rest ih =>
      obtain ⟨v, ⟨s₂, cache₂, asked₂⟩, vs, hitem, hrest, rfl⟩ := Run.traverse_cons_ok hrun
      have hgrows := (follows item).grows ⟨s, ResultCache.empty 0, asked⟩
      have hgrows' := (C.traverse follows rest).grows ⟨s₂, cache₂, asked₂⟩
      rw [hitem] at hgrows
      rw [hrest] at hgrows'
      have hitemQuiet := Nat.le_trans hgrows' hquiet
      refine .cons (of_eval within hs hitem hitemQuiet) ?_
      obtain ⟨hs₂, rfl, -⟩ := ((follows item).follows 0).of_silently hs hs hitem hitemQuiet
      exact ih hs₂ hrest (Nat.le_trans hquiet hgrows)

/-- An array that is settled is so element by element. -/
theorem items (within : Scope.SettledWithin env n base) {items : List Json} {v : Json}
    (h : SettledAt env base depth (.array items) (.ok v)) :
    ∃ vs, v = .array vs ∧
      List.Forall₂ (fun item v => SettledAt env base (depth + n) item (.ok v)) items vs := by
  obtain ⟨s₁, hrun, -⟩ := h base (.refl env base) (ResultCache.empty 0) []
  cases depth with
  | zero => cases hrun
  | succ depth =>
      have hplain : eval env (depth + 1) (.array items) =
          ((eval env depth).all items >>= fun items => pure (.array items)) := rfl
      rw [hplain] at hrun
      obtain ⟨_, -, ⟨⟩⟩ | ⟨vs, w₁, hall, h⟩ := Run.andThen_finished hrun
      cases h
      refine ⟨vs, rfl, (of_traverse within (.refl env base) hall (Nat.le_refl _)).imp ?_⟩
      exact fun _ _ hitem => hitem.mono (Nat.add_le_add_right (Nat.le_succ depth) n)

end Evaluation.SettledAt

end JsonExpr
