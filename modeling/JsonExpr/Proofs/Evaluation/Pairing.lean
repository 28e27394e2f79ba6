import JsonExpr.Proofs.Evaluation.Exclusion
import JsonExpr.Proofs.Evaluation.Lookup

/-!
# Runs that go in step

Two evaluations of one expression can be compared while they run.  Their scopes differ in the frames
around the expression, in a way that is left open; the frames that come and go inside it are the
same.  Outside the scopes there are two cases.  Either both runs have the same cache and ask the
host the same, or the first one asks nothing and finds nothing in the cache, and then neither cache
nor history of the second one matters to it.

What a computation has to respect is then the same for all ways of building computations, except for
the references that leave the expression: those are up to the relation between the frames around it.

Main definitions:

* `JsonExpr.Pairing` — what two runs have to do with each other outside an expression;
* `JsonExpr.Scope.Over`, `JsonExpr.Pairing.Paired` — scopes and worlds inside it;
* `JsonExpr.Run.FollowsAt`, `JsonExpr.Run.Follows` — the second run does as the first.

Main results:

* `JsonExpr.Run.Follows.compositional`, `JsonExpr.Run.Follows.reference` — the ways of building
  computations go in step;
* `JsonExpr.Run.Follows.node` — **so do the rules for a node, if the references that leave it do**.
-/

set_option autoImplicit false

namespace JsonExpr

/-! ### Worlds of two runs -/

/-- What two runs have to do with each other outside the expression that they evaluate. -/
structure Pairing where
  /-- The scopes around the expression. -/
  scopes : Scope → Scope → Prop
  /-- The cache and the history of the second run, if the first one is silent. -/
  silent : Option (ResultCache × History)

/-- Scopes with the same `level` frames inside others that are related. -/
def Scope.Over (base : Scope → Scope → Prop) : Nat → Scope → Scope → Prop
  | 0, s, s' => base s s'
  | level + 1, s, s' =>
    ∃ frame outer outer', s = frame :: outer ∧ s' = frame :: outer' ∧
      Scope.Over base level outer outer'

/-- Caches and histories of two runs: the same, or those of a silent run and fixed ones. -/
def Pairing.Outside (P : Pairing) (w w' : World) : Prop :=
  match P.silent with
  | none => w'.cache = w.cache ∧ w'.history = w.history
  | some (cache, history) =>
    w.cache = ResultCache.empty 0 ∧ w'.cache = cache ∧ w'.history = history

/-- Worlds of two runs with `level` frames inside the expression. -/
structure Pairing.Paired (P : Pairing) (level : Nat) (w w' : World) : Prop where
  scope : Scope.Over P.scopes level w.scope w'.scope
  outside : P.Outside w w'

/-- The first run asks nothing if it is to be silent. -/
def Pairing.Quiet (P : Pairing) (w w₁ : World) : Prop :=
  P.silent.isSome = true → w₁.history.length ≤ w.history.length

/-- The second computation ends as the first does, with `level` frames inside. -/
def Run.FollowsAt {ε α : Type} (P : Pairing) (level : Nat) (m m' : Run ε α) : Prop :=
  ∀ ⦃w w' outcome w₁⦄, P.Paired level w w' → m w = (some outcome, w₁) → P.Quiet w w₁ →
    ∃ w₁', m' w' = (some outcome, w₁') ∧ P.Paired level w₁ w₁'

/-- The second computation ends as the first does, and the first takes nothing out of the
history. -/
structure Run.Follows {ε α : Type} (P : Pairing) (m m' : Run ε α) : Prop where
  grows : ∀ w, w.history.length ≤ (m w).2.history.length
  follows : ∀ level, m.FollowsAt P level m'

namespace Pairing

variable {P : Pairing} {level : Nat} {w w' : World}

theorem Quiet.first {w₁ w₂ : World} (h : P.Quiet w w₂)
    (hgrows : w₁.history.length ≤ w₂.history.length) : P.Quiet w w₁ :=
  fun hsilent => Nat.le_trans hgrows (h hsilent)

theorem Quiet.second {w₁ w₂ : World} (h : P.Quiet w w₂)
    (hgrows : w.history.length ≤ w₁.history.length) : P.Quiet w₁ w₂ :=
  fun hsilent => Nat.le_trans (h hsilent) hgrows

/-- A run that asks something is not silent. -/
theorem Quiet.silent_eq_none {w₁ : World} (h : P.Quiet w w₁)
    (hasks : w.history.length < w₁.history.length) : P.silent = none := by
  rcases hsilent : P.silent with _ | outside
  · rfl
  · exact absurd (h (by rw [hsilent]; rfl)) (Nat.not_le_of_gt hasks)

theorem Outside.of_eq {w₁ w₁' : World} (h : P.Outside w w') (hcache : w₁.cache = w.cache)
    (hhistory : w₁.history = w.history) (hcache' : w₁'.cache = w'.cache)
    (hhistory' : w₁'.history = w'.history) : P.Outside w₁ w₁' := by
  unfold Outside at *
  rwa [hcache, hhistory, hcache', hhistory']

theorem Outside.eq_of_none (h : P.Outside w w') (hsilent : P.silent = none) :
    w'.cache = w.cache ∧ w'.history = w.history := by
  rwa [Outside, hsilent] at h

theorem outside_of_none (hsilent : P.silent = none) (hcache : w'.cache = w.cache)
    (hhistory : w'.history = w.history) : P.Outside w w' := by
  rw [Outside, hsilent]
  exact ⟨hcache, hhistory⟩

/-- A run that finds something in its cache is not silent. -/
theorem Outside.silent_eq_none (h : P.Outside w w') {key : String} {found : Json × ResultCache}
    (hhit : w.cache.hit? key = some found) : P.silent = none := by
  rcases hs : P.silent with _ | outside
  · rfl
  · rw [Outside, hs] at h
    rw [h.1] at hhit
    cases hhit

theorem Paired.enter {frame : Frame} (h : P.Paired level w w') (hframe : frame.isEmpty = false) :
    P.Paired (level + 1) (w.enter frame) (w'.enter frame) := by
  simp only [World.enter, hframe, Bool.false_eq_true, if_false]
  exact ⟨⟨frame, _, _, rfl, rfl, h.scope⟩, h.outside.of_eq rfl rfl rfl rfl⟩

theorem Paired.leave {frame : Frame} (h : P.Paired (level + 1) w w')
    (hframe : frame.isEmpty = false) : P.Paired level (w.leave frame) (w'.leave frame) := by
  obtain ⟨⟨inside, outer, outer', hs, hs', hover⟩, houtside⟩ := h
  simp only [World.leave, hframe, Bool.false_eq_true, if_false]
  refine ⟨?_, houtside.of_eq rfl rfl rfl rfl⟩
  rw [hs, hs']
  exact hover

end Pairing

/-! ### Ways of building computations -/

namespace Run

variable {ε ε' α β : Type} {P : Pairing} {level : Nat}

theorem FollowsAt.refl_of_pure {m : Run ε α} {outcome : Except ε α}
    (h : ∀ w, m w = (some outcome, w)) : m.FollowsAt P level m := by
  intro w w' _ _ hpaired hm _
  rw [h] at hm
  cases hm
  exact ⟨w', h w', hpaired⟩

/-- What is asked of the host is asked in both runs. -/
theorem FollowsAt.of_asks {m : Run ε α} (hasks : m.AlwaysAsks)
    (hscope : ∀ w, (m w).2.scope = w.scope)
    (hsame : ∀ w w', w'.cache = w.cache → w'.history = w.history → (m w').1 = (m w).1 ∧
      (m w').2.cache = (m w).2.cache ∧ (m w').2.history = (m w).2.history) :
    m.FollowsAt P level m := by
  intro w w' outcome w₁ hpaired hm hquiet
  have hw₁ : (m w).2 = w₁ := congrArg Prod.snd hm
  have hnone := hquiet.silent_eq_none (hw₁ ▸ hasks w)
  obtain ⟨hcache, hhistory⟩ := hpaired.outside.eq_of_none hnone
  obtain ⟨houtcome, hcache₁, hhistory₁⟩ := hsame w w' hcache hhistory
  rw [hm] at houtcome hcache₁ hhistory₁
  refine ⟨(m w').2, Prod.ext houtcome rfl, ?_, Pairing.outside_of_none hnone hcache₁ hhistory₁⟩
  rw [hscope, ← hw₁, hscope]
  exact hpaired.scope

namespace Follows

theorem andThen {m m' : Run ε α} {f f' : α → Run ε β} (hm : m.Follows P m')
    (hf : ∀ a, (f a).Follows P (f' a)) : (Run.andThen m f).Follows P (Run.andThen m' f') where
  grows w := by
    have hfirst := hm.grows w
    rcases h : m w with ⟨_ | e | a, w₁⟩ <;> rw [h] at hfirst
    · rwa [andThen_of_exhausted h]
    · rwa [andThen_of_error h]
    · rw [andThen_of_ok h]
      exact Nat.le_trans hfirst ((hf a).grows w₁)
  follows level w w' outcome w₂ hpaired h hquiet := by
    have hfirst := hm.grows w
    obtain ⟨e, h₁, rfl⟩ | ⟨a, w₁, h₁, h₂⟩ := andThen_finished h
    · obtain ⟨w₁', h₁', hpaired₁⟩ := hm.follows level hpaired h₁ hquiet
      exact ⟨w₁', andThen_of_error h₁', hpaired₁⟩
    · -- The whole is quiet, so both parts are.
      have hsecond := (hf a).grows w₁
      rw [h₁] at hfirst
      rw [h₂] at hsecond
      obtain ⟨w₁', h₁', hpaired₁⟩ := hm.follows level hpaired h₁ (hquiet.first hsecond)
      obtain ⟨w₂', h₂', hpaired₂⟩ := (hf a).follows level hpaired₁ h₂ (hquiet.second hfirst)
      exact ⟨w₂', (andThen_of_ok h₁').trans h₂', hpaired₂⟩

theorem attempt {m m' : Run ε α} (hm : m.Follows P m') :
    (Run.attempt m : Run ε' (Except ε α)).Follows P (Run.attempt m') where
  grows := hm.grows
  follows level w w' caught w₁ hpaired h hquiet := by
    obtain ⟨outcome, h₁, rfl⟩ := attempt_finished h
    obtain ⟨w₁', h₁', hpaired₁⟩ := hm.follows level hpaired h₁ hquiet
    exact ⟨w₁', attempt_of_finished h₁', hpaired₁⟩

theorem mapFailure (g : ε → ε') {m m' : Run ε α} (hm : m.Follows P m') :
    (Run.mapFailure g m).Follows P (Run.mapFailure g m') where
  grows := hm.grows
  follows level w w' outcome w₁ hpaired h hquiet := by
    rcases hrun : m w with ⟨_ | outcome₁, w₂⟩ <;> rw [mapFailure_apply, hrun] at h <;> cases h
    obtain ⟨w₁', h₁', hpaired₁⟩ := hm.follows level hpaired hrun hquiet
    exact ⟨w₁', by rw [mapFailure_apply, h₁']; rfl, hpaired₁⟩

theorem withFrame (frame : Frame) {m m' : Run ε α} (hm : m.Follows P m') :
    (Run.withFrame frame m).Follows P (Run.withFrame frame m') where
  grows w := by
    rw [withFrame_apply, World.history_leave, ← World.history_enter w frame]
    exact hm.grows (w.enter frame)
  follows level w w' outcome w₁ hpaired h hquiet := by
    obtain ⟨w₂, hinside, rfl⟩ := eq_of_withFrame h
    have hquiet₂ : P.Quiet (w.enter frame) w₂ := by
      intro hsilent
      simpa using hquiet hsilent
    cases hframe : frame.isEmpty with
    | true =>
        have henter : ∀ w : World, w.enter frame = w := fun w => if_pos hframe
        have hleave : ∀ w : World, w.leave frame = w := fun w => if_pos hframe
        rw [henter] at hinside hquiet₂
        obtain ⟨w₂', hinside', hpaired₂⟩ := hm.follows level hpaired hinside hquiet₂
        rw [← henter w'] at hinside'
        exact ⟨_, withFrame_of_eq hinside', by rwa [hleave, hleave]⟩
    | false =>
        obtain ⟨w₂', hinside', hpaired₂⟩ :=
          hm.follows (level + 1) (hpaired.enter hframe) hinside hquiet₂
        exact ⟨_, withFrame_of_eq hinside', hpaired₂.leave hframe⟩

theorem cached (key : String) {m m' : Run OperatorFault Json} (hasks : m.AlwaysAsks)
    (hm : m.Follows P m') : (Asking.cached key m).Follows P (Asking.cached key m') where
  grows w := by
    have hgrows := hm.grows w
    unfold Asking.cached
    split
    · exact Nat.le_refl _
    · rcases h : m w with ⟨_ | outcome, w₁⟩ <;> rw [h] at hgrows <;> exact hgrows
  follows level w w' outcome w₁ hpaired h hquiet := by
    have hasked := hasks w
    unfold Asking.cached at h
    split at h
    · next v cache hhit =>
      cases h
      have hnone := hpaired.outside.silent_eq_none hhit
      obtain ⟨hcache, hhistory⟩ := hpaired.outside.eq_of_none hnone
      refine ⟨{ w' with cache := cache }, ?_, hpaired.scope,
        Pairing.outside_of_none hnone rfl hhistory⟩
      unfold Asking.cached
      rw [hcache, hhit]
    · next hhit =>
      rcases hrun : m w with ⟨_ | outcome₁, w₂⟩ <;> rw [hrun] at h hasked <;> cases h
      have hnone := hquiet.silent_eq_none hasked
      obtain ⟨w₂', hrun', hpaired₂⟩ := hm.follows level hpaired hrun
        fun hsilent => hquiet hsilent
      obtain ⟨hcache, -⟩ := hpaired.outside.eq_of_none hnone
      obtain ⟨hcache₂, hhistory₂⟩ := hpaired₂.outside.eq_of_none hnone
      refine ⟨{ w₂' with cache := w₂'.cache.settle key outcome }, ?_, hpaired₂.scope,
        Pairing.outside_of_none hnone (by rw [hcache₂]) hhistory₂⟩
      unfold Asking.cached
      rw [hcache, hhit, hrun']

/-- All ways of building computations go in step, as far as they look no binding up. -/
theorem compositional (env : Env) (P : Pairing) :
    Run.Compositional env (fun m m' => m.Follows P m') where
  ofExcept outcome := ⟨fun _ => Nat.le_refl _, fun _ => .refl_of_pure fun _ => rfl⟩
  andThen := andThen
  attempt := attempt
  mapFailure g _ _ := mapFailure g
  withFrame frame _ _ := withFrame frame
  cached key _ _ := cached key
  call _ f path args := ⟨fun w => Nat.le_of_lt (f.alwaysAsks path args w), fun _ =>
    .of_asks (f.alwaysAsks path args) (fun _ => rfl) fun w w' hcache hhistory =>
      ⟨by simp only [HostFunction.ask, hhistory], hcache,
        by simp only [HostFunction.ask, hhistory]⟩⟩
  http _ c request := ⟨fun w => Nat.le_of_lt (c.alwaysAsks request w), fun _ =>
    .of_asks (c.alwaysAsks request) (fun _ => rfl) fun w w' hcache hhistory =>
      ⟨by simp only [HttpClient.ask, hhistory], hcache,
        by simp only [HttpClient.ask, hhistory]⟩⟩
  sql _ c query := ⟨fun w => Nat.le_of_lt (c.alwaysAsks query w), fun _ =>
    .of_asks (c.alwaysAsks query) (fun _ => rfl) fun w w' hcache hhistory =>
      ⟨by simp only [SqlConnection.ask, hhistory], hcache,
        by simp only [SqlConnection.ask, hhistory]⟩⟩

/-! ### References -/

variable {ev ev' : Evaluator ε}

theorem grows_reference (h : ∀ v w, w.history.length ≤ (ev v w).2.history.length) (name : String)
    (w : World) : w.history.length ≤ (ev.reference name w).2.history.length := by
  unfold Evaluator.reference
  split
  · exact Nat.le_refl _
  · next p _ =>
    split
    · exact Nat.le_refl _
    · exact h p.slot.expression { w with scope := p.outer }

/-- References go in step if those do that leave the expression. -/
theorem reference (name : String)
    (hleave : (ev.reference name).FollowsAt P 0 (ev'.reference name))
    (h : ∀ v, (ev v).Follows P (ev' v)) : (ev.reference name).Follows P (ev'.reference name) where
  grows := grows_reference (fun v => (h v).grows) name
  follows level := by
    -- By induction on the frames inside the expression, which are the same in both runs.
    induction level with
    | zero => exact hleave
    | succ level ih =>
        rintro ⟨_, cache, history⟩ ⟨_, cache', history'⟩ outcome w₁
          ⟨⟨frame, outer, outer', rfl, rfl, hover⟩, houtside⟩ hrun hquiet
        have hpaired : P.Paired level ⟨outer, cache, history⟩ ⟨outer', cache', history'⟩ :=
          ⟨hover, houtside.of_eq rfl rfl rfl rfl⟩
        cases hget : Dict.get? frame name with
        | none =>
            rw [Evaluator.reference_of_get?_none hget] at hrun
            rcases hout : ev.reference name ⟨outer, cache, history⟩ with ⟨result, w₂⟩
            rw [hout] at hrun
            cases hrun
            obtain ⟨w₂', hout', hpaired₂⟩ := ih hpaired hout fun hsilent => hquiet hsilent
            refine ⟨{ w₂' with scope := frame :: w₂'.scope }, ?_,
              ⟨frame, _, _, rfl, rfl, hpaired₂.scope⟩, hpaired₂.outside.of_eq rfl rfl rfl rfl⟩
            rw [Evaluator.reference_of_get?_none hget, hout']
        | some slot =>
            cases hvalue : slot.value with
            | some v =>
                rw [Evaluator.reference_of_value hget hvalue] at hrun
                cases hrun
                exact ⟨_, Evaluator.reference_of_value hget hvalue,
                  ⟨frame, _, _, rfl, rfl, hover⟩, houtside⟩
            | none =>
                rw [Evaluator.reference_of_expression hget hvalue] at hrun
                rcases hout : ev slot.expression ⟨outer, cache, history⟩ with ⟨_ | result, w₂⟩ <;>
                  rw [hout] at hrun <;> cases hrun
                obtain ⟨w₂', hout', hpaired₂⟩ :=
                  (h slot.expression).follows level hpaired hout fun hsilent => hquiet hsilent
                refine ⟨{ w₂' with scope := Dict.insert frame name ⟨slot.expression,
                    valueOf? (some result), slot.evaluations + 1⟩ :: w₂'.scope }, ?_,
                  ⟨_, _, _, rfl, rfl, hpaired₂.scope⟩, hpaired₂.outside.of_eq rfl rfl rfl rfl⟩
                rw [Evaluator.reference_of_expression hget hvalue, hout']
                rfl

end Follows

/-! ### Nodes -/

/-- **The rules for a node go in step if the references that leave it do.** -/
theorem Follows.node {env : Env} {ev ev' : Evaluator Failure}
    (hleave : ∀ name, (ev.reference name).FollowsAt P 0 (ev'.reference name))
    (h : ∀ v, (ev v).Follows P (ev' v)) (v : Json) :
    (Evaluation.node env ev v).Follows P (Evaluation.node env ev' v) := by
  have C := compositional env P
  cases hv : Evaluation.referenceOf? env v with
  | none => exact C.node h hv
  | some name =>
      rw [Evaluation.node_of_reference hv, Evaluation.node_of_reference hv]
      exact C.bind (reference name (hleave name) h) fun _ => C.pure _

end Run

end JsonExpr
