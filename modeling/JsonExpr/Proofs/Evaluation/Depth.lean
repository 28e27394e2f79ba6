import JsonExpr.Proofs.Evaluation.Congruence

/-!
# More depth

An evaluation that finishes within some depth finishes in the same way within any greater depth, so
what an expression evaluates to does not depend on the depth.

Main definitions:

* `JsonExpr.Run.Extends` — a computation that finishes as another whenever that one does.

Main results:

* `JsonExpr.eval_mono` — **greater depth keeps a finished evaluation**;
* `JsonExpr.eval_unique` — any two depths that finish agree.
-/

set_option autoImplicit false

namespace JsonExpr

/-- The second computation finishes as the first whenever the first does. -/
def Run.Extends {ε α : Type} (m m' : Run ε α) : Prop :=
  ∀ w outcome w', m w = (some outcome, w') → m' w = (some outcome, w')

namespace Run.Extends

variable {ε ε' α β : Type}

theorem refl (m : Run ε α) : m.Extends m := fun _ _ _ h => h

theorem andThen {m m' : Run ε α} {f f' : α → Run ε β} (hm : m.Extends m')
    (hf : ∀ a, (f a).Extends (f' a)) : (Run.andThen m f).Extends (Run.andThen m' f') := by
  intro w outcome w' h
  obtain ⟨e, h₁, rfl⟩ | ⟨a, w₁, h₁, h₂⟩ := Run.andThen_finished h
  · exact Run.andThen_of_error (hm w _ _ h₁)
  · rw [Run.andThen_of_ok (hm w _ _ h₁)]
    exact hf a w₁ _ _ h₂

/-- Whatever is made of the outcome of a finished computation. -/
theorem of_outcome {m m' : Run ε α} (hm : m.Extends m') {w : World} {β : Type}
    {g : Except ε α → β} {outcome : β} (h : ((m w).1.map g) = some outcome) : m' w = m w := by
  obtain ⟨o, ho, -⟩ := Option.map_eq_some_iff.mp h
  have hw : m w = (some o, (m w).2) := Prod.ext ho rfl
  rw [hm w _ _ hw, hw]

theorem withFrame (frame : Frame) {m m' : Run ε α} (hm : m.Extends m') :
    (Run.withFrame frame m).Extends (Run.withFrame frame m') := by
  intro w outcome w' h
  -- A frame is taken away again however the computation ends; the outcome is that inside it.
  have h₁ : (m (w.enter frame)).1 = some outcome := congrArg Prod.fst h
  have h₂ : m' (w.enter frame) = m (w.enter frame) :=
    hm.of_outcome (g := id) (by rw [h₁]; rfl)
  simpa only [Run.withFrame, h₂] using h

theorem reference {ev ev' : Evaluator ε} (name : String) (h : ∀ v, (ev v).Extends (ev' v)) :
    (ev.reference name).Extends (ev'.reference name) := by
  intro w outcome w' hw
  unfold Evaluator.reference at hw ⊢
  split at hw
  · exact hw
  · next p _ =>
    split at hw
    · exact hw
    · have h₁ : ((ev p.slot.expression { w with scope := p.outer }).1.map (·.map some)) =
          some outcome := congrArg Prod.fst hw
      rw [(h p.slot.expression).of_outcome h₁]
      exact hw

theorem cached (key : String) {m m' : Run OperatorFault Json} (hm : m.Extends m') :
    (Asking.cached key m).Extends (Asking.cached key m') := by
  intro w outcome w' h
  unfold Asking.cached at h ⊢
  split at h
  · exact h
  · rcases h₁ : m w with ⟨_ | o, w₁⟩
    · rw [h₁] at h
      cases h
    · rw [h₁] at h
      rw [hm w _ _ h₁]
      exact h

/-- Finishing alike is respected by all ways of building computations. -/
theorem congruence (env : Env) : Run.Congruence env Run.Extends where
  ofExcept outcome := refl _
  andThen := andThen
  attempt hm := fun w outcome w' h => by
    have h₁ := hm.of_outcome (congrArg Prod.fst h)
    simpa only [Run.attempt_apply, h₁] using h
  mapFailure g _ _ hm := fun w outcome w' h => by
    have h₁ := hm.of_outcome (congrArg Prod.fst h)
    simpa only [Run.mapFailure_apply, h₁] using h
  withFrame frame _ _ hm := withFrame frame hm
  reference := reference
  cached key _ _ _ := cached key
  call _ _ _ _ := refl _
  http _ _ _ := refl _
  sql _ _ _ := refl _

end Run.Extends

/-- One more level of depth keeps a finished evaluation. -/
theorem eval_succ (env : Env) (depth : Nat) (v : Json) :
    (eval env depth v).Extends (eval env (depth + 1) v) := by
  induction depth generalizing v with
  | zero =>
      intro w outcome w' h
      cases h
  | succ depth ih => exact (Run.Extends.congruence env).node ih v

/-- **Greater depth keeps a finished evaluation.** -/
theorem eval_mono {env : Env} {depth depth' : Nat} (h : depth ≤ depth') (v : Json) :
    (eval env depth v).Extends (eval env depth' v) := by
  induction h with
  | refl => exact Run.Extends.refl _
  | step _ ih => exact fun w outcome w' hw => eval_succ env _ v w _ _ (ih w outcome w' hw)

/-- Any two depths within which an evaluation finishes agree. -/
theorem eval_unique {env : Env} {depth depth' : Nat} {v : Json} {w w₁ w₂ : World}
    {outcome₁ outcome₂ : Except Failure Json} (h₁ : eval env depth v w = (some outcome₁, w₁))
    (h₂ : eval env depth' v w = (some outcome₂, w₂)) : outcome₁ = outcome₂ ∧ w₁ = w₂ := by
  -- Both runs are continued to the greater of the two depths.
  have h₁' := eval_mono (Nat.le_max_left depth depth') v w _ _ h₁
  have h₂' := eval_mono (Nat.le_max_right depth depth') v w _ _ h₂
  rw [h₁'] at h₂'
  cases h₂'
  exact ⟨rfl, rfl⟩

/-- What holds of each element from some number on holds of all elements from some number on. -/
theorem exists_forall_of_forall_exists {α : Type} {P : Nat → α → Prop}
    (mono : ∀ {n m a}, n ≤ m → P n a → P m a) {items : List α} (h : ∀ a ∈ items, ∃ n, P n a) :
    ∃ n, ∀ a ∈ items, P n a := by
  induction items with
  | nil => exact ⟨0, fun _ ha => nomatch ha⟩
  | cons a rest ih =>
      obtain ⟨ha, hrest⟩ := List.forall_mem_cons.mp h
      obtain ⟨n, hn⟩ := ha
      obtain ⟨m, hm⟩ := ih hrest
      refine ⟨max n m, List.forall_mem_cons.mpr ⟨mono (Nat.le_max_left n m) hn, ?_⟩⟩
      exact fun b hb => mono (Nat.le_max_right n m) (hm b hb)

end JsonExpr
