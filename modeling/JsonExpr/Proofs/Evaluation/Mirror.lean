import JsonExpr.Proofs.Evaluation.Positional
import JsonExpr.Proofs.Evaluation.Settled
import JsonExpr.Proofs.Evaluation.Unreached

/-!
# Operators over operands that evaluate alike

Most operators evaluate each of their operands as a whole, and look at nothing but the values.  So
they compute the same from operands that evaluate alike, and it does not matter how these are
written.  Two kinds of operator are different.  Conjunction and disjunction go through a list that
is written out and stop at the operand that decides them; and some operators look for expressions
inside an operand that is written out.

Main definitions:

* `JsonExpr.Run.Mirrors` — a computation that ends as another in scopes that agree;
* `JsonExpr.OperatorKind.looksInside` — the operators that look for expressions inside of operands.

Main results:

* `JsonExpr.Run.Mirrors.bind`, `JsonExpr.Run.Mirrors.traverse` — ways of building computations;
* `JsonExpr.Run.Mirrors.compute` — **an operator that does not look inside its operands computes the
  same from operands that evaluate alike**, given that conjunction and disjunction do.
-/

set_option autoImplicit false

namespace JsonExpr

/-- The second computation ends as the first does, wherever scopes agree: with related values, the
same questions and the same cache, and in scopes that agree. -/
def Run.Mirrors {ε α β : Type} (env : Env) (base : Scope) (S : α → β → Prop) (m : Run ε α)
    (m' : Run ε β) : Prop :=
  ∀ ⦃s s' cache history outcome s₁ cache₁ history₁⦄, Scope.Agree env base s s' →
    m ⟨s, cache, history⟩ = (some outcome, ⟨s₁, cache₁, history₁⟩) →
    ∃ outcome' s₁', m' ⟨s', cache, history⟩ = (some outcome', ⟨s₁', cache₁, history₁⟩) ∧
      Alike S outcome outcome' ∧ Scope.Agree env base s₁ s₁'

/-- The operators that look for expressions inside an operand that is written out. -/
def OperatorKind.looksInside : OperatorKind → Bool
  | buildObject | matching | get | post | graphQL => true
  | _ => false

namespace Run.Mirrors

variable {env : Env} {base : Scope} {ε ε' α β γ δ : Type} {S : α → β → Prop} {T : γ → δ → Prop}

/-! ### Ways of building computations -/

theorem ofExcept {outcome : Except ε α} {outcome' : Except ε β} (h : Alike S outcome outcome') :
    Mirrors env base S (Run.ofExcept outcome) (Run.ofExcept outcome') := by
  intro s s' cache history _ _ _ _ hagree hrun
  cases hrun
  exact ⟨outcome', s', rfl, h, hagree⟩

theorem value {a : α} {b : β} (h : S a b) :
    Mirrors env base S (Run.value a : Run ε α) (Run.value b) :=
  ofExcept (.ok h)

/-- Computations that go in step. -/
theorem of_follows {m m' : Run ε α} (h : m.Follows (.agreeing env base) m') :
    Mirrors env base Eq m m' := by
  intro s s' cache history outcome s₁ cache₁ history₁ hagree hrun
  obtain ⟨s₁', hrun', hagree₁⟩ := (h.follows 0).of_agree hagree hrun
  refine ⟨outcome, s₁', hrun', ?_, hagree₁⟩
  cases outcome with
  | error e => exact .error e
  | ok a => exact .ok rfl

/-- In one world, the second computation ends with the same outcome as the first. -/
theorem of_world {m m' : Run ε α} (h : Mirrors env base Eq m m') {w w₁ : World}
    (hagree : Scope.Agree env base w.scope w.scope) {outcome : Except ε α}
    (hrun : m w = (some outcome, w₁)) :
    ∃ s₁, m' w = (some outcome, ⟨s₁, w₁.cache, w₁.history⟩) := by
  obtain ⟨_, s₁, hrun', hout, -⟩ := h hagree hrun
  cases hout with
  | error e => exact ⟨s₁, hrun'⟩
  | ok heq => exact ⟨s₁, heq ▸ hrun'⟩

theorem bind {m : Run ε α} {m' : Run ε β} {f : α → Run ε γ} {f' : β → Run ε δ}
    (hm : Mirrors env base S m m') (hf : ∀ a b, S a b → Mirrors env base T (f a) (f' b)) :
    Mirrors env base T (m >>= f) (m' >>= f') := by
  intro s s' cache history outcome s₂ cache₂ history₂ hagree hrun
  obtain ⟨e, h₁, rfl⟩ | ⟨a, ⟨s₁, cache₁, history₁⟩, h₁, h₂⟩ := Run.andThen_finished hrun
  · obtain ⟨_, s₁', h₁', hfirst, hagree₁⟩ := hm hagree h₁
    cases hfirst
    exact ⟨_, s₁', Run.bind_of_error h₁', .error e, hagree₁⟩
  · obtain ⟨_, s₁', h₁', hfirst, hagree₁⟩ := hm hagree h₁
    cases hfirst with
    | ok hab =>
        obtain ⟨outcome', s₂', h₂', hout, hagree₂⟩ := hf _ _ hab hagree₁ h₂
        exact ⟨outcome', s₂', (Run.bind_of_ok h₁').trans h₂', hout, hagree₂⟩

/-- What follows the same value. -/
theorem bind_eq {m m' : Run ε α} {f : α → Run ε γ} {f' : α → Run ε δ}
    (hm : Mirrors env base Eq m m') (hf : ∀ a, Mirrors env base T (f a) (f' a)) :
    Mirrors env base T (m >>= f) (m' >>= f') := by
  refine bind hm fun a b hab => ?_
  subst hab
  exact hf a

theorem trans {m m' m'' : Run ε α} (h : Mirrors env base Eq m m')
    (h' : Mirrors env base Eq m' m'') : Mirrors env base Eq m m'' := by
  intro s s' cache history outcome s₁ cache₁ history₁ hagree hrun
  obtain ⟨outcome', s₁', h₁, hout, hagree₁⟩ := h hagree hrun
  obtain ⟨outcome'', s₁'', h₂, hout', hagree₂⟩ := h' hagree.right h₁
  refine ⟨outcome'', s₁'', h₂, ?_, hagree₁.trans hagree₂⟩
  cases hout with
  | error e => exact hout'
  | ok heq => exact heq ▸ hout'

theorem attempt {m : Run ε α} {m' : Run ε β} (hm : Mirrors env base S m m') :
    Mirrors env base (Alike S) (Run.attempt m : Run ε' _) (Run.attempt m') := by
  intro s s' cache history caught s₁ cache₁ history₁ hagree hrun
  obtain ⟨outcome, h₁, rfl⟩ := Run.attempt_finished hrun
  obtain ⟨outcome', s₁', h₁', hout, hagree₁⟩ := hm hagree h₁
  exact ⟨.ok outcome', s₁', Run.attempt_of_finished h₁', .ok hout, hagree₁⟩

theorem mapFailure (g : ε → ε') {m : Run ε α} {m' : Run ε β} (hm : Mirrors env base S m m') :
    Mirrors env base S (Run.mapFailure g m) (Run.mapFailure g m') := by
  intro s s' cache history outcome s₁ cache₁ history₁ hagree hrun
  rcases h₁ : m ⟨s, cache, history⟩ with ⟨_ | outcome₁, w₁⟩ <;>
    rw [Run.mapFailure_apply, h₁] at hrun <;> cases hrun
  obtain ⟨outcome', s₁', h₁', hout, hagree₁⟩ := hm hagree h₁
  exact ⟨outcome'.mapError g, s₁', by rw [Run.mapFailure_apply, h₁']; rfl, hout.mapError g, hagree₁⟩

/-- Elements that are evaluated alike, one after the other. -/
theorem traverse {R : γ → δ → Prop} {f : γ → Run ε α} {f' : δ → Run ε α} {items : List γ}
    {items' : List δ} (hf : ∀ c d, R c d → Mirrors env base Eq (f c) (f' d))
    (hitems : List.Forall₂ R items items') :
    Mirrors env base Eq (Run.traverse f items) (Run.traverse f' items') := by
  induction hitems with
  | nil => exact value rfl
  | cons hitem _ ih =>
      exact bind_eq (hf _ _ hitem) fun a => bind_eq ih fun as => value rfl

/-! ### Operands -/

section Operands

variable {R : Json → Json → Prop} {ev ev' : Evaluator ε} {props props' : Props}

theorem optional (h : ∀ x x', R x x' → Mirrors env base Eq (ev x) (ev' x')) {v v' : Option Json}
    (hv : Option.Rel R v v') : Mirrors env base Eq (ev.optional v) (ev'.optional v') := by
  cases hv with
  | none => exact value rfl
  | some hr => exact bind_eq (h _ _ hr) fun v => value rfl

theorem operands (h : ∀ x x', R x x' → Mirrors env base Eq (ev x) (ev' x'))
    (hprops : Dict.Related (fun _ => R) props props') (names : List String) :
    Mirrors env base Eq (ev.operands props names) (ev'.operands props' names) := by
  refine traverse (R := Eq) (fun name _ hname => ?_) (List.forall₂_refl names)
  subst hname
  exact bind_eq (optional h (hprops.rel_get? name)) fun v => value rfl

end Operands

/-! ### Operators -/

section Operators

variable {R : Json → Json → Prop} {ev ev' : Evaluator OperatorFault} {props props' : Props}

/-- A check in front of a computation. -/
theorem guarded (check : Except OperatorFault Unit) {m m' : Run OperatorFault γ}
    (hm : Mirrors env base Eq m m') :
    Mirrors env base Eq (Run.ofExcept check >>= fun _ => m) (Run.ofExcept check >>= fun _ => m') :=
  bind_eq (of_follows ((Run.Follows.compositional env _).ofExcept check)) fun _ => hm

/-- Operands in an array, up to the one that decides. -/
theorem scan (h : ∀ x x', R x x' → Mirrors env base Eq (ev x) (ev' x')) (wanted : Bool)
    {items items' : List Json} (hitems : List.Forall₂ R items items') :
    Mirrors env base Eq (Branching.scan ev wanted items) (Branching.scan ev' wanted items') := by
  induction hitems with
  | nil => exact value rfl
  | cons hitem _ ih =>
      refine bind_eq (h _ _ hitem) fun v => ?_
      by_cases hv : v.truthy = wanted
      · simp only [hv, if_true]
        exact value rfl
      · simp only [hv, if_false]
        exact ih

variable (h : ∀ x x', R x x' → Mirrors env base Eq (ev x) (ev' x'))
  (hprops : Dict.Related (fun _ => R) props props')

include h hprops

theorem strict (k : OperatorKind) (op : StrictOperator) :
    Mirrors env base Eq (Evaluation.strict env ev k op props)
      (Evaluation.strict env ev' k op props') :=
  bind_eq (operands h hprops _) fun _ => guarded _
    (of_follows ((Run.Follows.compositional env _).ofExcept _))

theorem conditional :
    Mirrors env base Eq (Branching.conditional env ev props)
      (Branching.conditional env ev' props') :=
  bind_eq (optional h (hprops.rel_get? _)) fun _ => guarded _
    (bind_eq (optional h (hprops.rel_get? _)) fun _ => value rfl)

theorem sql (permitted : env.Permits .pgSql) :
    Mirrors env base Eq (Asking.sql env ev props) (Asking.sql env ev' props') := by
  have C := (Run.Follows.compositional env (.agreeing env base)).graded
  refine bind_eq (operands h hprops _) fun operands => of_follows (C.guarded (n := 0) _ fun _ => ?_)
  exact C.bind_free (a := 0) (C.need _ _) fun connection =>
    C.cachedIf (n := 0) operands _ _ ((connection.alwaysAsks _).bind fun _ _ => rfl)
      (C.bind_free (a := 0) (C.sql permitted connection _) fun _ => C.value _)

theorem function (permitted : env.Permits .customFunctions) :
    Mirrors env base Eq (Asking.function env ev props) (Asking.function env ev' props') := by
  have C := (Run.Follows.compositional env (.agreeing env base)).graded
  refine bind_eq (operands h hprops _) fun operands => of_follows (C.guarded (n := 0) _ fun _ => ?_)
  dsimp only
  split
  · exact C.fail _
  · next registered f _ =>
    exact C.cachedIf (n := 0) operands _ _ (f.alwaysAsks _ _) (C.call permitted _ _ _)

/-- **An operator that does not look inside its operands computes the same from operands that
evaluate alike**, given that conjunction and disjunction decide alike. -/
theorem compute {k : OperatorKind} (permitted : env.Permits k) (hk : k.looksInside = false)
    (hmeets : k = .and ∨ k = .or → ∀ wanted, Mirrors env base Eq
      (Branching.meets env ev k wanted props) (Branching.meets env ev' k wanted props')) :
    Mirrors env base Eq (Evaluation.compute env ev k props)
      (Evaluation.compute env ev' k props') := by
  cases k with
  | and => exact bind_eq (hmeets (.inl rfl) false) fun _ => value rfl
  | or => exact bind_eq (hmeets (.inr rfl) true) fun _ => value rfl
  | conditional => exact conditional h hprops
  | pgSql => exact sql h hprops permitted
  | customFunctions => exact function h hprops permitted
  | buildObject | matching | get | post | graphQL => cases hk
  | _ => exact strict h hprops _ _

end Operators

end Run.Mirrors

end JsonExpr
