import JsonExpr.Cache
import JsonExpr.Host

/-!
# Computations over a world

An evaluation changes three things: the memoised values of the bindings in scope, the result cache,
and the history of what the host was asked.  Together they are the world.  A `Run` is a computation
that may change the world, may fail, and may run out of the depth it was given; running out is kept
apart from failing, so that no fallback can catch it, and leaves the world as it was at that point.

Main definitions:

* `JsonExpr.Slot`, `JsonExpr.Frame`, `JsonExpr.Scope` — bindings and their values so far;
* `JsonExpr.World` — scope, cache and history;
* `JsonExpr.Run` — a computation over a world;
* `JsonExpr.Run.fail`, `JsonExpr.Run.attempt`, `JsonExpr.Run.mapFailure` — failures;
* `JsonExpr.Run.traverse` — one computation for each element of a list, in order.
-/

set_option autoImplicit false

namespace JsonExpr

/-! ### The world -/

/-- A binding: its expression and, once it was evaluated, its value. -/
structure Slot where
  /-- The bound expression. -/
  expression : Json
  /-- The value, once it is known. -/
  value : Option Json
  /-- How often the expression was evaluated.  No evaluation depends on it. -/
  evaluations : Nat

/-- The bindings that one node declares, by name. -/
abbrev Frame := Dict Slot

/-- The frames in scope, innermost first. -/
abbrev Scope := List Frame

/-- What an evaluation can change. -/
structure World where
  /-- The bindings in scope. -/
  scope : Scope
  /-- The result cache. -/
  cache : ResultCache
  /-- What the host was asked. -/
  history : History

/-! ### Computations -/

/-- A computation over a world: `none` when it ran out of depth, else a value or a failure, and the
world afterwards. -/
def Run (ε α : Type) : Type := World → Option (Except ε α) × World

namespace Run

variable {ε ε' α β : Type}

/-- A value, at no cost. -/
def value (a : α) : Run ε α := fun w => (some (.ok a), w)

/-- A failure. -/
def fail (e : ε) : Run ε α := fun w => (some (.error e), w)

/-- The computation that ran out of depth. -/
def exhausted : Run ε α := fun w => (none, w)

/-- One computation, then another that depends on its value. -/
def andThen (m : Run ε α) (f : α → Run ε β) : Run ε β := fun w =>
  match m w with
  | (some (.ok a), w) => f a w
  | (some (.error e), w) => (some (.error e), w)
  | (none, w) => (none, w)

instance : Monad (Run ε) where
  pure := value
  bind := andThen

/-- A computation that does not fail: the failure, if there is one, becomes its value. -/
def attempt (m : Run ε α) : Run ε' (Except ε α) := fun w =>
  let (outcome, w) := m w
  (outcome.map .ok, w)

/-- The same computation with its failure mapped. -/
def mapFailure (f : ε → ε') (m : Run ε α) : Run ε' α := fun w =>
  let (outcome, w) := m w
  (outcome.map (·.mapError f), w)

/-- The outcome of a pure computation. -/
def ofExcept (outcome : Except ε α) : Run ε α := fun w => (some outcome, w)

/-- One computation for each element, in order, up to the first failure. -/
def traverse (f : α → Run ε β) : List α → Run ε (List β)
  | [] => value []
  | a :: rest => andThen (f a) fun b => andThen (traverse f rest) fun bs => value (b :: bs)

@[simp] theorem value_apply (a : α) (w : World) : (value a : Run ε α) w = (some (.ok a), w) := rfl

@[simp] theorem fail_apply (e : ε) (w : World) : (fail e : Run ε α) w = (some (.error e), w) := rfl

@[simp] theorem exhausted_apply (w : World) : (exhausted : Run ε α) w = (none, w) := rfl

@[simp] theorem ofExcept_apply (outcome : Except ε α) (w : World) :
    ofExcept outcome w = (some outcome, w) := rfl

@[simp] theorem attempt_apply (m : Run ε α) (w : World) :
    (attempt m : Run ε' (Except ε α)) w = ((m w).1.map .ok, (m w).2) := rfl

@[simp] theorem mapFailure_apply (f : ε → ε') (m : Run ε α) (w : World) :
    mapFailure f m w = ((m w).1.map (·.mapError f), (m w).2) := rfl

/-! ### One computation after another -/

section Sequence

variable {m : Run ε α} {f : α → Run ε β} {a : α} {e : ε} {w w' : World}

theorem andThen_of_ok (h : m w = (some (.ok a), w')) : andThen m f w = f a w' := by
  simp only [andThen, h]

theorem andThen_of_error (h : m w = (some (.error e), w')) :
    andThen m f w = (some (.error e), w') := by
  simp only [andThen, h]

theorem andThen_of_exhausted (h : m w = (none, w')) : andThen m f w = (none, w') := by
  simp only [andThen, h]

theorem bind_of_ok (h : m w = (some (.ok a), w')) : (m >>= f) w = f a w' := andThen_of_ok h

theorem bind_of_error (h : m w = (some (.error e), w')) : (m >>= f) w = (some (.error e), w') :=
  andThen_of_error h

theorem bind_of_exhausted (h : m w = (none, w')) : (m >>= f) w = (none, w') :=
  andThen_of_exhausted h

/-- Three computations one after the other, however they are grouped. -/
theorem andThen_assoc {γ : Type} (m : Run ε α) (f : α → Run ε β) (g : β → Run ε γ) :
    andThen (andThen m f) g = andThen m fun a => andThen (f a) g := by
  funext w
  rcases hm : m w with ⟨_ | e | a, w₁⟩ <;> simp only [andThen, hm]

/-- A sequence that finished either failed in its first part or went on to its second. -/
theorem andThen_finished {outcome : Except ε β} (h : andThen m f w = (some outcome, w')) :
    (∃ e, m w = (some (.error e), w') ∧ outcome = .error e) ∨
      ∃ a w₁, m w = (some (.ok a), w₁) ∧ f a w₁ = (some outcome, w') := by
  rcases hm : m w with ⟨_ | e | a, w₁⟩
  · rw [andThen_of_exhausted hm] at h
    cases h
  · rw [andThen_of_error hm] at h
    cases h
    exact .inl ⟨e, rfl, rfl⟩
  · rw [andThen_of_ok hm] at h
    exact .inr ⟨a, w₁, rfl, h⟩

/-- Two sequences with the same first part are the same where that part leads. -/
theorem bind_congr {g : α → Run ε β} (h : ∀ a w₁, m w = (some (.ok a), w₁) → f a w₁ = g a w₁) :
    (m >>= f) w = (m >>= g) w := by
  rcases hm : m w with ⟨_ | e | a, w₁⟩
  · rw [bind_of_exhausted hm, bind_of_exhausted hm]
  · rw [bind_of_error hm, bind_of_error hm]
  · rw [bind_of_ok hm, bind_of_ok hm, h a w₁ hm]

/-- Two sequences are the same where their first parts are, in one world or in two. -/
theorem bind_congr_left {m' : Run ε α} (h : m w = m' w') : (m >>= f) w = (m' >>= f) w' := by
  rcases hm : m w with ⟨_ | e | a, w₁⟩ <;> rw [hm] at h
  · rw [bind_of_exhausted hm, bind_of_exhausted h.symm]
  · rw [bind_of_error hm, bind_of_error h.symm]
  · rw [bind_of_ok hm, bind_of_ok h.symm]

/-- The first part of a sequence that finished did so as well. -/
theorem first_finished {outcome : Except ε β} (h : andThen m f w = (some outcome, w')) :
    ∃ outcome₁ w₁, m w = (some outcome₁, w₁) := by
  obtain ⟨e, h₁, -⟩ | ⟨a, w₁, h₁, -⟩ := andThen_finished h
  · exact ⟨.error e, w', h₁⟩
  · exact ⟨.ok a, w₁, h₁⟩

theorem attempt_of_finished {outcome : Except ε α} (h : m w = (some outcome, w')) :
    (attempt m : Run ε' (Except ε α)) w = (some (.ok outcome), w') := by
  rw [attempt_apply, h]
  rfl

theorem attempt_of_exhausted (h : m w = (none, w')) :
    (attempt m : Run ε' (Except ε α)) w = (none, w') := by
  rw [attempt_apply, h]
  rfl

/-- An attempt that finished is of a computation that did, and has its outcome as value. -/
theorem attempt_finished {caught : Except ε' (Except ε α)} (h : attempt m w = (some caught, w')) :
    ∃ outcome, m w = (some outcome, w') ∧ caught = .ok outcome := by
  rcases hm : m w with ⟨_ | outcome, w₁⟩ <;> rw [attempt_apply, hm] at h <;> cases h
  exact ⟨outcome, rfl, rfl⟩

theorem eq_of_attempt {outcome : Except ε α}
    (h : (attempt m : Run ε' (Except ε α)) w = (some (.ok outcome), w')) :
    m w = (some outcome, w') := by
  obtain ⟨_, hm, ⟨⟩⟩ := attempt_finished h
  exact hm

end Sequence

end Run

end JsonExpr
