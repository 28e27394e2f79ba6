import JsonExpr.Evaluation.Basic

/-!
# Bindings

The properties of an operator node whose names start with a dollar sign are bindings.  Everything
inside the node can refer to them by name, and the nearest node that binds a name counts.  A bound
expression is evaluated when it is first referred to, in the scope around the node that declares it,
and its value is kept for the references that follow.  A failure is not kept.

Main definitions:

* `JsonExpr.Frame.ofNode` — the bindings a node declares;
* `JsonExpr.Scope.find?` — the nearest binding of a name, with the frames on either side;
* `JsonExpr.World.enter`, `JsonExpr.World.leave` — the world inside a node and after it;
* `JsonExpr.Run.withFrame` — a computation inside a node;
* `JsonExpr.Evaluator.reference` — the value of the nearest binding of a name.
-/

set_option autoImplicit false

namespace JsonExpr

/-- The bindings that a node declares. -/
def Frame.ofNode (node : Dict Json) : Frame :=
  Dict.mapValues (fun expression => ⟨expression, none, 0⟩) (Dict.filterKeys isBindingName node)

/-- Where a name is bound. -/
structure Place where
  /-- The frames inside the one that binds the name. -/
  inner : List Frame
  /-- The frame that binds the name. -/
  frame : Frame
  /-- The binding. -/
  slot : Slot
  /-- The frames outside, in which the bound expression is evaluated. -/
  outer : Scope

/-- The nearest binding of a name. -/
def Scope.find? : Scope → String → Option Place
  | [], _ => none
  | frame :: outer, name =>
    match Dict.get? frame name with
    | some slot => some ⟨[], frame, slot, outer⟩
    | none => (Scope.find? outer name).map fun p => { p with inner := frame :: p.inner }

/-- The scope of a place after its expression was evaluated: the value that is kept, if there is one,
and the frames outside as the evaluation left them. -/
def Place.close (p : Place) (name : String) (kept : Option Json) (outer : Scope) : Scope :=
  p.inner ++ Dict.insert p.frame name ⟨p.slot.expression, kept, p.slot.evaluations + 1⟩ :: outer

/-- The world inside a node that declares the bindings of `frame`. -/
def World.enter (w : World) (frame : Frame) : World :=
  if frame.isEmpty then w else { w with scope := frame :: w.scope }

/-- The world after a node that declares the bindings of `frame`. -/
def World.leave (w : World) (frame : Frame) : World :=
  if frame.isEmpty then w else { w with scope := w.scope.tail }

@[simp] theorem World.history_enter (w : World) (frame : Frame) :
    (w.enter frame).history = w.history := by
  unfold World.enter
  split <;> rfl

@[simp] theorem World.history_leave (w : World) (frame : Frame) :
    (w.leave frame).history = w.history := by
  unfold World.leave
  split <;> rfl

/-- A computation inside a node that declares the bindings of `frame`. -/
def Run.withFrame {ε α : Type} (frame : Frame) (m : Run ε α) : Run ε α := fun w =>
  let (outcome, w) := m (w.enter frame)
  (outcome, w.leave frame)

@[simp] theorem Run.withFrame_apply {ε α : Type} (frame : Frame) (m : Run ε α) (w : World) :
    Run.withFrame frame m w = ((m (w.enter frame)).1, (m (w.enter frame)).2.leave frame) := rfl

/-- What ends inside a node ends so in the world after it. -/
theorem Run.withFrame_of_eq {ε α : Type} {frame : Frame} {m : Run ε α} {w w' : World}
    {outcome : Option (Except ε α)} (h : m (w.enter frame) = (outcome, w')) :
    Run.withFrame frame m w = (outcome, w'.leave frame) := by
  rw [Run.withFrame_apply, h]

theorem Run.eq_of_withFrame {ε α : Type} {frame : Frame} {m : Run ε α} {w w' : World}
    {outcome : Option (Except ε α)} (h : Run.withFrame frame m w = (outcome, w')) :
    ∃ w₁, m (w.enter frame) = (outcome, w₁) ∧ w' = w₁.leave frame := by
  cases h
  exact ⟨_, rfl, rfl⟩

/-- The value of an evaluation that ended with one. -/
def Run.valueOf? {ε α : Type} : Option (Except ε α) → Option α
  | some (.ok a) => some a
  | _ => none

/-- The value of the nearest binding of a name; `none` if nothing binds it. -/
def Evaluator.reference {ε : Type} (ev : Evaluator ε) (name : String) : Run ε (Option Json) :=
  fun w =>
    match Scope.find? w.scope name with
    | none => (some (.ok none), w)
    | some p =>
      match p.slot.value with
      | some v => (some (.ok (some v)), w)
      | none =>
        let (outcome, w) := ev p.slot.expression { w with scope := p.outer }
        (outcome.map (·.map some),
          { w with scope := p.close name (Run.valueOf? outcome) w.scope })

end JsonExpr
