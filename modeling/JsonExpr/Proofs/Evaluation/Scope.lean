import JsonExpr.Proofs.Dict
import JsonExpr.Proofs.Evaluation.Congruence

/-!
# The names in scope

A node adds its frame for the time of its own evaluation and takes it away again, and a reference
looks past the frames inside the one it finds without losing them.  So evaluation leaves the same
frames with the same names in scope, however it ends; only what is kept for a name may be new.

Main definitions:

* `JsonExpr.World.names` — the names that each frame in scope binds;
* `JsonExpr.Run.KeepsNames` — a computation that leaves them as they are.

Main results:

* `JsonExpr.Scope.find?_eq_some` — the parts of a scope around a binding;
* `JsonExpr.eval_keepsNames` — **evaluation leaves the names in scope as they are**.
-/

set_option autoImplicit false

namespace JsonExpr

/-- The names that each frame in scope binds, innermost first. -/
def World.names (w : World) : List (List String) := w.scope.map Dict.keys

/-- A computation that leaves the names in scope as they are. -/
def Run.KeepsNames {ε α : Type} (m : Run ε α) : Prop := ∀ w, (m w).2.names = w.names

/-- The parts of a scope around the nearest binding of a name. -/
theorem Scope.find?_eq_some {s : Scope} {name : String} {p : Place}
    (h : Scope.find? s name = some p) :
    s = p.inner ++ p.frame :: p.outer ∧ Dict.get? p.frame name = some p.slot := by
  induction s generalizing p with
  | nil => cases h
  | cons frame outer ih =>
      unfold Scope.find? at h
      split at h
      · next slot hslot =>
        cases h
        exact ⟨rfl, hslot⟩
      · obtain ⟨q, hq, rfl⟩ := Option.map_eq_some_iff.mp h
        obtain ⟨hs, hget⟩ := ih hq
        exact ⟨by rw [hs]; rfl, hget⟩

/-- Closing a place again keeps the names of its frame. -/
theorem Place.keys_close {p : Place} {name : String} (h : Dict.get? p.frame name = some p.slot)
    (kept : Option Json) (outer : Scope) :
    (p.close name kept outer).map Dict.keys =
      p.inner.map Dict.keys ++ Dict.keys p.frame :: outer.map Dict.keys := by
  rw [Place.close, List.map_append, List.map_cons, Dict.keys_insert_of_get? h]

theorem World.names_leave_enter (w : World) (frame : Frame) {w' : World}
    (h : w'.names = (w.enter frame).names) : (w'.leave frame).names = w.names := by
  unfold World.leave World.enter at *
  split at h
  -- An empty frame is not added, so there is none to take away.
  · next hf => rw [if_pos hf, h]
  · next hf =>
    rw [if_neg hf]
    have htail := congrArg List.tail h
    simpa only [World.names, List.map_cons, List.tail_cons, List.map_tail] using htail

namespace Run.KeepsNames

theorem reference {ε : Type} {ev : Evaluator ε} (name : String) (h : ∀ v, (ev v).KeepsNames) :
    (ev.reference name).KeepsNames := by
  intro w
  unfold Evaluator.reference
  split
  · rfl
  · next p hp =>
    obtain ⟨hscope, hget⟩ := Scope.find?_eq_some hp
    split
    · rfl
    · have houter := h p.slot.expression { w with scope := p.outer }
      have hclosed : ∀ kept outer, outer.map Dict.keys = p.outer.map Dict.keys →
          (p.close name kept outer).map Dict.keys = w.scope.map Dict.keys := by
        intro kept outer ho
        rw [Place.keys_close hget, ho, hscope, List.map_append, List.map_cons]
      exact hclosed _ _ houter

theorem andThen {ε α β : Type} {m : Run ε α} {f : α → Run ε β} (hm : m.KeepsNames)
    (hf : ∀ a, (f a).KeepsNames) : (Run.andThen m f).KeepsNames := by
  intro w
  rcases h : m w with ⟨_ | e | a, w₁⟩
  · rw [Run.andThen_of_exhausted h, ← hm w, h]
  · rw [Run.andThen_of_error h, ← hm w, h]
  · rw [Run.andThen_of_ok h, hf a w₁, ← hm w, h]

theorem withFrame {ε α : Type} (frame : Frame) {m : Run ε α} (hm : m.KeepsNames) :
    (Run.withFrame frame m).KeepsNames :=
  fun w => World.names_leave_enter w frame (hm _)

theorem cached (key : String) {m : Run OperatorFault Json} (hm : m.KeepsNames) :
    (Asking.cached key m).KeepsNames := by
  intro w
  unfold Asking.cached
  split
  · rfl
  · rw [← hm w]
    rcases m w with ⟨_ | outcome, w₁⟩ <;> rfl

/-- Leaving the names in scope as they are is respected by all ways of building computations. -/
theorem congruence (env : Env) : Run.Congruence env (fun m _ => m.KeepsNames) where
  ofExcept _ := fun _ => rfl
  andThen := andThen
  attempt hm := hm
  mapFailure _ _ _ hm := hm
  withFrame frame _ _ hm := withFrame frame hm
  reference := reference
  cached key _ _ _ hm := cached key hm
  call _ _ _ _ := fun _ => rfl
  http _ _ _ := fun _ => rfl
  sql _ _ _ := fun _ => rfl

end Run.KeepsNames

section Nodes

variable {env : Env} {ev : Evaluator Failure} {k : OperatorKind}

theorem Evaluation.gather_keepsNames (h : ∀ v, (ev v).KeepsNames) (node : Dict Json) :
    (Evaluation.gather ev k node).KeepsNames :=
  @Run.Compositional.gather _ _ ev ev
    (Run.KeepsNames.congruence ⟨Options.empty, Registry.full⟩).toCompositional h k node

theorem Evaluation.compute_keepsNames (h : ∀ v, (ev v).KeepsNames) (permitted : env.Permits k)
    (props : Props) : (Evaluation.compute env (Evaluation.inside ev) k props).KeepsNames :=
  @Run.Compositional.compute env _ (Evaluation.inside ev) (Evaluation.inside ev)
    (Run.KeepsNames.congruence env).toCompositional h k permitted props

end Nodes

/-- **Evaluation leaves the names in scope as they are.** -/
theorem eval_keepsNames (env : Env) (depth : Nat) (v : Json) : (eval env depth v).KeepsNames :=
  (Run.KeepsNames.congruence env).eval (fun _ => rfl) depth v

end JsonExpr
