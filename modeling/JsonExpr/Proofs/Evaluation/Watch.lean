import JsonExpr.Proofs.Evaluation.Scope

/-!
# Watching a binding

All references to a binding share one slot.  A reference to a slot without a value evaluates the
bound expression in the scope around the declaration; if that comes to a value, the slot keeps it
and no reference after that evaluates anything.  A failure is not kept: the next reference tries
again.

What a reference sees cannot be told from the outcome of an evaluation.  So references are watched:
a watched reference breaks off if it is one to the binding and sees anything but what it should, and
is the plain one otherwise.  Whatever is computed with plain references only tries the expression,
and is computed in the same way with watched ones.

The frame of the binding is told by the names in the frames outside, which do not change.

Main definitions:

* `JsonExpr.Scope.slot?` — the slot of a binding, by the number of frames outside its own;
* `JsonExpr.Slot.Tried` — what becomes of a slot while its expression is tried;
* `JsonExpr.Watch`, `JsonExpr.Slot.Shows` — a binding, and what references to it may see;
* `JsonExpr.Watch.reference` — a reference that breaks off where it sees anything else;
* `JsonExpr.Run.Watched` — a computation that tries the expression and runs the same when watched.

Main results:

* `JsonExpr.Slot.Tried.attempts` — the outcomes of the evaluations, one after the other;
* `JsonExpr.Run.Watched.compositional` — **all ways of building computations keep to this**;
* `JsonExpr.Run.Watched.reference` — **and so do references**.
-/

set_option autoImplicit false

namespace JsonExpr

/-! ### The slot of a binding -/

/-- The slot of a name in the frame with `level` frames outside it. -/
def Scope.slot? (level : Nat) (name : String) : Scope → Option Slot
  | [] => none
  | frame :: outer =>
    if outer.length = level then Dict.get? frame name else Scope.slot? level name outer

namespace Scope

variable {level : Nat} {name : String}

theorem slot?_here {frame : Frame} {outer : Scope} (h : outer.length = level) :
    slot? level name (frame :: outer) = Dict.get? frame name := by
  rw [slot?, if_pos h]

/-- Frames inside do not matter. -/
theorem slot?_append (inner : List Frame) {s : Scope} (h : level < s.length) :
    slot? level name (inner ++ s) = slot? level name s := by
  induction inner with
  | nil => rfl
  | cons frame inner ih =>
      have hlength : (inner ++ s).length ≠ level := by
        rw [List.length_append]
        omega
      rw [List.cons_append, slot?, if_neg hlength, ih]

theorem slot?_eq_none {s : Scope} (h : s.length ≤ level) : slot? level name s = none := by
  induction s with
  | nil => rfl
  | cons frame outer ih =>
      rw [List.length_cons] at h
      rw [slot?, if_neg (by omega), ih (by omega)]

/-- Neither do frames outside, as long as there are as many. -/
theorem slot?_append_congr (inner : List Frame) {s s' : Scope} (hlength : s'.length = s.length)
    (h : s.length ≤ level) : slot? level name (inner ++ s') = slot? level name (inner ++ s) := by
  induction inner with
  | nil => rw [List.nil_append, List.nil_append, slot?_eq_none h, slot?_eq_none (hlength ▸ h)]
  | cons frame inner ih =>
      have hsame : (inner ++ s').length = (inner ++ s).length := by
        rw [List.length_append, List.length_append, hlength]
      rw [List.cons_append, List.cons_append, slot?, slot?, hsame, ih]

theorem lt_length_of_slot? {s : Scope} {slot : Slot} (h : slot? level name s = some slot) :
    level < s.length := by
  refine Nat.lt_of_not_le fun hlevel => ?_
  rw [slot?_eq_none hlevel] at h
  cases h

end Scope

/-! ### Trying an expression -/

/-- What becomes of a slot while its expression is evaluated again and again, each time with an
outcome of the given kind: failures are counted, the first value is kept. -/
inductive Slot.Tried (outcome : Except Failure Json → Prop) : Slot → Slot → Prop where
  /-- Nothing is evaluated. -/
  | still (s : Slot) : Tried outcome s s
  /-- The expression fails, and is perhaps tried again. -/
  | failed {s s' : Slot} {e : Failure} (hvalue : s.value = none) (he : outcome (.error e))
      (rest : Tried outcome ⟨s.expression, none, s.evaluations + 1⟩ s') : Tried outcome s s'
  /-- The expression has a value. -/
  | settled {s : Slot} {v : Json} (hvalue : s.value = none) (hv : outcome (.ok v)) :
      Tried outcome s ⟨s.expression, some v, s.evaluations + 1⟩

namespace Slot.Tried

variable {outcome : Except Failure Json → Prop} {s s' s'' : Slot}

theorem expression_eq (h : Tried outcome s s') : s'.expression = s.expression := by
  induction h with
  | still s => rfl
  | failed _ _ _ ih => exact ih
  | settled _ _ => rfl

/-- A slot that has its value stays as it is. -/
theorem eq_of_value (h : Tried outcome s s') {v : Json} (hv : s.value = some v) : s' = s := by
  cases h with
  | still => rfl
  | failed hvalue _ _ =>
      rw [hv] at hvalue
      cases hvalue
  | settled hvalue _ =>
      rw [hv] at hvalue
      cases hvalue

theorem trans (h : Tried outcome s s') (h' : Tried outcome s' s'') : Tried outcome s s'' := by
  induction h with
  | still s => exact h'
  | failed hvalue he _ ih => exact .failed hvalue he (ih h')
  | settled hvalue hv =>
      rw [h'.eq_of_value rfl]
      exact .settled hvalue hv

theorem evaluations_lt (h : Tried outcome s s') : s' = s ∨ s.evaluations < s'.evaluations := by
  induction h with
  | still s => exact .inl rfl
  | failed _ _ _ ih =>
      rcases ih with rfl | ih
      · exact .inr (Nat.lt_succ_self _)
      · exact .inr (Nat.lt_of_succ_lt ih)
  | settled _ _ => exact .inr (Nat.lt_succ_self _)

/-- The outcomes of the evaluations, one after the other: all but the last are failures, and the
value of the last, if it has one, is kept. -/
theorem attempts (h : Tried outcome s s') (hvalue : s.value = none) :
    ∃ attempts : List (Except Failure Json),
      s' = ⟨s.expression, attempts.getLast?.bind Except.toOption,
        s.evaluations + attempts.length⟩ ∧
      (∀ a ∈ attempts, outcome a) ∧ ∀ a ∈ attempts.dropLast, ∃ e, a = .error e := by
  induction h with
  | still s =>
      refine ⟨[], ?_, by simp, by simp⟩
      cases s
      cases hvalue
      rfl
  | @failed s s' e _ he _ ih =>
      obtain ⟨rest, hs', hall, hfailed⟩ := ih rfl
      refine ⟨.error e :: rest, ?_, ?_, ?_⟩
      · rw [hs']
        cases rest with
        | nil => rfl
        | cons a rest =>
            rw [List.getLast?_cons_cons]
            simp only [List.length_cons]
            congr 1
            omega
      · simpa using ⟨he, hall⟩
      · cases rest with
        | nil => simp
        | cons a rest =>
            rw [List.dropLast_cons_cons]
            simpa using hfailed
  | @settled s v _ hv => exact ⟨[.ok v], rfl, by simpa using hv, by simp⟩

end Slot.Tried

/-! ### Watching references -/

/-- A binding and the slot it ends with.  Its frame is told by the names in the frames outside. -/
structure Watch where
  /-- The names that the frames outside bind. -/
  outside : List (List String)
  /-- The name of the binding. -/
  name : String
  /-- The slot of the binding at the end of its node. -/
  final : Slot

/-- What references may see of a binding that ends with this slot: as a value only the one that is
kept, and failures only if some evaluation failed. -/
def Slot.Shows (final : Slot) : Option (Except Failure (Option Json)) → Prop
  | some (.ok v) => v = final.value
  | some (.error _) => final.value = none ∨ 1 < final.evaluations
  | none => True

open Classical in
/-- The value of the nearest binding of a name, which breaks off if it is the binding watched and
what is seen is not shown by it.  Expressions bound in frames inside that of the binding may refer
to it and are watched as well; those bound further outside may not. -/
noncomputable def Watch.reference (b : Watch) (plain watched : Evaluator Failure) (name : String) :
    Run Failure (Option Json) := fun w =>
  match Scope.find? w.scope name with
  | none => (some (.ok none), w)
  | some p =>
    if b.outside.length < p.outer.length then watched.reference name w
    else if p.outer.length = b.outside.length ∧ name = b.name ∧
        ¬ b.final.Shows (plain.reference name w).1 then
      (none, w)
    else plain.reference name w

/-- The binding is in scope, with the given slot. -/
structure Watch.Has (b : Watch) (w : World) (s : Slot) : Prop where
  slot : Scope.slot? b.outside.length b.name w.scope = some s
  expression : s.expression = b.final.expression
  outside : b.outside <:+ w.names

/-- A computation that only tries the expression of the binding, and that the second one follows as
long as the slot can still become the final one. -/
structure Run.Watched (b : Watch) (outcome : Except Failure Json → Prop) {ε α : Type}
    (m m' : Run ε α) : Prop where
  keeps : m.KeepsNames
  follows : ∀ {w s a w'}, b.Has w s → m w = (some a, w') →
    ∃ s', b.Has w' s' ∧ Slot.Tried outcome s s' ∧
      (Slot.Tried outcome s' b.final → m' w = (some a, w'))

section Has

variable {b : Watch} {w w' : World} {s : Slot}

theorem Watch.Has.level_lt (h : b.Has w s) : b.outside.length < w.scope.length :=
  Scope.lt_length_of_slot? h.slot

theorem Watch.Has.of_scope_eq (h : b.Has w s) (hscope : w'.scope = w.scope) : b.Has w' s where
  slot := by rw [hscope, h.slot]
  expression := h.expression
  outside := by rw [World.names, hscope]; exact h.outside

theorem Watch.Has.enter (h : b.Has w s) (frame : Frame) : b.Has (w.enter frame) s := by
  unfold World.enter
  split
  · exact h
  · exact ⟨(Scope.slot?_append [frame] h.level_lt).trans h.slot, h.expression,
      h.outside.trans (List.suffix_cons _ _)⟩

theorem Watch.Has.leave (h : b.Has w' s) {frame : Frame} (hlevel : b.outside.length < w.scope.length)
    (hnames : w'.names = (w.enter frame).names) (houtside : b.outside <:+ w.names) :
    b.Has (w'.leave frame) s where
  slot := by
    unfold World.leave World.enter at *
    split at hnames
    · next hf =>
      rw [if_pos hf]
      exact h.slot
    · next hf =>
      rw [if_neg hf, ← h.slot]
      cases hscope : w'.scope with
      | nil => simp [World.names, hscope] at hnames
      | cons inside outer =>
          have hlength : outer.length = w.scope.length := by
            simpa [World.names, hscope] using congrArg List.length hnames
          exact (Scope.slot?_append [inside] (hlength ▸ hlevel)).symm
  expression := h.expression
  outside := by rw [World.names_leave_enter w frame hnames]; exact houtside

end Has

namespace Run.Watched

variable {ε ε' α β : Type} {b : Watch} {outcome : Except Failure Json → Prop}

/-- A computation that leaves the scope alone and is followed anyway. -/
theorem of_scope_eq {m : Run ε α} (hscope : ∀ w, (m w).2.scope = w.scope) :
    Run.Watched b outcome m m where
  keeps w := by rw [World.names, hscope, World.names]
  follows {w s a w'} hw h := by
    have hscope' := hscope w
    rw [h] at hscope'
    exact ⟨s, hw.of_scope_eq hscope', .still s, fun _ => h⟩

theorem andThen {m m' : Run ε α} {f f' : α → Run ε β} (hm : m.Watched b outcome m')
    (hf : ∀ a, (f a).Watched b outcome (f' a)) :
    (Run.andThen m f).Watched b outcome (Run.andThen m' f') where
  keeps := hm.keeps.andThen fun a => (hf a).keeps
  follows {w s a w'} hw h := by
    obtain ⟨e, h₁, rfl⟩ | ⟨a₁, w₁, h₁, h₂⟩ := andThen_finished h
    · obtain ⟨s', hw', htried, hsame⟩ := hm.follows hw h₁
      exact ⟨s', hw', htried, fun hfinal => andThen_of_error (hsame hfinal)⟩
    · obtain ⟨s₁, hw₁, htried₁, hsame₁⟩ := hm.follows hw h₁
      obtain ⟨s', hw', htried₂, hsame₂⟩ := (hf a₁).follows hw₁ h₂
      refine ⟨s', hw', htried₁.trans htried₂, fun hfinal => ?_⟩
      rw [andThen_of_ok (hsame₁ (htried₂.trans hfinal)), hsame₂ hfinal]

theorem attempt {m m' : Run ε α} (hm : m.Watched b outcome m') :
    (Run.attempt m : Run ε' (Except ε α)).Watched b outcome (Run.attempt m') where
  keeps := hm.keeps
  follows {w s a w'} hw h := by
    obtain ⟨o, ho, rfl⟩ := attempt_finished h
    obtain ⟨s', hw', htried, hsame⟩ := hm.follows hw ho
    exact ⟨s', hw', htried, fun hfinal => attempt_of_finished (hsame hfinal)⟩

theorem mapFailure (g : ε → ε') {m m' : Run ε α} (hm : m.Watched b outcome m') :
    (Run.mapFailure g m).Watched b outcome (Run.mapFailure g m') where
  keeps := hm.keeps
  follows {w s a w'} hw h := by
    rcases ho : m w with ⟨_ | o, w₁⟩ <;> rw [mapFailure_apply, ho] at h <;> cases h
    obtain ⟨s', hw', htried, hsame⟩ := hm.follows hw ho
    refine ⟨s', hw', htried, fun hfinal => ?_⟩
    rw [mapFailure_apply, hsame hfinal]
    rfl

theorem withFrame (frame : Frame) {m m' : Run ε α} (hm : m.Watched b outcome m') :
    (Run.withFrame frame m).Watched b outcome (Run.withFrame frame m') where
  keeps := hm.keeps.withFrame frame
  follows {w s a w'} hw h := by
    obtain ⟨w₁, h₁, rfl⟩ := Run.eq_of_withFrame h
    obtain ⟨s', hw', htried, hsame⟩ := hm.follows (hw.enter frame) h₁
    have hnames : w₁.names = (w.enter frame).names := by
      rw [← hm.keeps (w.enter frame), h₁]
    exact ⟨s', hw'.leave hw.level_lt hnames hw.outside, htried,
      fun hfinal => Run.withFrame_of_eq (hsame hfinal)⟩

theorem cached (key : String) {m m' : Run OperatorFault Json} (hm : m.Watched b outcome m') :
    (Asking.cached key m).Watched b outcome (Asking.cached key m') where
  keeps := hm.keeps.cached key
  follows {w s a w'} hw h := by
    unfold Asking.cached at h ⊢
    cases hhit : w.cache.hit? key with
    | some hit =>
        rw [hhit] at h
        cases h
        exact ⟨s, hw.of_scope_eq rfl, .still s, fun _ => rfl⟩
    | none =>
        rw [hhit] at h
        rcases hrun : m w with ⟨_ | o, w₁⟩ <;> rw [hrun] at h <;> cases h
        obtain ⟨s', hw', htried, hsame⟩ := hm.follows hw hrun
        refine ⟨s', hw'.of_scope_eq rfl, htried, fun hfinal => ?_⟩
        dsimp only
        rw [hsame hfinal]

/-- All computations that look no binding up only try the expression and run the same watched. -/
theorem compositional (env : Env) (b : Watch) (outcome : Except Failure Json → Prop) :
    Run.Compositional env (Run.Watched b outcome) where
  ofExcept _ := of_scope_eq fun _ => rfl
  andThen := andThen
  attempt := attempt
  mapFailure := mapFailure
  withFrame := withFrame
  cached key _ _ _ := cached key
  call _ _ _ _ := of_scope_eq fun _ => rfl
  http _ _ _ := of_scope_eq fun _ => rfl
  sql _ _ _ := of_scope_eq fun _ => rfl

end Run.Watched

/-! ### References -/

namespace Evaluator

variable {ε : Type} {ev : Evaluator ε} {w : World} {name : String} {p : Place}

theorem reference_of_place_value (hfind : Scope.find? w.scope name = some p) {v : Json}
    (hv : p.slot.value = some v) : ev.reference name w = (some (.ok (some v)), w) := by
  simp only [reference, hfind, hv]

theorem reference_of_place (hfind : Scope.find? w.scope name = some p) (hv : p.slot.value = none)
    {o : Option (Except ε Json)} {w₁ : World}
    (hev : ev p.slot.expression { w with scope := p.outer } = (o, w₁)) :
    ev.reference name w = (o.map (·.map some),
      { w₁ with scope := p.close name (Run.valueOf? o) w₁.scope }) := by
  simp only [reference, hfind, hv, hev]

end Evaluator

section Places

variable {b : Watch} {w u : World} {s : Slot} {inner : List Frame}

/-- What holds in the scope outside some frames holds in the scope inside them. -/
theorem Watch.Has.inside (h : b.Has u s) (hscope : w.scope = inner ++ u.scope) : b.Has w s where
  slot := by rw [hscope, Scope.slot?_append inner h.level_lt, h.slot]
  expression := h.expression
  outside := by
    rw [World.names, hscope, List.map_append]
    exact h.outside.trans (List.suffix_append _ _)

/-- A binding further outside is in scope outside some frames as well. -/
theorem Watch.Has.outer (h : b.Has w s) (hscope : w.scope = inner ++ u.scope)
    (hlevel : b.outside.length < u.scope.length) : b.Has u s where
  slot := by rw [← h.slot, hscope, Scope.slot?_append inner hlevel]
  expression := h.expression
  outside := by
    have hu : u.names <:+ w.names := by
      rw [World.names, World.names, hscope, List.map_append]
      exact List.suffix_append _ _
    refine List.suffix_of_suffix_length_le h.outside hu ?_
    rw [World.names, List.length_map]
    exact Nat.le_of_lt hlevel

/-- The frames outside a binding bind the names that tell it. -/
theorem Watch.Has.names_eq (h : b.Has w s) (hscope : w.scope = inner ++ u.scope)
    (hlevel : u.scope.length = b.outside.length) : u.names = b.outside := by
  have hu : u.names <:+ w.names := by
    rw [World.names, World.names, hscope, List.map_append]
    exact List.suffix_append _ _
  have hlength : b.outside.length = u.names.length := by
    rw [World.names, List.length_map, hlevel]
  exact ((List.suffix_of_suffix_length_le h.outside hu (Nat.le_of_eq hlength)).eq_of_length hlength).symm

end Places

namespace Watch

variable {b : Watch} {plain watched : Evaluator Failure} {name : String} {w : World} {p : Place}

theorem reference_inside (hfind : Scope.find? w.scope name = some p)
    (hlevel : b.outside.length < p.outer.length) :
    b.reference plain watched name w = watched.reference name w := by
  simp only [reference, hfind, hlevel, if_true]

/-- A reference that sees what it should is the plain one. -/
theorem reference_of_shows (hfind : Scope.find? w.scope name = some p)
    (hlevel : ¬ b.outside.length < p.outer.length)
    (hshows : p.outer.length = b.outside.length → name = b.name →
      b.final.Shows (plain.reference name w).1) :
    b.reference plain watched name w = plain.reference name w := by
  simp only [reference, hfind, hlevel, if_false]
  refine if_neg ?_
  rintro ⟨hhere, hname, hnot⟩
  exact hnot (hshows hhere hname)

end Watch

/-- A value that a slot ends with after an evaluation is the one that is kept, and a failure is not
the only outcome unless nothing is kept. -/
theorem Slot.Tried.shows {outcome : Except Failure Json → Prop} {expression : Json} {n : Nat}
    {final : Slot} {o : Except Failure Json}
    (h : Slot.Tried outcome ⟨expression, o.toOption, n + 1⟩ final) :
    final.Shows (some (o.map some)) := by
  cases o with
  | ok v =>
      rw [h.eq_of_value rfl]
      rfl
  | error e =>
      rcases h.evaluations_lt with rfl | hlt
      · exact .inl rfl
      · exact .inr (Nat.lt_of_le_of_lt (Nat.succ_le_succ (Nat.zero_le n)) hlt)

namespace Run.Watched

variable {b : Watch} {outcome : Except Failure Json → Prop} {plain watched : Evaluator Failure}

section Reference

variable {name : String} {w : World} {s : Slot} {p : Place}

/-- The slot of the binding watched, where a reference is found in its frame. -/
theorem get?_of_here (hw : b.Has w s) (hfind : Scope.find? w.scope name = some p)
    (hhere : p.outer.length = b.outside.length) : Dict.get? p.frame b.name = some s := by
  obtain ⟨hscope, -⟩ := Scope.find?_eq_some hfind
  rw [← hw.slot, hscope, Scope.slot?_append p.inner (by simp [hhere]), Scope.slot?_here hhere]

theorem slot_of_here (hw : b.Has w s) (hfind : Scope.find? w.scope name = some p)
    (hhere : p.outer.length = b.outside.length) (hname : name = b.name) : p.slot = s := by
  have hget := (Scope.find?_eq_some hfind).2
  rw [hname, get?_of_here hw hfind hhere] at hget
  exact (Option.some.inj hget).symm

/-- A reference that finds a value. -/
theorem reference_known (hw : b.Has w s) (hfind : Scope.find? w.scope name = some p) {v : Json}
    (hv : p.slot.value = some v) (hfinal : Slot.Tried outcome s b.final) :
    b.reference plain watched name w = (some (.ok (some v)), w) := by
  by_cases hlevel : b.outside.length < p.outer.length
  · rw [Watch.reference_inside hfind hlevel]
    exact Evaluator.reference_of_place_value hfind hv
  · have hplain : plain.reference name w = (some (.ok (some v)), w) :=
      Evaluator.reference_of_place_value hfind hv
    rw [Watch.reference_of_shows hfind hlevel, hplain]
    intro hhere hname
    have hslot := slot_of_here hw hfind hhere hname
    rw [hplain, hfinal.eq_of_value (hslot ▸ hv), ← hslot]
    exact hv.symm

variable {o : Except Failure Json} {w₁ : World}

/-- A reference to a name bound inside the frame of the binding evaluates an expression that may
refer to the binding. -/
theorem reference_inner (hwatched : ∀ v, (plain v).Watched b outcome (watched v)) (hw : b.Has w s)
    (hfind : Scope.find? w.scope name = some p) (hv : p.slot.value = none)
    (hrun : plain p.slot.expression { w with scope := p.outer } = (some o, w₁))
    (hinner : b.outside.length < p.outer.length) :
    ∃ s', b.Has { w₁ with scope := p.close name o.toOption w₁.scope } s' ∧
      Slot.Tried outcome s s' ∧ (Slot.Tried outcome s' b.final →
        b.reference plain watched name w =
          (some (o.map some), { w₁ with scope := p.close name o.toOption w₁.scope })) := by
  obtain ⟨hscope, -⟩ := Scope.find?_eq_some hfind
  have hframes : w.scope = (p.inner ++ [p.frame]) ++ p.outer := by simp [hscope]
  have hu : b.Has { w with scope := p.outer } s := hw.outer hframes hinner
  obtain ⟨s', hw₁, htried, hsame⟩ := (hwatched p.slot.expression).follows hu hrun
  have hclosed : p.close name o.toOption w₁.scope = (p.inner ++ [Dict.insert p.frame name
      ⟨p.slot.expression, o.toOption, p.slot.evaluations + 1⟩]) ++ w₁.scope := by
    simp [Place.close]
  refine ⟨s', hw₁.inside hclosed, htried, fun hfinal => ?_⟩
  rw [Watch.reference_inside hfind hinner, Evaluator.reference_of_place hfind hv (hsame hfinal)]
  cases o <;> rfl

/-- A reference to a name bound in the frame of the binding or further outside evaluates an
expression that cannot refer to the binding. -/
theorem reference_outer (hkeeps : ∀ v, (plain v).KeepsNames)
    (htried : ∀ {u a u'}, u.names = b.outside → plain b.final.expression u = (some a, u') → outcome a)
    (hw : b.Has w s) (hfind : Scope.find? w.scope name = some p) (hv : p.slot.value = none)
    (hrun : plain p.slot.expression { w with scope := p.outer } = (some o, w₁))
    (hinner : ¬ b.outside.length < p.outer.length) :
    ∃ s', Scope.slot? b.outside.length b.name (p.close name o.toOption w₁.scope) = some s' ∧
      Slot.Tried outcome s s' ∧ (p.outer.length = b.outside.length → name = b.name →
        s' = ⟨s.expression, o.toOption, s.evaluations + 1⟩) := by
  obtain ⟨hscope, -⟩ := Scope.find?_eq_some hfind
  have hlength : w₁.scope.length = p.outer.length := by
    have hnames := hkeeps p.slot.expression { w with scope := p.outer }
    rw [hrun] at hnames
    simpa [World.names] using congrArg List.length hnames
  by_cases hhere : p.outer.length = b.outside.length
  · have hget := get?_of_here hw hfind hhere
    have hclosed : Scope.slot? b.outside.length b.name (p.close name o.toOption w₁.scope) =
        Dict.get? (Dict.insert p.frame name
          ⟨p.slot.expression, o.toOption, p.slot.evaluations + 1⟩) b.name := by
      rw [Place.close, Scope.slot?_append p.inner (by simp [hlength, hhere]),
        Scope.slot?_here (hlength.trans hhere)]
    by_cases hname : name = b.name
    · have hslot := slot_of_here hw hfind hhere hname
      refine ⟨⟨s.expression, o.toOption, s.evaluations + 1⟩, ?_, ?_, fun _ _ => rfl⟩
      · rw [hclosed, hname, Dict.get?_insert_self, hslot]
      · have hframes : w.scope = (p.inner ++ [p.frame]) ++ p.outer := by simp [hscope]
        have hexpression : p.slot.expression = b.final.expression := by rw [hslot, hw.expression]
        have ho : outcome o :=
          htried (hw.names_eq (u := { w with scope := p.outer }) hframes hhere) (hexpression ▸ hrun)
        cases o with
        | ok v => exact .settled (hslot ▸ hv) ho
        | error e => exact .failed (hslot ▸ hv) ho (.still _)
    · refine ⟨s, ?_, .still s, fun _ h => absurd h hname⟩
      rw [hclosed, Dict.get?_insert_of_ne _ _ (Ne.symm hname), hget]
  · refine ⟨s, ?_, .still s, fun h => absurd h hhere⟩
    rw [← hw.slot, hscope, Place.close]
    exact Scope.slot?_append_congr p.inner (by simp [hlength]) (by simp; omega)

end Reference

/-- References only try the expression of the binding watched and see what they should. -/
theorem reference (hwatched : ∀ v, (plain v).Watched b outcome (watched v))
    (htried : ∀ {u a u'}, u.names = b.outside → plain b.final.expression u = (some a, u') → outcome a)
    (name : String) :
    (plain.reference name).Watched b outcome (b.reference plain watched name) where
  keeps := KeepsNames.reference name fun v => (hwatched v).keeps
  follows {w s a w'} hw h := by
    have hkeeps : ∀ v, (plain v).KeepsNames := fun v => (hwatched v).keeps
    cases hfind : Scope.find? w.scope name with
    | none =>
        have hplain : plain.reference name w = (some (.ok none), w) := by
          simp only [Evaluator.reference, hfind]
        rw [hplain] at h
        cases h
        exact ⟨s, hw, .still s, fun _ => by simp only [Watch.reference, hfind]⟩
    | some p =>
        cases hv : p.slot.value with
        | some v =>
            rw [Evaluator.reference_of_place_value hfind hv] at h
            cases h
            exact ⟨s, hw, .still s, fun hfinal => reference_known hw hfind hv hfinal⟩
        | none =>
            rcases hrun : plain p.slot.expression { w with scope := p.outer } with ⟨_ | o, w₁⟩
            · rw [Evaluator.reference_of_place hfind hv hrun] at h
              cases h
            · have hplain : plain.reference name w =
                  (some (o.map some), { w₁ with scope := p.close name o.toOption w₁.scope }) := by
                rw [Evaluator.reference_of_place hfind hv hrun]
                cases o <;> rfl
              have hnames := KeepsNames.reference name hkeeps w
              rw [hplain] at h hnames
              cases h
              by_cases hinner : b.outside.length < p.outer.length
              · exact reference_inner hwatched hw hfind hv hrun hinner
              · obtain ⟨s', hslot, htries, hhere⟩ :=
                  reference_outer hkeeps htried hw hfind hv hrun hinner
                refine ⟨s', ⟨hslot, htries.expression_eq.trans hw.expression, ?_⟩, htries,
                  fun hfinal => ?_⟩
                · rw [hnames]
                  exact hw.outside
                · rw [Watch.reference_of_shows hfind hinner, hplain]
                  intro hlevel hname
                  rw [hplain]
                  rw [hhere hlevel hname] at hfinal
                  exact hfinal.shows

end Run.Watched

end JsonExpr
