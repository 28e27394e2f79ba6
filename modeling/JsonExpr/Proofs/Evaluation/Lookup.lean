import JsonExpr.Proofs.Evaluation.Scope

/-!
# Bindings that are never looked up

A binding counts how often its expression was evaluated, and the count never goes down.  As long as
it does not go up either, the expression has no influence: a computation does the same in two worlds
that differ in nothing but this expression, and leaves two such worlds behind.  A value that was
kept for the binding may well be read; it takes the place of the expression.

The frame of a binding is told by its level, the number of frames outside it, which does not change
while frames come and go inside.

Main definitions:

* `JsonExpr.Scope.lookups` — how often the expression of a binding was evaluated;
* `JsonExpr.Scope.AgreeOff`, `JsonExpr.World.AgreeOff` — scopes and worlds that differ at most in
  the expression of a binding;
* `JsonExpr.Run.Overlooks` — a computation on which the expression has no influence unless it is
  looked up.

Main results:

* `JsonExpr.Run.Overlooks.congruence` — the ways of building computations overlook expressions that
  are not looked up;
* `JsonExpr.Run.withFrame_eq_of_overlooks` — **a binding that is never looked up inside its node has
  no influence on the node**.
-/

set_option autoImplicit false

namespace JsonExpr

/-! ### The count of a binding -/

/-- How often the binding of a frame was evaluated. -/
def Frame.lookups (name : String) (frame : Frame) : Nat :=
  ((Dict.get? frame name).map (·.evaluations)).getD 0

/-- How often the binding of a name was evaluated, in the frame with `level` frames outside it. -/
def Scope.lookups (level : Nat) (name : String) : Scope → Nat
  | [] => 0
  | frame :: outer =>
    if outer.length = level then Frame.lookups name frame else Scope.lookups level name outer

theorem Scope.lookups_here {level : Nat} {name : String} {frame : Frame} {outer : Scope}
    (h : outer.length = level) :
    Scope.lookups level name (frame :: outer) = Frame.lookups name frame := by
  simp only [Scope.lookups, h, if_true]

/-- Frames inside the one that is counted do not matter. -/
theorem Scope.lookups_inner {level : Nat} {name : String} {frame : Frame} {outer : Scope}
    (h : level < outer.length) :
    Scope.lookups level name (frame :: outer) = Scope.lookups level name outer := by
  simp only [Scope.lookups, Nat.ne_of_gt h, if_false]

/-- An evaluation is counted for the name that it is made for. -/
theorem Frame.lookups_insert {frame : Frame} {n : String} {slot : Slot}
    (hget : Dict.get? frame n = some slot) (name : String) (kept : Option Json) :
    Frame.lookups name (Dict.insert frame n ⟨slot.expression, kept, slot.evaluations + 1⟩) =
      Frame.lookups name frame + if name = n then 1 else 0 := by
  unfold Frame.lookups
  by_cases hn : name = n
  · subst hn
    rw [Dict.get?_insert_self, hget, if_pos rfl]
    rfl
  · rw [Dict.get?_insert_of_ne frame _ hn, if_neg hn]
    rfl

/-- Counts of a scope go up with those of its innermost frame and of the others. -/
theorem Scope.lookups_le_cons {level : Nat} {name : String} {frame frame' : Frame}
    {outer outer' : Scope} (hlength : outer'.length = outer.length)
    (hl : level < (frame :: outer).length)
    (hframe : Frame.lookups name frame ≤ Frame.lookups name frame')
    (houter : level < outer.length →
      Scope.lookups level name outer ≤ Scope.lookups level name outer') :
    Scope.lookups level name (frame :: outer) ≤ Scope.lookups level name (frame' :: outer') := by
  by_cases hinner : level < outer.length
  · rw [Scope.lookups_inner hinner, Scope.lookups_inner (hlength.symm ▸ hinner)]
    exact houter hinner
  · have hlevel : outer.length = level := by
      rw [List.length_cons] at hl
      omega
    rw [Scope.lookups_here hlevel, Scope.lookups_here (hlength.trans hlevel)]
    exact hframe

/-! ### Differing in one expression -/

/-- Frames that differ at most in the expression bound to a name. -/
def Frame.AgreeOff (name : String) : Frame → Frame → Prop :=
  Dict.Related fun key slot slot' => slot = slot' ∨
    key = name ∧ slot.value = slot'.value ∧ slot.evaluations = slot'.evaluations

/-- Scopes that differ at most there, in the frame with `level` frames outside it. -/
inductive Scope.AgreeOff (level : Nat) (name : String) : Scope → Scope → Prop where
  /-- The frame itself. -/
  | here {frame frame' : Frame} {outer : Scope} (hlevel : outer.length = level)
      (h : Frame.AgreeOff name frame frame') :
      Scope.AgreeOff level name (frame :: outer) (frame' :: outer)
  /-- A frame inside it. -/
  | inner (frame : Frame) {outer outer' : Scope} (h : Scope.AgreeOff level name outer outer') :
      Scope.AgreeOff level name (frame :: outer) (frame :: outer')

/-- Worlds that differ at most there. -/
structure World.AgreeOff (level : Nat) (name : String) (w w' : World) : Prop where
  scope : Scope.AgreeOff level name w.scope w'.scope
  cache : w'.cache = w.cache
  history : w'.history = w.history

section Agree

variable {level : Nat} {name : String}

theorem Frame.AgreeOff.get?_eq {frame frame' : Frame} (h : Frame.AgreeOff name frame frame')
    {key : String} (hkey : key ≠ name) : Dict.get? frame' key = Dict.get? frame key := by
  rcases Dict.Related.get? h key with ⟨h₁, h₂⟩ | ⟨a, b, h₁, h₂, rfl | ⟨rfl, -⟩⟩
  · rw [h₁, h₂]
  · rw [h₁, h₂]
  · exact absurd rfl hkey

theorem Scope.AgreeOff.level_lt {s s' : Scope} (h : Scope.AgreeOff level name s s') :
    level < s.length := by
  induction h with
  | here hlevel _ => simp [hlevel]
  | inner frame _ ih => exact Nat.lt_succ_of_lt ih

theorem Scope.AgreeOff.lookups_inner {s s' : Scope} (h : Scope.AgreeOff level name s s')
    (frame : Frame) : Scope.lookups level name (frame :: s) = Scope.lookups level name s :=
  Scope.lookups_inner h.level_lt

theorem Scope.AgreeOff.tail {s s' : Scope} (h : Scope.AgreeOff level name s s')
    (hl : level + 1 < s.length) : Scope.AgreeOff level name s.tail s'.tail := by
  cases h with
  | inner _ h => exact h
  | here hlevel _ => simp [hlevel] at hl

theorem Scope.AgreeOff.tail_eq {s s' : Scope} (h : Scope.AgreeOff level name s s')
    (hl : s.length = level + 1) : s'.tail = s.tail := by
  cases h with
  | here _ _ => rfl
  | inner _ h =>
      have hlt := h.level_lt
      rw [List.length_cons] at hl
      omega

/-! ### Inside a node and after it -/

variable {w w' w₁ w₁' : World} {frame : Frame}

theorem World.lookups_enter (hl : level < w.scope.length) (frame : Frame) :
    Scope.lookups level name (w.enter frame).scope = Scope.lookups level name w.scope := by
  unfold World.enter
  split
  · rfl
  · exact Scope.lookups_inner hl

theorem World.length_enter (w : World) (frame : Frame) :
    w.scope.length ≤ (w.enter frame).scope.length := by
  unfold World.enter
  split
  · exact Nat.le_refl _
  · exact Nat.le_succ _

theorem World.lookups_leave (hl : level < w.scope.length)
    (hlength : w₁.scope.length = (w.enter frame).scope.length) :
    Scope.lookups level name (w₁.leave frame).scope = Scope.lookups level name w₁.scope := by
  unfold World.leave World.enter at *
  split at hlength
  · next hf => rw [if_pos hf]
  · next hf =>
    rw [if_neg hf]
    cases hs : w₁.scope with
    | nil => simp [hs] at hlength
    | cons inside outer =>
        rw [hs, List.length_cons, List.length_cons, Nat.succ.injEq] at hlength
        exact (Scope.lookups_inner (hlength ▸ hl)).symm

theorem World.AgreeOff.enter (h : World.AgreeOff level name w w') (frame : Frame) :
    World.AgreeOff level name (w.enter frame) (w'.enter frame) := by
  unfold World.enter
  split
  · exact h
  · exact ⟨.inner frame h.scope, h.cache, h.history⟩

theorem World.AgreeOff.leave (h : World.AgreeOff level name w₁ w₁') (hl : level < w.scope.length)
    (hlength : w₁.scope.length = (w.enter frame).scope.length) :
    World.AgreeOff level name (w₁.leave frame) (w₁'.leave frame) := by
  unfold World.leave World.enter at *
  split at hlength
  · next hf =>
    rw [if_pos hf, if_pos hf]
    exact h
  · next hf =>
    rw [if_neg hf, if_neg hf]
    refine ⟨h.scope.tail ?_, h.cache, h.history⟩
    rw [hlength, List.length_cons]
    exact Nat.succ_lt_succ hl

end Agree

/-! ### References frame by frame -/

namespace Evaluator

variable {ε : Type} {ev : Evaluator ε} {name : String} {frame : Frame} {outer : Scope}
  {cache : ResultCache} {history : History}

/-- A name that a frame does not bind is looked up outside it. -/
theorem reference_of_get?_none (h : Dict.get? frame name = none) :
    ev.reference name ⟨frame :: outer, cache, history⟩ =
      ((ev.reference name ⟨outer, cache, history⟩).1,
        { (ev.reference name ⟨outer, cache, history⟩).2 with
          scope := frame :: (ev.reference name ⟨outer, cache, history⟩).2.scope }) := by
  have hfind : Scope.find? (frame :: outer) name =
      (Scope.find? outer name).map fun p => { p with inner := frame :: p.inner } := by
    rw [Scope.find?, h]
  simp only [reference, hfind]
  cases Scope.find? outer name with
  | none => rfl
  | some p =>
      simp only [Option.map_some]
      cases p.slot.value with
      | none => rfl
      | some v => rfl

/-- A name that a frame binds to a known value has this value. -/
theorem reference_of_value {slot : Slot} {v : Json} (h : Dict.get? frame name = some slot)
    (hv : slot.value = some v) :
    ev.reference name ⟨frame :: outer, cache, history⟩ =
      (some (.ok (some v)), ⟨frame :: outer, cache, history⟩) := by
  simp only [reference, Scope.find?, h, hv]

/-- A name that a frame binds to an expression has the value of the expression outside the frame. -/
theorem reference_of_expression {slot : Slot} (h : Dict.get? frame name = some slot)
    (hv : slot.value = none) :
    ev.reference name ⟨frame :: outer, cache, history⟩ =
      ((ev slot.expression ⟨outer, cache, history⟩).1.map (·.map some),
        { (ev slot.expression ⟨outer, cache, history⟩).2 with
          scope := Dict.insert frame name ⟨slot.expression,
              Run.valueOf? (ev slot.expression ⟨outer, cache, history⟩).1, slot.evaluations + 1⟩ ::
            (ev slot.expression ⟨outer, cache, history⟩).2.scope }) := by
  simp only [reference, Scope.find?, h, hv]
  rfl

end Evaluator

/-! ### Computations that look nothing up -/

theorem Run.KeepsNames.length_eq {ε α : Type} {m : Run ε α} (h : m.KeepsNames) (w : World) :
    (m w).2.scope.length = w.scope.length := by
  simpa only [World.names, List.length_map] using congrArg List.length (h w)

/-- A computation that keeps the names in scope, does not count the lookups of a binding down, and
does the same whatever the expression of the binding is, unless it counts them up. -/
structure Run.Overlooks {ε α : Type} (level : Nat) (name : String) (m : Run ε α) : Prop where
  keeps : m.KeepsNames
  counts : ∀ w, level < w.scope.length →
    Scope.lookups level name w.scope ≤ Scope.lookups level name (m w).2.scope
  same : ∀ w w', World.AgreeOff level name w w' →
    Scope.lookups level name (m w).2.scope = Scope.lookups level name w.scope →
    (m w').1 = (m w).1 ∧ World.AgreeOff level name (m w).2 (m w').2

namespace Run.Overlooks

variable {ε ε' α β : Type} {level : Nat} {name : String}

/-- A computation that leaves the scope alone and does not look at it. -/
theorem of_scope_eq {m : Run ε α} (hscope : ∀ w, (m w).2.scope = w.scope)
    (hsame : ∀ w w', w'.cache = w.cache → w'.history = w.history → (m w').1 = (m w).1 ∧
      (m w').2.cache = (m w).2.cache ∧ (m w').2.history = (m w).2.history) :
    m.Overlooks level name where
  keeps w := by rw [World.names, hscope, World.names]
  counts w _ := Nat.le_of_eq (by rw [hscope])
  same w w' hw _ := by
    obtain ⟨houtcome, hcache, hhistory⟩ := hsame w w' hw.cache hw.history
    refine ⟨houtcome, ⟨?_, hcache, hhistory⟩⟩
    rw [hscope, hscope]
    exact hw.scope

theorem andThen {m : Run ε α} {f : α → Run ε β} (hm : m.Overlooks level name)
    (hf : ∀ a, (f a).Overlooks level name) : (Run.andThen m f).Overlooks level name where
  keeps := hm.keeps.andThen fun a => (hf a).keeps
  counts w hl := by
    have hfirst := hm.counts w hl
    have hlength := hm.keeps.length_eq w
    rcases h : m w with ⟨_ | e | a, w₁⟩ <;> rw [h] at hfirst hlength
    · rw [andThen_of_exhausted h]
      exact hfirst
    · rw [andThen_of_error h]
      exact hfirst
    · rw [andThen_of_ok h]
      exact Nat.le_trans hfirst ((hf a).counts w₁ (hlength ▸ hl))
  same w w' hw heq := by
    have hl := hw.scope.level_lt
    have hfirst := hm.counts w hl
    have hlength := hm.keeps.length_eq w
    have hsame := hm.same w w' hw
    rcases h : m w with ⟨_ | e | a, w₁⟩ <;> rw [h] at hfirst hlength hsame <;>
      dsimp only at hfirst hlength hsame
    -- A first part that does not come to a value is all there is, in both worlds.
    · rw [andThen_of_exhausted h] at heq ⊢
      obtain ⟨houtcome, hw₁⟩ := hsame heq
      have h' : m w' = (none, (m w').2) := Prod.ext houtcome rfl
      rw [andThen_of_exhausted h']
      exact ⟨rfl, hw₁⟩
    · rw [andThen_of_error h] at heq ⊢
      obtain ⟨houtcome, hw₁⟩ := hsame heq
      have h' : m w' = (some (.error e), (m w').2) := Prod.ext houtcome rfl
      rw [andThen_of_error h']
      exact ⟨rfl, hw₁⟩
    · rw [andThen_of_ok h] at heq ⊢
      -- The count goes up in neither part, since it does not in both together.
      have hsecond := (hf a).counts w₁ (hlength ▸ hl)
      obtain ⟨houtcome, hw₁⟩ := hsame (by omega)
      have h' : m w' = (some (.ok a), (m w').2) := Prod.ext houtcome rfl
      rw [andThen_of_ok h']
      exact (hf a).same w₁ _ hw₁ (by omega)

theorem withFrame (frame : Frame) {m : Run ε α} (hm : m.Overlooks level name) :
    (Run.withFrame frame m).Overlooks level name where
  keeps := hm.keeps.withFrame frame
  counts w hl := by
    have hinside := Nat.lt_of_lt_of_le hl (w.length_enter frame)
    rw [Run.withFrame_apply, World.lookups_leave hl (hm.keeps.length_eq _),
      ← World.lookups_enter hl frame]
    exact hm.counts _ hinside
  same w w' hw heq := by
    have hl := hw.scope.level_lt
    have hlength := hm.keeps.length_eq (w.enter frame)
    rw [Run.withFrame_apply, World.lookups_leave hl hlength, ← World.lookups_enter hl frame] at heq
    obtain ⟨houtcome, hafter⟩ := hm.same _ _ (hw.enter frame) heq
    exact ⟨houtcome, hafter.leave hl hlength⟩

/-! ### References -/

section Reference

variable {ev : Evaluator ε} (n : String)

theorem counts_reference (h : ∀ v, (ev v).Overlooks level name) (s : Scope) (cache : ResultCache)
    (history : History) (hl : level < s.length) :
    Scope.lookups level name s ≤
      Scope.lookups level name (ev.reference n ⟨s, cache, history⟩).2.scope := by
  induction s with
  | nil => simp at hl
  | cons frame outer ih =>
      cases hget : Dict.get? frame n with
      | none =>
          rw [Evaluator.reference_of_get?_none hget]
          exact Scope.lookups_le_cons ((KeepsNames.reference n fun v => (h v).keeps).length_eq _) hl
            (Nat.le_refl _) ih
      | some slot =>
          cases hv : slot.value with
          | some v =>
              exact Nat.le_of_eq (by rw [Evaluator.reference_of_value hget hv])
          | none =>
              rw [Evaluator.reference_of_expression hget hv]
              refine Scope.lookups_le_cons ((h slot.expression).keeps.length_eq _) hl ?_
                ((h slot.expression).counts ⟨outer, cache, history⟩)
              rw [Frame.lookups_insert hget]
              exact Nat.le_add_right _ _

theorem same_reference (h : ∀ v, (ev v).Overlooks level name) {s s' : Scope}
    (hs : Scope.AgreeOff level name s s') (cache : ResultCache) (history : History)
    (heq : Scope.lookups level name (ev.reference n ⟨s, cache, history⟩).2.scope =
      Scope.lookups level name s) :
    (ev.reference n ⟨s', cache, history⟩).1 = (ev.reference n ⟨s, cache, history⟩).1 ∧
      World.AgreeOff level name (ev.reference n ⟨s, cache, history⟩).2
        (ev.reference n ⟨s', cache, history⟩).2 := by
  induction hs with
  | @here frame frame' outer hlevel hf =>
      rcases Dict.Related.get? hf n with ⟨hget, hget'⟩ | ⟨slot, slot', hget, hget', hslot⟩
      · have hkept := (KeepsNames.reference n fun v => (h v).keeps).length_eq ⟨outer, cache, history⟩
        rw [Evaluator.reference_of_get?_none hget, Evaluator.reference_of_get?_none hget']
        exact ⟨rfl, .here (hkept.trans hlevel) hf, rfl, rfl⟩
      · have hvalue : slot'.value = slot.value := by
          rcases hslot with rfl | ⟨-, hvalue, -⟩
          · rfl
          · exact hvalue.symm
        cases hv : slot.value with
        | some v =>
            rw [Evaluator.reference_of_value hget hv,
              Evaluator.reference_of_value hget' (hvalue.trans hv)]
            exact ⟨rfl, .here hlevel hf, rfl, rfl⟩
        | none =>
            have hkept := (h slot.expression).keeps.length_eq ⟨outer, cache, history⟩
            rw [Evaluator.reference_of_expression hget hv, Scope.lookups_here hlevel,
              Scope.lookups_here (hkept.trans hlevel), Frame.lookups_insert hget] at heq
            -- The name is another one, since the count did not go up.
            have hn : name ≠ n := by
              intro hn
              rw [if_pos hn] at heq
              omega
            rcases hslot with rfl | ⟨hn', -⟩
            · rw [Evaluator.reference_of_expression hget hv,
                Evaluator.reference_of_expression hget' hv]
              exact ⟨rfl, .here (hkept.trans hlevel) (Dict.Related.insert hf (.inl rfl)), rfl, rfl⟩
            · exact absurd hn'.symm hn
  | @inner frame outer outer' hs ih =>
      have hl := hs.level_lt
      cases hget : Dict.get? frame n with
      | none =>
          have hkept := (KeepsNames.reference n fun v => (h v).keeps).length_eq
            ⟨outer, cache, history⟩
          rw [Evaluator.reference_of_get?_none hget, Scope.lookups_inner hl,
            Scope.lookups_inner (hkept.symm ▸ hl)] at heq
          obtain ⟨houtcome, hafter⟩ := ih heq
          rw [Evaluator.reference_of_get?_none hget, Evaluator.reference_of_get?_none hget]
          exact ⟨houtcome, .inner frame hafter.scope, hafter.cache, hafter.history⟩
      | some slot =>
          cases hv : slot.value with
          | some v =>
              rw [Evaluator.reference_of_value hget hv, Evaluator.reference_of_value hget hv]
              exact ⟨rfl, .inner frame hs, rfl, rfl⟩
          | none =>
              have hkept := (h slot.expression).keeps.length_eq ⟨outer, cache, history⟩
              rw [Evaluator.reference_of_expression hget hv, Scope.lookups_inner hl,
                Scope.lookups_inner (hkept.symm ▸ hl)] at heq
              obtain ⟨houtcome, hafter⟩ := (h slot.expression).same ⟨outer, cache, history⟩
                ⟨outer', cache, history⟩ ⟨hs, rfl, rfl⟩ heq
              rw [Evaluator.reference_of_expression hget hv,
                Evaluator.reference_of_expression hget hv, houtcome]
              exact ⟨rfl, .inner _ hafter.scope, hafter.cache, hafter.history⟩

theorem reference (h : ∀ v, (ev v).Overlooks level name) :
    (ev.reference n).Overlooks level name where
  keeps := KeepsNames.reference n fun v => (h v).keeps
  counts w hl := counts_reference n h w.scope w.cache w.history hl
  same w w' hw heq := by
    have hw' : w' = ⟨w'.scope, w.cache, w.history⟩ := by rw [← hw.cache, ← hw.history]
    rw [hw']
    exact same_reference n h hw.scope w.cache w.history heq

end Reference

theorem cached (key : String) {m : Run OperatorFault Json} (hm : m.Overlooks level name) :
    (Asking.cached key m).Overlooks level name where
  keeps := hm.keeps.cached key
  counts w hl := by
    unfold Asking.cached
    split
    · exact Nat.le_refl _
    · have hcounts := hm.counts w hl
      rcases h : m w with ⟨_ | outcome, w₁⟩ <;> rw [h] at hcounts <;> exact hcounts
  same w w' hw heq := by
    unfold Asking.cached at heq ⊢
    rw [hw.cache]
    cases hhit : w.cache.hit? key with
    | some hit => exact ⟨rfl, hw.scope, rfl, hw.history⟩
    | none =>
        rw [hhit] at heq
        have hsame := hm.same w w' hw
        rcases h : m w with ⟨_ | outcome, w₁⟩ <;> rw [h] at hsame heq <;>
          obtain ⟨houtcome, hafter⟩ := hsame heq
        · have h' : m w' = (none, (m w').2) := Prod.ext houtcome rfl
          dsimp only
          rw [h']
          exact ⟨rfl, hafter⟩
        · have h' : m w' = (some outcome, (m w').2) := Prod.ext houtcome rfl
          dsimp only
          rw [h']
          exact ⟨rfl, hafter.scope, congrArg (·.settle key outcome) hafter.cache, hafter.history⟩

/-- The ways of building computations overlook expressions that are not looked up. -/
theorem congruence (env : Env) (level : Nat) (name : String) :
    Run.Congruence env (fun m _ => m.Overlooks level name) where
  ofExcept _ := of_scope_eq (fun _ => rfl) fun _ _ hc hh => ⟨rfl, hc, hh⟩
  andThen := andThen
  attempt hm := ⟨hm.keeps, hm.counts, fun w w' hw heq => by
    obtain ⟨houtcome, hafter⟩ := hm.same w w' hw heq
    exact ⟨congrArg (Option.map Except.ok) houtcome, hafter⟩⟩
  mapFailure g _ _ hm := ⟨hm.keeps, hm.counts, fun w w' hw heq => by
    obtain ⟨houtcome, hafter⟩ := hm.same w w' hw heq
    exact ⟨congrArg (Option.map (Except.mapError g)) houtcome, hafter⟩⟩
  withFrame frame _ _ hm := withFrame frame hm
  reference n h := reference n h
  cached key _ _ _ hm := cached key hm
  call _ f path args := of_scope_eq (fun _ => rfl) fun _ _ hc hh => by
    simp only [HostFunction.ask, hc, hh, and_self]
  http _ c request := of_scope_eq (fun _ => rfl) fun _ _ hc hh => by
    simp only [HttpClient.ask, hc, hh, and_self]
  sql _ c query := of_scope_eq (fun _ => rfl) fun _ _ hc hh => by
    simp only [SqlConnection.ask, hc, hh, and_self]

end Run.Overlooks

/-- Evaluation overlooks expressions that are not looked up. -/
theorem eval_overlooks (env : Env) (level : Nat) (name : String) (depth : Nat) (v : Json) :
    (eval env depth v).Overlooks level name :=
  (Run.Overlooks.congruence env level name).eval
    (Run.Overlooks.of_scope_eq (fun _ => rfl) fun _ _ hc hh => ⟨rfl, hc, hh⟩) depth v

/-- **A binding that is never looked up inside its node has no influence on the node.** -/
theorem Run.withFrame_eq_of_overlooks {ε α : Type} {m : Run ε α} {name : String} {w : World}
    (hm : m.Overlooks w.scope.length name) {frame frame' : Frame}
    (hframe : Frame.AgreeOff name frame frame') (hfresh : Frame.lookups name frame = 0)
    (hnever : Scope.lookups w.scope.length name (m (w.enter frame)).2.scope = 0) :
    Run.withFrame frame' m w = Run.withFrame frame m w := by
  by_cases hf : frame.isEmpty = true
  -- A node without bindings has no frame in which anything could differ.
  · rw [List.isEmpty_iff] at hf
    subst hf
    cases hframe
    rfl
  · have hf' : ¬ frame'.isEmpty = true := by
      cases hframe with
      | nil => exact hf
      | cons _ _ => simp
    have hinside : World.AgreeOff w.scope.length name (w.enter frame) (w.enter frame') := by
      simp only [World.enter, hf, hf']
      exact ⟨.here rfl hframe, rfl, rfl⟩
    have hcount : Scope.lookups w.scope.length name (w.enter frame).scope = 0 := by
      simp only [World.enter, hf]
      exact (Scope.lookups_here rfl).trans hfresh
    obtain ⟨houtcome, hafter⟩ := hm.same _ _ hinside (hnever.trans hcount.symm)
    have henter : (w.enter frame).scope.length = w.scope.length + 1 := by
      simp only [World.enter, hf]
      rfl
    have hlength := (hm.keeps.length_eq (w.enter frame)).trans henter
    rw [Run.withFrame_apply, Run.withFrame_apply, houtcome]
    simp only [World.leave, hf, hf', hafter.cache, hafter.history, hafter.scope.tail_eq hlength]
    rfl

end JsonExpr
