import JsonExpr.Evaluation.Basic
import JsonExpr.Proofs.TypeCheck

/-!
# Absent operands

The type of a parameter that may be left out is widened, so that an absent operand is of it too.
Nothing else is added: a value that is there is of the wider type only if it is of the declared one.
A type that names absence is left as it is.  Names are only looked for among the members of a union
itself, so a union may be widened that accepts absence already, by a union among its members; it
names absence then, and this does not happen twice.

Main definitions:

* `JsonExpr.ExpectedType.NamesAbsence` — types that name absence.

Main results:

* `JsonExpr.ExpectedType.hasType_orUndefined_iff` — what is of a wider type;
* `JsonExpr.ExpectedType.orUndefined_orUndefined` — a type is widened once;
* `JsonExpr.Env.checkOperands_eq_ok_iff` — operands pass if each is of its declared type, or absent
  and not required;
* `JsonExpr.optional_parameters_may_be_absent` — **of an optional parameter, absence is accepted and
  nothing else that is not declared**.
-/

set_option autoImplicit false

namespace JsonExpr

/-! ### Wider types -/

namespace ExpectedType

variable {t : ExpectedType} {v : Option Json}

/-- A type that is the one of absent values, or has it as a member. -/
def NamesAbsence : ExpectedType → Prop
  | basic kind => kind = .undefined
  | literal _ => False
  | union members => basic .undefined ∈ members

theorem isUndefined_iff : t.isUndefined = true ↔ t = basic .undefined := by
  cases t with
  | basic kind => cases kind <;> simp [isUndefined]
  | literal members => simp [isUndefined]
  | union members => simp [isUndefined]

theorem any_isUndefined_iff {members : List ExpectedType} :
    members.any isUndefined = true ↔ (union members).NamesAbsence := by
  simp [NamesAbsence, List.any_eq_true, isUndefined_iff]

theorem namesAbsence_orUndefined (t : ExpectedType) : t.orUndefined.NamesAbsence := by
  cases t with
  | basic kind => cases kind <;> simp [orUndefined, isUndefined, NamesAbsence]
  | literal members => simp [orUndefined, isUndefined, NamesAbsence]
  | union members =>
      rw [orUndefined]
      split
      · next h => exact any_isUndefined_iff.mp h
      · exact List.mem_append_right members List.mem_cons_self

/-- A type that names absence is left as it is. -/
theorem orUndefined_of_namesAbsence (h : t.NamesAbsence) : t.orUndefined = t := by
  cases t with
  | basic kind =>
      obtain rfl : kind = .undefined := h
      rfl
  | literal members => exact h.elim
  | union members => rw [orUndefined, if_pos (any_isUndefined_iff.mpr h)]

/-- **A type is widened once.** -/
theorem orUndefined_orUndefined (t : ExpectedType) : t.orUndefined.orUndefined = t.orUndefined :=
  orUndefined_of_namesAbsence t.namesAbsence_orUndefined

theorem NamesAbsence.hasType_none (h : t.NamesAbsence) : HasType none t := by
  cases t with
  | basic kind =>
      obtain rfl : kind = .undefined := h
      exact .absent
  | literal members => exact h.elim
  | union members => exact .member h .absent

theorem hasType_union_iff {members : List ExpectedType} :
    HasType v (union members) ↔ ∃ t ∈ members, HasType v t := by
  constructor
  · intro h
    cases h with
    | @member _ t _ ht h => exact ⟨t, ht, h⟩
  · rintro ⟨t, ht, h⟩
    exact .member ht h

theorem eq_none_of_hasType_undefined (h : HasType v (basic .undefined)) : v = none := by
  cases h
  rfl

/-- Where a type is changed by widening, one member is added to what it was. -/
theorem orUndefined_cases (t : ExpectedType) :
    t.orUndefined = t ∨
      ∃ members, t.orUndefined = union (members ++ [basic .undefined]) ∧
        ∀ v, HasType v (union members) ↔ HasType v t := by
  have halone : ∀ t v, HasType v (union [t]) ↔ HasType v t := by
    simp [hasType_union_iff]
  cases t with
  | basic kind =>
      cases kind with
      | undefined => exact .inl rfl
      | _ => exact .inr ⟨[_], rfl, halone _⟩
  | literal members => exact .inr ⟨[_], rfl, halone _⟩
  | union members =>
      rw [orUndefined]
      split
      · exact .inl rfl
      · exact .inr ⟨members, rfl, fun _ => Iff.rfl⟩

/-- **Absence is of a wider type, and what is of the type, but nothing else.** -/
theorem hasType_orUndefined_iff : HasType v t.orUndefined ↔ v = none ∨ HasType v t := by
  constructor
  · intro h
    obtain heq | ⟨members, heq, hmembers⟩ := t.orUndefined_cases <;> rw [heq] at h
    · exact .inr h
    · obtain ⟨u, hu, h⟩ := hasType_union_iff.mp h
      rcases List.mem_append.mp hu with hu | hu
      · exact .inr ((hmembers v).mp (hasType_union_iff.mpr ⟨u, hu, h⟩))
      · rw [List.mem_singleton.mp hu] at h
        exact .inl (eq_none_of_hasType_undefined h)
  · rintro (rfl | h)
    · exact t.namesAbsence_orUndefined.hasType_none
    · obtain heq | ⟨members, heq, hmembers⟩ := t.orUndefined_cases <;> rw [heq]
      · exact h
      · obtain ⟨u, hu, h⟩ := hasType_union_iff.mp ((hmembers v).mpr h)
        exact hasType_union_iff.mpr ⟨u, List.mem_append_left _ hu, h⟩

/-- A union that accepts absence without naming it is widened. -/
example : (union [union [basic .undefined]]).orUndefined =
    union [union [basic .undefined], basic .undefined] := rfl

end ExpectedType

/-! ### Parameters -/

/-- A parameter is checked against its declared type, or may be absent if it is not required. -/
theorem ParamSchema.hasType_effectiveType_iff {p : ParamSchema} {v : Option Json} :
    HasType v p.effectiveType ↔ HasType v p.type ∨ v = none ∧ p.required = false := by
  rw [effectiveType]
  cases hrequired : p.required with
  | true => simp
  | false =>
      rw [if_neg Bool.false_ne_true, ExpectedType.hasType_orUndefined_iff, or_comm]
      simp

/-- **Operands pass if each is of its declared type, or absent and not required**, or if checks are
skipped. -/
theorem Env.checkOperands_eq_ok_iff (env : Env) (k : OperatorKind) (operands : Operands) :
    env.checkOperands k operands = .ok () ↔
      env.options.skipsChecks = true ∨
        ∀ name ∈ Dict.keys operands, ∀ p, k.schema.findParam? name = some p →
          HasType (Operands.value? operands p.name) p.type ∨
            Operands.value? operands p.name = none ∧ p.required = false := by
  have hcheck : ∀ items : List TypeCheck.Item,
      (TypeCheck.check items).mapError OperatorFault.typeCheck = .ok () ↔
        ∀ i ∈ items, HasType i.value i.expected := fun items => by
    rw [← TypeCheck.failing_eq_nil_iff, ← TypeCheck.check_eq_ok_iff]
    cases TypeCheck.check items <;> simp [Except.mapError]
  rw [checkOperands, check]
  cases env.options.skipsChecks with
  | true => simp
  | false =>
      rw [if_neg Bool.false_ne_true, hcheck]
      simp only [Bool.false_eq_true, false_or, Operands.checkItems, List.mem_filterMap,
        Option.map_eq_some_iff]
      constructor
      · intro h name hname p hp
        exact ParamSchema.hasType_effectiveType_iff.mp (h _ ⟨name, hname, p, hp, rfl⟩)
      · rintro h _ ⟨name, hname, p, hp, rfl⟩
        exact ParamSchema.hasType_effectiveType_iff.mpr (h name hname p hp)

/-- **Of an optional parameter, absence is accepted and nothing else that is not declared.**  A type
that is widened accepts what it accepted and an absent value, however unions nest in it, and is not
widened again.  So a parameter that is not required is never missed, and accepts of the values that
are there those that its declared type accepts; and the operands of an operator pass if each has its
declared type, or is absent and not required. -/
theorem optional_parameters_may_be_absent :
    (∀ (t : ExpectedType) (v : Option Json),
      t.orUndefined.accepts v = true ↔ v = none ∨ t.accepts v = true) ∧
    (∀ t : ExpectedType, t.orUndefined.orUndefined = t.orUndefined) ∧
    (∀ p : ParamSchema, p.required = false →
      p.effectiveType.accepts none = true ∧
      ∀ v, p.effectiveType.accepts (some v) = true ↔ p.type.accepts (some v) = true) ∧
    ∀ (env : Env) (k : OperatorKind) (operands : Operands),
      env.checkOperands k operands = .ok () ↔
        env.options.skipsChecks = true ∨
          ∀ name ∈ Dict.keys operands, ∀ p, k.schema.findParam? name = some p →
            p.type.accepts (Operands.value? operands p.name) = true ∨
              Operands.value? operands p.name = none ∧ p.required = false := by
  simp only [ExpectedType.accepts_iff]
  refine ⟨fun _ _ => ExpectedType.hasType_orUndefined_iff, ExpectedType.orUndefined_orUndefined,
    fun p hoptional => ⟨?_, fun v => ?_⟩, Env.checkOperands_eq_ok_iff⟩
  · exact ParamSchema.hasType_effectiveType_iff.mpr (.inr ⟨rfl, hoptional⟩)
  · rw [ParamSchema.hasType_effectiveType_iff]
    simp

/-- A parameter with a union in its type that accepts absence already. -/
def ParamSchema.direction : ParamSchema :=
  .optional "direction" (.union [.literal ["up", "down"], .union [.basic .undefined]])
    "Where to round" [] none

/-- It may be absent, and does not accept `null` for that. -/
theorem direction_may_be_absent :
    let p := ParamSchema.direction
    p.required = false ∧ p.effectiveType.accepts none = true ∧
      p.effectiveType.accepts (some (.string "up")) = true ∧
      p.effectiveType.accepts (some .null) = false := by
  intro p
  have hoptional : p.required = false := rfl
  obtain ⟨habsent, hpresent⟩ := optional_parameters_may_be_absent.2.2.1 p hoptional
  refine ⟨hoptional, habsent, (hpresent _).mpr (by decide), ?_⟩
  rw [Bool.eq_false_iff, ne_eq, hpresent]
  decide

end JsonExpr
