import JsonExpr.Proofs.Shorthand.CallStrings

/-!
# The operand of an invocation

An operator that is invoked with an array has the elements for operands, and invoked with anything
else but an object it should have that for its one operand.  But the shape of the operand is looked
at when it is expanded already.  A call string is an object by then, and the properties of its node
are laid over those of the invocation: the operator of the call takes the place of the one that was
invoked, and the name of a fragment comes to stand beside it.

Every other operand keeps its shape, and so does a call string that is the only element of an array.

Main definitions:

* `JsonExpr.Shorthand.operandsOf` — the operands that a value stands for.

Main results:

* `JsonExpr.Shorthand.preprocess_invocation` — an invocation is the node of its operator, with the
  expanded operand for parameters;
* `JsonExpr.Shorthand.operator_is_kept_iff_its_operand_is_no_call` — **an invoked operator is kept,
  with all operands, exactly if its operand is not a call string with a known name**.
-/

set_option autoImplicit false

namespace JsonExpr.Shorthand

variable {names : Names} {name : String} {k : OperatorKind}

/-! ### Nodes of invocations -/

/-- The elements of an array, or else the value itself, with shorthand expanded. -/
def operandsOf (names : Names) : Json → List Json
  | .array items => items.map (preprocess names)
  | v => [preprocess names v]

/-- The node of an operator with operands by position. -/
def operatorNode (k : OperatorKind) (operands : List Json) : Json :=
  .object [(Key.operator, .string k.name), (Key.children, .array operands)]

/-- The invocation of an operator is its node, with the expanded operand for parameters. -/
theorem preprocess_invocation (hk : names.registry.resolve? name = some k) (v : Json) :
    preprocess names (.object [("$" ++ name, v)]) =
      .object (Names.operatorFields k (readParameters names v)) := by
  have hknown : names.knows name = true := by
    rw [Names.knows, hk]
    rfl
  have hbuild := (Invokes.known hknown).build?_readParameters (v := v)
  rw [Names.build?, hk] at hbuild
  exact (Option.some.inj hbuild).symm

/-- Other than a call string, an operand that is no object does not become one. -/
theorem preprocess_invocation_of_no_call (hk : names.registry.resolve? name = some k) {v : Json}
    (hleaf : v.asObject? = none)
    (hno : ∀ s, v = .string s → ¬ ∃ call text, Calls names s call text) :
    preprocess names (.object [("$" ++ name, v)]) = operatorNode k (operandsOf names v) := by
  rw [preprocess_invocation hk, readParameters_eq_preprocess hleaf]
  cases v with
  | object fields => cases hleaf
  | array items =>
      rw [preprocess_array]
      rfl
  | string s =>
      have hself := preprocess_of_no_call (hno s rfl)
      have hoperand : operandsOf names (.string s) = [.string s] := congrArg ([·]) hself
      rw [hself, hoperand]
      rfl
  | _ => rfl

/-! ### Call strings as operands -/

/-- If the operand is the call of an operator, that operator takes the place of the invoked one. -/
theorem Calls.preprocess_invocation_of_operator {s call : String} {text : List Char}
    {inner : OperatorKind} (h : Calls names s call text)
    (hk : names.registry.resolve? name = some k)
    (hinner : names.registry.resolve? call = some inner) :
    preprocess names (.object [("$" ++ name, .string s)]) = preprocess names (.string s) ∧
      preprocess names (.string s) = operatorNode inner
        ((splitArguments text).map fun a => preprocess names (readArgument a)) := by
  have hbuild := h.build?_eq
  rw [Names.build?, hinner] at hbuild
  have hnode := (Option.some.inj hbuild).symm
  refine ⟨?_, hnode⟩
  rw [preprocess_invocation hk, readParameters_eq_preprocess rfl, hnode]
  rfl

/-- If the operand is the call of a fragment, its name comes to stand beside the operator. -/
theorem Calls.preprocess_invocation_of_fragment {s call : String} {text : List Char}
    (h : Calls names s call text) (hk : names.registry.resolve? name = some k)
    (hnone : names.registry.resolve? call = none) :
    preprocess names (.object [("$" ++ name, .string s)]) =
      .object [(Key.operator, .string k.name), (Key.fragment, .string call)] := by
  have hfragment : names.hasFragment call = true := by
    have hknown := h.known
    rwa [Names.knows, hnone, Option.isSome_none, Bool.false_or] at hknown
  have hbuild := h.build?_eq
  rw [Names.build?, hnone, hfragment] at hbuild
  rw [preprocess_invocation hk, readParameters_eq_preprocess rfl, ← Option.some.inj hbuild]
  rfl

/-- Nodes with the same operands only. -/
theorem operands_eq_of_operatorNode_eq {inner : OperatorKind} {operands others : List Json}
    (h : operatorNode k operands = operatorNode inner others) : operands = others := by
  simp only [operatorNode, Json.object.injEq, List.cons.injEq, Prod.mk.injEq,
    Json.array.injEq] at h
  exact h.2.1.2

/-- A node is not its own operand. -/
theorem ne_singleton_operatorNode (operands : List Json) :
    operands ≠ [operatorNode k operands] := by
  intro h
  have hsize := congrArg sizeOf h
  simp only [operatorNode, List.cons.sizeOf_spec, List.nil.sizeOf_spec, Json.object.sizeOf_spec,
    Json.array.sizeOf_spec, Prod.mk.sizeOf_spec] at hsize
  omega

/-- A call string with a known name is not kept as an operand. -/
theorem Calls.preprocess_invocation_ne {s call : String} {text : List Char}
    (h : Calls names s call text) (hk : names.registry.resolve? name = some k) :
    preprocess names (.object [("$" ++ name, .string s)]) ≠
      operatorNode k (operandsOf names (.string s)) := by
  intro hkept
  cases hinner : names.registry.resolve? call with
  | some inner =>
      obtain ⟨hlost, hnode⟩ := h.preprocess_invocation_of_operator hk hinner
      have hoperand : operandsOf names (.string s) = [preprocess names (.string s)] := rfl
      rw [hlost, hoperand, hnode] at hkept
      exact ne_singleton_operatorNode _ (operands_eq_of_operatorNode_eq hkept)
  | none =>
      rw [h.preprocess_invocation_of_fragment hk hinner] at hkept
      simp [operatorNode, Key.fragment, Key.children] at hkept

/-! ### Operators and operands -/

/-- **An invoked operator is kept, with all operands, exactly if its operand is not a call string
with a known name.**  If it is, the operator of the call takes the place of the invoked one, and the
name of a fragment comes to stand beside it, without the arguments of the call. -/
theorem operator_is_kept_iff_its_operand_is_no_call (hk : names.registry.resolve? name = some k)
    {v : Json} (hleaf : v.asObject? = none) :
    (preprocess names (.object [("$" ++ name, v)]) = operatorNode k (operandsOf names v) ↔
      ∀ s, v = .string s → ¬ ∃ call text, Calls names s call text) ∧
    (∀ s call text, v = .string s → Calls names s call text →
      (∀ inner, names.registry.resolve? call = some inner →
        preprocess names (.object [("$" ++ name, v)]) = operatorNode inner
          ((splitArguments text).map fun a => preprocess names (readArgument a))) ∧
      (names.registry.resolve? call = none →
        preprocess names (.object [("$" ++ name, v)]) =
          .object [(Key.operator, .string k.name), (Key.fragment, .string call)])) := by
  refine ⟨⟨?_, preprocess_invocation_of_no_call hk hleaf⟩, ?_⟩
  · rintro hkept s rfl ⟨call, text, hcalls⟩
    exact hcalls.preprocess_invocation_ne hk hkept
  · rintro s call text rfl hcalls
    refine ⟨fun inner hinner => ?_, hcalls.preprocess_invocation_of_fragment hk⟩
    obtain ⟨hlost, hnode⟩ := hcalls.preprocess_invocation_of_operator hk hinner
    exact hlost.trans hnode

theorem resolve?_operatorNames_count : operatorNames.registry.resolve? "count" = some .count :=
  Registry.resolve?_full ⟨"count", by decide, rfl⟩

/-- A plain string is the one operand of the operator that is invoked with it. -/
theorem plain_string_is_an_operand :
    preprocess operatorNames (.object [("$count", .string "$plus")]) =
      .object [("operator", .string "COUNT"), ("children", .array [.string "$plus"])] := by
  have hnone : callOf? "$plus" = none := rfl
  obtain ⟨hkept, -⟩ := operator_is_kept_iff_its_operand_is_no_call resolve?_operatorNames_count
    (v := .string "$plus") rfl
  refine hkept.mpr ?_
  rintro s heq ⟨call, text, hcalls⟩
  cases heq
  have hsome := hcalls.callOf?_eq
  rw [hnone] at hsome
  cases hsome

/-- An operator that is invoked with a call string is lost, and one that is invoked with an array of
that call string is kept. -/
theorem count_of_a_sum_is_the_sum :
    let v : Json := .string "$plus(1, 2)"
    let sum : Json := .object [("operator", .string "PLUS"), ("children", .array [.int 1, .int 2])]
    operatorNames.registry.resolve? "count" = some .count ∧ v.asObject? = none ∧
      preprocess operatorNames (.object [("$count", v)]) = sum ∧
      preprocess operatorNames (.object [("$count", v)]) ≠
        operatorNode .count (operandsOf operatorNames v) ∧
      preprocess operatorNames (.object [("$count", .array [v])]) = operatorNode .count [sum] := by
  intro v sum
  have hcalls : Calls operatorNames "$plus(1, 2)" "plus" "1, 2".toList :=
    .of_call? rfl rfl knows_plus
  have hcount := resolve?_operatorNames_count
  obtain ⟨hlost, hnode⟩ :=
    hcalls.preprocess_invocation_of_operator hcount resolve?_operatorNames_plus
  have hsum : preprocess operatorNames v = sum := hnode
  have hne := hcalls.preprocess_invocation_ne hcount
  have hkept := preprocess_invocation_of_no_call hcount (v := .array [v]) rfl
    fun s heq => nomatch heq
  refine ⟨hcount, rfl, hlost.trans hsum, hne, hkept.trans ?_⟩
  exact congrArg (fun operand => operatorNode .count [operand]) hsum

end JsonExpr.Shorthand
