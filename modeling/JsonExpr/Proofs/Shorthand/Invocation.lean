import JsonExpr.Proofs.Registry
import JsonExpr.Proofs.Shorthand.Expansion

/-!
# Invocations and the nodes they stand for

An object with a single known key behind a dollar sign stands for the node with the properties of its
value.  The two spellings expand to the same node with one exception.  A node keeps its `parameters`
apart: they declare bindings, so an object of parameters is no shorthand itself.  An invocation
expands the values of its properties before the node is put together, `parameters` like any other.
So the two spellings differ exactly if the parameters *have two readings*: an object that means one
thing as parameters and another as an expression.

Main definitions:

* `JsonExpr.Shorthand.TwoReadings` — the objects that are read differently as parameters and as an
  expression;
* `JsonExpr.Shorthand.SpellsNode` — what an invocation and its node have to do with each other.

Main results:

* `JsonExpr.Shorthand.readParameters_eq_preprocess_iff` — these are all such objects;
* `JsonExpr.Shorthand.invocation_agrees_with_node` — **an invocation expands like the node it stands
  for exactly if its parameters have one reading**.
-/

set_option autoImplicit false

namespace JsonExpr.Shorthand

variable {names : Names}

/-! ### The nodes of names -/

theorem Names.isOperatorNode_operatorFields (k : OperatorKind) (parameters : Json) :
    isOperatorNode (.object (Names.operatorFields k parameters)) = true := by
  rw [isOperatorNode_object]
  cases parameters with
  | object fields =>
      rw [Names.operatorFields, Dict.hasKey_extend]
      simp [Dict.hasKey, Dict.get?]
  | _ => simp [Names.operatorFields, Dict.hasKey, Dict.get?]

theorem Names.isFragmentNode_fragmentFields (name : String) (parameters : Json) :
    isFragmentNode (.object (Names.fragmentFields name parameters)) = true := by
  rw [isFragmentNode_object]
  cases parameters with
  | object fields =>
      rw [Names.fragmentFields, Dict.hasKey_extend]
      simp [Dict.hasKey, Dict.get?]
  | _ => simp [Names.fragmentFields, Dict.hasKey, Dict.get?]

/-- What a name stands for is a node. -/
theorem Names.exists_of_build? {name : String} {parameters node : Json}
    (h : names.build? name parameters = some node) :
    ∃ fields, node = .object fields ∧ isNode (.object fields) = true := by
  unfold Names.build? at h
  split at h
  · next k _ =>
    cases h
    refine ⟨_, rfl, ?_⟩
    rw [isNode, Names.isOperatorNode_operatorFields k parameters, Bool.true_or]
  · split at h
    · cases h
      refine ⟨_, rfl, ?_⟩
      rw [isNode, Names.isFragmentNode_fragmentFields name parameters, Bool.or_true]
    · cases h

/-! ### Two readings -/

/-- Objects that mean one thing as parameters and another as an expression: an invocation, which is
one binding as parameters, and a fragment node whose own parameters have two readings. -/
inductive TwoReadings (names : Names) : Json → Prop where
  | invocation {name : String} {v : Json} {fields : Dict Json} :
      Invokes names name v fields → TwoReadings names (.object fields)
  | fragment {fields : Dict Json} {v : Json} : isFragmentNode (.object fields) = true →
      isOperatorNode (.object fields) = false → (Key.parameters, v) ∈ fields →
      TwoReadings names v → TwoReadings names (.object fields)

theorem TwoReadings.isOperatorNode_eq {v : Json} (h : TwoReadings names v) :
    isOperatorNode v = false := by
  cases h with
  | invocation hinvokes => exact hinvokes.isOperatorNode_eq
  | fragment _ hoperator _ _ => exact hoperator

/-- Only objects have two readings. -/
theorem not_twoReadings_of_leaf {v : Json} (h : v.asObject? = none) : ¬ TwoReadings names v := by
  intro htwo
  cases htwo with
  | invocation _ => cases h
  | fragment _ _ _ _ => cases h

/-- Only in `parameters`, and only if it has two readings, a value is not read as an expression. -/
theorem readProperty_eq_preprocess_iff {key : String} {v : Json}
    (h : isOperatorNode v = false →
      (readParameters names v = preprocess names v ↔ ¬ TwoReadings names v)) :
    readProperty names key v = preprocess names v ↔
      (key = Key.parameters → ¬ TwoReadings names v) := by
  by_cases hkey : key = Key.parameters
  · subst hkey
    cases hoperator : isOperatorNode v with
    | true =>
        rw [readProperty_of_operator hoperator]
        refine ⟨fun _ _ htwo => ?_, fun _ => rfl⟩
        exact Bool.false_ne_true (htwo.isOperatorNode_eq.symm.trans hoperator)
    | false =>
        rw [readProperty_parameters hoperator, h hoperator]
        exact ⟨fun hone _ => hone, fun hone => hone rfl⟩
  · rw [readProperty_of_ne hkey]
    exact ⟨fun _ hand => absurd hand hkey, fun _ => rfl⟩

/-- **The objects with two readings are all that is read differently as parameters and as an
expression**, but for operator nodes, which are never read as parameters. -/
theorem readParameters_eq_preprocess_iff {v : Json} (hoperator : isOperatorNode v = false) :
    readParameters names v = preprocess names v ↔ ¬ TwoReadings names v := by
  induction v using Json.inductionOnParts with
  | object fields ih =>
      rw [readParameters_object]
      cases hfragment : isFragmentNode (.object fields) with
      | true =>
          have hnode : isNode (.object fields) = true := by rw [isNode, hfragment, Bool.or_true]
          rw [preprocess_node hnode, Json.object.injEq, eq_comm,
            Dict.map_eq_map_iff (f := readProperty names) (g := fun _ => preprocess names)]
          constructor
          · intro h htwo
            cases htwo with
            | invocation hinvokes =>
                exact Bool.false_ne_true (hinvokes.isFragmentNode_eq.symm.trans hfragment)
            | fragment _ _ hmem hv =>
                exact (readProperty_eq_preprocess_iff (ih _ hmem)).mp (h _ hmem) rfl hv
          · intro hone e he
            refine (readProperty_eq_preprocess_iff (ih e he)).mpr fun hkey htwo => hone ?_
            exact .fragment hfragment hoperator (hkey ▸ he) htwo
      | false =>
          have hnode : isNode (.object fields) = false := by rw [isNode, hoperator, hfragment]; rfl
          by_cases hinvokes : ∃ name v, Invokes names name v fields
          · obtain ⟨name, v, hinvokes⟩ := hinvokes
            obtain ⟨built, heq, hbuilt⟩ := Names.exists_of_build? hinvokes.build?_readParameters
            refine ⟨fun h => ?_, fun hone => absurd (.invocation hinvokes) hone⟩
            -- The keys stay as they are, so that parameters do not become a node.
            rw [heq, Json.object.injEq] at h
            rw [← h, isNode, isOperatorNode_object, isFragmentNode_object,
              Dict.hasKey_map (fun _ => preprocess names),
              Dict.hasKey_map (fun _ => preprocess names)] at hbuilt
            exact absurd (hnode.symm.trans hbuilt) Bool.false_ne_true
          · simp only [not_exists] at hinvokes
            rw [preprocess_plain hnode hinvokes]
            refine ⟨fun _ htwo => ?_, fun _ => rfl⟩
            cases htwo with
            | invocation h => exact hinvokes _ _ h
            | fragment h _ _ _ => exact Bool.false_ne_true (hfragment.symm.trans h)
  | _ =>
      rw [readParameters_eq_preprocess rfl]
      exact ⟨fun _ => not_twoReadings_of_leaf rfl, fun _ => rfl⟩

/-! ### Two spellings of a node -/

/-- Of entries whose keys occur once, every value reads in one way if the parameters do. -/
theorem map_readProperty_eq_iff {fields : Dict Json} (hnodup : Dict.KeysNodup fields) :
    (fields.map fun e => (e.1, preprocess names e.2)) =
        (fields.map fun e => (e.1, readProperty names e.1 e.2)) ↔
      ∀ v, Dict.get? fields Key.parameters = some v → ¬ TwoReadings names v := by
  rw [eq_comm, Dict.map_eq_map_iff (f := readProperty names) (g := fun _ => preprocess names)]
  constructor
  · intro h v hv
    have hproperty := h _ (Dict.mem_of_get? hv)
    exact (readProperty_eq_preprocess_iff readParameters_eq_preprocess_iff).mp hproperty rfl
  · rintro h ⟨key, v⟩ hmem
    refine (readProperty_eq_preprocess_iff readParameters_eq_preprocess_iff).mpr fun hkey => ?_
    subst hkey
    exact h v (Dict.get?_of_mem hnodup hmem)

/-- Writing entries behind others keeps them apart as far as their keys occur once. -/
theorem extend_map_eq_iff {d fields : Dict Json} (hnodup : Dict.KeysNodup fields)
    {p q : String → Json → Json} :
    Dict.extend d (fields.map fun e => (e.1, p e.1 e.2)) =
        Dict.extend d (fields.map fun e => (e.1, q e.1 e.2)) ↔
      (fields.map fun e => (e.1, p e.1 e.2)) = (fields.map fun e => (e.1, q e.1 e.2)) := by
  refine ⟨fun h => Dict.map_eq_map_iff.mpr ?_, fun h => by rw [h]⟩
  rintro ⟨key, v⟩ hmem
  have hread : ∀ f : String → Json → Json,
      Dict.get? (Dict.extend d (fields.map fun e => (e.1, f e.1 e.2))) key = some (f key v) := by
    intro f
    refine Dict.get?_extend_of_get? (Dict.keysNodup_map f hnodup) ?_
    rw [Dict.get?_map, Dict.get?_of_mem hnodup hmem, Option.map_some]
  exact Option.some.inj (by rw [← hread p, ← hread q, h])

/-- A node with one property in front of others: the properties are read one by one. -/
theorem preprocess_extend {key : String} {v : Json} {fields : Dict Json}
    (hnode : isNode (.object (Dict.extend [(key, v)] fields)) = true)
    (hv : readProperty names key v = v) :
    preprocess names (.object (Dict.extend [(key, v)] fields)) =
      .object (Dict.extend [(key, v)] (fields.map fun e => (e.1, readProperty names e.1 e.2))) := by
  rw [preprocess_node hnode, Dict.map_extend, List.map_singleton, hv]

theorem preprocess_text {s : String} (h : expandString? names s = none) :
    preprocess names (.string s) = .string s := by
  rw [preprocess_string, h]
  rfl

/-- The canonical name of an operator is no call string. -/
theorem expandString?_operatorName (names : Names) (k : OperatorKind) :
    expandString? names k.name = none := by
  have hplain : call? k.name.toList = none := by cases k <;> decide
  rw [expandString?_eq, callOf?, hplain]
  rfl

/-- What the invocation of a name with an object of properties has to do with the node of that name
and these properties; `first` is the property that names the operator or the fragment.  The
invocation reads every property as an expression, and the node reads its `parameters` as parameters.
So they agree exactly if the parameters have one reading. -/
structure SpellsNode (names : Names) (name : String) (first : String × Json) (fields : Dict Json) :
    Prop where
  invocation : preprocess names (.object [("$" ++ name, .object fields)]) =
    .object (Dict.extend [first] (fields.map fun e => (e.1, preprocess names e.2)))
  node : preprocess names (.object (Dict.extend [first] fields)) =
    .object (Dict.extend [first] (fields.map fun e => (e.1, readProperty names e.1 e.2)))
  agree_iff : preprocess names (.object [("$" ++ name, .object fields)]) =
      preprocess names (.object (Dict.extend [first] fields)) ↔
    ∀ v, Dict.get? fields Key.parameters = some v → ¬ TwoReadings names v

/-- A name spells the node that it builds, if that starts with a property that is read as itself. -/
theorem spellsNode_of_build? {name key : String} {v : Json} {fields : Dict Json}
    (hnodup : Dict.KeysNodup fields)
    (hbuild : ∀ fields, names.build? name (.object fields) =
      some (.object (Dict.extend [(key, v)] fields)))
    (hnode : isNode (.object (Dict.extend [(key, v)] fields)) = true)
    (hv : readProperty names key v = v) : SpellsNode names name (key, v) fields := by
  have hknown : names.knows name = true := by
    rw [← names.isSome_build? name (.object fields), hbuild]
    rfl
  have hinvocation : preprocess names (.object [("$" ++ name, .object fields)]) =
      .object (Dict.extend [(key, v)] (fields.map fun e => (e.1, preprocess names e.2))) := by
    have hexpanded := (Invokes.known hknown).build?_readParameters (v := .object fields)
    rw [readParameters_object, hbuild, Option.some.injEq] at hexpanded
    exact hexpanded.symm
  have hlong := preprocess_extend hnode hv
  refine ⟨hinvocation, hlong, ?_⟩
  rw [hinvocation, hlong, Json.object.injEq,
    extend_map_eq_iff (p := fun _ => preprocess names) hnodup, map_readProperty_eq_iff hnodup]

theorem spellsNode_of_operator {name : String} {k : OperatorKind}
    (hk : names.registry.resolve? name = some k) {fields : Dict Json}
    (hnodup : Dict.KeysNodup fields) :
    SpellsNode names name (Key.operator, .string k.name) fields := by
  have hnode := Names.isOperatorNode_operatorFields k (.object fields)
  refine spellsNode_of_build? hnodup (fun fields => by rw [Names.build?, hk]; rfl) ?_ ?_
  · exact Bool.or_eq_true_iff.mpr (.inl hnode)
  · rw [readProperty_of_ne (by decide), preprocess_text (expandString?_operatorName names k)]

theorem spellsNode_of_fragment {name : String} (hoperator : names.registry.resolve? name = none)
    (hfragment : names.hasFragment name = true) (hplain : expandString? names name = none)
    {fields : Dict Json} (hnodup : Dict.KeysNodup fields) :
    SpellsNode names name (Key.fragment, .string name) fields := by
  have hnode := Names.isFragmentNode_fragmentFields name (.object fields)
  refine spellsNode_of_build? hnodup
    (fun fields => by rw [Names.build?, hoperator, hfragment]; rfl) ?_ ?_
  · exact Bool.or_eq_true_iff.mpr (.inr hnode)
  · rw [readProperty_of_ne (by decide), preprocess_text hplain]

/-- **An invocation expands like the node it stands for exactly if its parameters have one
reading.**  The name may be that of an operator, or else that of a fragment, unless it is a call
string itself. -/
theorem invocation_agrees_with_node (names : Names) (name : String) {fields : Dict Json}
    (hnodup : Dict.KeysNodup fields) :
    (∀ k, names.registry.resolve? name = some k →
      SpellsNode names name (Key.operator, .string k.name) fields) ∧
    (names.registry.resolve? name = none → names.hasFragment name = true →
      expandString? names name = none →
      SpellsNode names name (Key.fragment, .string name) fields) :=
  ⟨fun _ hk => spellsNode_of_operator hk hnodup,
    fun hoperator hfragment hplain => spellsNode_of_fragment hoperator hfragment hplain hnodup⟩

/-! ### Bindings and shorthand under `parameters` -/

/-- Every operator and one fragment. -/
def countryNames : Names := ⟨Registry.full, some [("getCountry", .string "NZ")]⟩

theorem resolve?_getCountry : countryNames.registry.resolve? "getCountry" = none := by
  have hname : normalizeName "getCountry" = "getCountry" :=
    Registry.normalizeName_eq_iff.mpr (by decide +kernel)
  have hkind : Registry.kindOf? "getCountry" = none :=
    Registry.kindOf?_eq_none (by rw [hname]; decide)
  rw [Registry.resolve?, hkind]
  rfl

theorem resolve?_code : countryNames.registry.resolve? "code" = none := by
  have hname : normalizeName "code" = "code" :=
    Registry.normalizeName_eq_iff.mpr (by decide +kernel)
  have hkind : Registry.kindOf? "code" = none := Registry.kindOf?_eq_none (by rw [hname]; decide)
  rw [Registry.resolve?, hkind]
  rfl

theorem resolve?_plus : countryNames.registry.resolve? "plus" = some .plus :=
  Registry.resolve?_full ⟨"plus", by decide, rfl⟩

theorem expandString?_getCountry : expandString? countryNames "getCountry" = none := by
  have hplain : call? "getCountry".toList = none := by decide
  rw [expandString?_eq, callOf?, hplain]
  rfl

theorem knows_code : countryNames.knows "code" = false := by
  rw [Names.knows, resolve?_code]
  decide

/-- A binding has one reading, since its name stands for nothing else. -/
theorem binding_has_one_reading (v : Json) :
    ¬ TwoReadings countryNames (.object [("$code", v)]) := by
  intro h
  cases h with
  | invocation hinvokes =>
      have hname : afterSigil? "$code" = some "code" := by decide
      obtain rfl := Option.some.inj (hname.symm.trans hinvokes.of_singleton.1)
      exact Bool.false_ne_true (knows_code.symm.trans hinvokes.knows_eq)
  | fragment hfragment _ _ _ => cases hfragment

/-- Parameters that are bindings stay as they are in an invocation and in its node, whether its name
is that of a fragment or of an operator. -/
theorem bindings_agree :
    let fields : Dict Json := [("values", .string "$plus(N, Z)"),
      ("parameters", .object [("$code", .string "$plus(N, Z)")])]
    Dict.KeysNodup fields ∧
      preprocess countryNames (.object [("$getCountry", .object fields)]) =
        preprocess countryNames (.object (("fragment", .string "getCountry") :: fields)) ∧
      preprocess countryNames (.object [("$plus", .object fields)]) =
        preprocess countryNames (.object (("operator", .string "PLUS") :: fields)) := by
  intro fields
  have hnodup : Dict.KeysNodup fields := by decide
  have hone : ∀ v, Dict.get? fields Key.parameters = some v → ¬ TwoReadings countryNames v := by
    intro v hv
    cases hv
    exact binding_has_one_reading _
  obtain ⟨-, hfragment⟩ := invocation_agrees_with_node countryNames "getCountry" hnodup
  obtain ⟨hoperator, -⟩ := invocation_agrees_with_node countryNames "plus" hnodup
  have hspells := hfragment resolve?_getCountry (by decide) expandString?_getCountry
  exact ⟨hnodup, hspells.agree_iff.mpr hone, (hoperator .plus resolve?_plus).agree_iff.mpr hone⟩

/-- Parameters that are themselves a known name behind a dollar sign are kept by the node of a
fragment and expanded by its invocation. -/
theorem invocation_expands_its_parameters :
    countryNames.registry.resolve? "getCountry" = none ∧
      countryNames.hasFragment "getCountry" = true ∧ call? "getCountry".toList = none ∧
      preprocess countryNames (.object [("$getCountry",
          .object [("parameters", .object [("$plus", .array [.int 1, .int 2])])])]) ≠
        preprocess countryNames (.object [("fragment", .string "getCountry"),
          ("parameters", .object [("$plus", .array [.int 1, .int 2])])]) := by
  have hfragment : countryNames.hasFragment "getCountry" = true := by decide
  have hnodup : Dict.KeysNodup
      ([("parameters", .object [("$plus", .array [.int 1, .int 2])])] : Dict Json) := by decide
  have hspells :=
    spellsNode_of_fragment resolve?_getCountry hfragment expandString?_getCountry hnodup
  refine ⟨resolve?_getCountry, hfragment, by decide, fun hagree => ?_⟩
  have hplus : countryNames.knows "plus" = true := by
    rw [Names.knows, resolve?_plus]
    rfl
  exact hspells.agree_iff.mp hagree _ rfl (.invocation (.known hplus))

end JsonExpr.Shorthand
