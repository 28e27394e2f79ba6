import JsonExpr.Proofs.Shorthand.Invocation

/-!
# Expanding shorthand twice

What is expanded once should have nothing left to expand.  It has nothing left, unless an invocation
in it puts something where it is read in another way than before.  There are two ways to do so: the
`parameters` of an invocation are expanded as an expression and then stand where they are read as
parameters, which matters if they still have two readings; and the name of a fragment becomes a
string, which matters if it is a call string.

The proof follows what is read: a value is *fixed* if it is read as it stands, both as an expression
and as parameters.  A node is fixed if its properties are, and what a name builds from fixed
properties is fixed.  Only in `parameters` the two readings have to be told apart, so the induction
carries what becomes of a value in each of them (`JsonExpr.Shorthand.Settles`).

Main definitions:

* `JsonExpr.Shorthand.Occurs` — what stands in a value, also in the arguments of call strings;
* `JsonExpr.Shorthand.Unstable` — the invocations that put something where it is read differently;
* `JsonExpr.Shorthand.Fixed` — the values that are read as they stand;
* `JsonExpr.Shorthand.Settles` — what becomes of a value when it is read twice.

Main results:

* `JsonExpr.Shorthand.fixed_of_build?` — names build fixed nodes from fixed properties;
* `JsonExpr.Shorthand.SpellsNode.preprocess_twice_ne` — an invocation whose parameters have two
  readings is changed by the second expansion;
* `JsonExpr.Shorthand.preprocess_preprocess` — **expanding twice is expanding once**, where no
  invocation is unstable.
-/

set_option autoImplicit false

namespace JsonExpr.Shorthand

variable {names : Names}

/-! ### What is read as it stands -/

/-- A value that is read as it stands, as an expression and as the parameters of a node. -/
structure Fixed (names : Names) (v : Json) : Prop where
  expression : preprocess names v = v
  parameters : readProperty names Key.parameters v = v

/-- Properties that make a node fixed.  If it names no operator, it may be parameters itself, and
then its properties are read as expressions. -/
structure FixedFields (names : Names) (fields : Dict Json) : Prop where
  properties : ∀ e ∈ fields, readProperty names e.1 e.2 = e.2
  expressions : isOperatorNode (.object fields) = false → ∀ e ∈ fields, preprocess names e.2 = e.2

theorem readProperty_parameters_of_leaf {v : Json} (h : v.asObject? = none) :
    readProperty names Key.parameters v = preprocess names v := by
  have hoperator : isOperatorNode v = false := by cases v <;> first | rfl | cases h
  rw [readProperty_parameters hoperator, readParameters_eq_preprocess h]

theorem Fixed.of_leaf {v : Json} (h : v.asObject? = none) (hv : preprocess names v = v) :
    Fixed names v :=
  ⟨hv, by rw [readProperty_parameters_of_leaf h, hv]⟩

theorem fixed_node_iff {fields : Dict Json} (hnode : isNode (.object fields) = true) :
    Fixed names (.object fields) ↔ FixedFields names fields := by
  have hexpression : preprocess names (.object fields) = .object fields ↔
      ∀ e ∈ fields, readProperty names e.1 e.2 = e.2 := by
    rw [preprocess_node hnode, Json.object.injEq, Dict.map_eq_self_iff (f := readProperty names)]
  have hparameters : isOperatorNode (.object fields) = false →
      (readProperty names Key.parameters (.object fields) = .object fields ↔
        ∀ e ∈ fields, preprocess names e.2 = e.2) := fun hoperator => by
    rw [readProperty_parameters hoperator, readParameters_object, Json.object.injEq,
      Dict.map_eq_self_iff (f := fun _ => preprocess names)]
  constructor
  · intro h
    exact ⟨hexpression.mp h.expression, fun hoperator => (hparameters hoperator).mp h.parameters⟩
  · intro h
    have hself := hexpression.mpr h.properties
    cases hoperator : isOperatorNode (.object fields) with
    | true => exact ⟨hself, by rw [readProperty_of_operator hoperator, hself]⟩
    | false => exact ⟨hself, (hparameters hoperator).mpr (h.expressions hoperator)⟩

/-- Parameters whose values are fixed as expressions are fixed as parameters. -/
theorem readProperty_parameters_of_values {fields : Dict Json}
    (hoperator : isOperatorNode (.object fields) = false)
    (h : ∀ e ∈ fields, preprocess names e.2 = e.2) :
    readProperty names Key.parameters (.object fields) = .object fields := by
  rw [readProperty_parameters hoperator, readParameters_object,
    Dict.map_eq_self_iff (f := fun _ => preprocess names) |>.mpr h]

/-! ### What names build -/

theorem FixedFields.of_ne {fields : Dict Json}
    (h : ∀ e ∈ fields, e.1 ≠ Key.parameters ∧ preprocess names e.2 = e.2) :
    FixedFields names fields where
  properties e he := by rw [readProperty_of_ne (h e he).1, (h e he).2]
  expressions _ e he := (h e he).2

theorem FixedFields.extend {fields : Dict Json} (h : FixedFields names fields) {key : String}
    {v : Json} (hkey : key ≠ Key.parameters) (hv : preprocess names v = v) :
    FixedFields names (Dict.extend [(key, v)] fields) where
  properties e he := by
    rcases Dict.mem_of_mem_extend he with hfirst | hrest
    · rw [List.mem_singleton.mp hfirst, readProperty_of_ne hkey, hv]
    · exact h.properties e hrest
  expressions hoperator e he := by
    rw [isOperatorNode_object, Dict.hasKey_extend, Bool.or_eq_false_iff] at hoperator
    rcases Dict.mem_of_mem_extend he with hfirst | hrest
    · rw [List.mem_singleton.mp hfirst, hv]
    · exact h.expressions hoperator.2 e hrest

theorem preprocess_children {v : Json} (h : preprocess names v = v) :
    preprocess names (.array [v]) = .array [v] := by
  rw [preprocess_array, List.map_singleton, h]

/-- **Names build fixed nodes from fixed properties.** -/
theorem fixed_of_build? {name : String} {parameters node : Json}
    (hleaf : parameters.asObject? = none → preprocess names parameters = parameters)
    (hfields : ∀ fields, parameters = .object fields → FixedFields names fields)
    (hname : names.registry.resolve? name = none → expandString? names name = none)
    (hbuild : names.build? name parameters = some node) : Fixed names node := by
  obtain ⟨built, rfl, hnode⟩ := Names.exists_of_build? hbuild
  rw [fixed_node_iff hnode]
  unfold Names.build? at hbuild
  split at hbuild
  · next k _ =>
    cases hbuild
    have hk := preprocess_text (expandString?_operatorName names k)
    have hfirst : Key.operator ≠ Key.parameters := by decide
    have hsecond : Key.children ≠ Key.parameters := by decide
    cases parameters with
    | object fields => exact (hfields fields rfl).extend hfirst hk
    | array items =>
        refine FixedFields.of_ne (List.forall_mem_cons.mpr ⟨⟨hfirst, hk⟩, ?_⟩)
        exact List.forall_mem_singleton.mpr ⟨hsecond, hleaf rfl⟩
    | _ =>
        refine FixedFields.of_ne (List.forall_mem_cons.mpr ⟨⟨hfirst, hk⟩, ?_⟩)
        exact List.forall_mem_singleton.mpr ⟨hsecond, preprocess_children (hleaf rfl)⟩
  · next hoperator =>
    have htext := preprocess_text (hname hoperator)
    have hfirst : Key.fragment ≠ Key.parameters := by decide
    split at hbuild
    case isFalse => cases hbuild
    cases hbuild
    cases parameters with
    | object fields => exact (hfields fields rfl).extend hfirst htext
    | _ => exact FixedFields.of_ne (List.forall_mem_singleton.mpr ⟨hfirst, htext⟩)

/-! ### Unstable invocations -/

/-- A value that is another one or stands anywhere inside of it, also in the arguments of a call
string whose name is known. -/
inductive Occurs (names : Names) (u : Json) : Json → Prop where
  | self : Occurs names u u
  | item {items : List Json} {v : Json} : v ∈ items → Occurs names u v →
      Occurs names u (.array items)
  | entry {fields : Dict Json} {e : String × Json} : e ∈ fields → Occurs names u e.2 →
      Occurs names u (.object fields)
  | argument {s name : String} {arguments : List Json} {v : Json} :
      callOf? s = some (name, arguments) → names.knows name = true → v ∈ arguments →
      Occurs names u v → Occurs names u (.string s)

/-- Invocations that put something where it is read in another way than before: `parameters` that
still have two readings when they are expanded, or the name of a fragment that is a call string
itself. -/
inductive Unstable (names : Names) : Json → Prop where
  | parameters {name : String} {fields properties : Dict Json} {v : Json} :
      Invokes names name (.object properties) fields → (Key.parameters, v) ∈ properties →
      TwoReadings names (preprocess names v) → Unstable names (.object fields)
  | name {name : String} {v : Json} {fields : Dict Json} : Invokes names name v fields →
      names.registry.resolve? name = none → (expandString? names name).isSome = true →
      Unstable names (.object fields)

/-- Only objects are invocations. -/
theorem not_unstable_of_leaf {v : Json} (h : v.asObject? = none) : ¬ Unstable names v := by
  intro hunstable
  cases hunstable with
  | parameters _ _ _ => cases h
  | name _ _ _ => cases h

/-- No invocation in a value is unstable. -/
def Stable (names : Names) (v : Json) : Prop := ∀ u, Occurs names u v → ¬ Unstable names u

namespace Stable

/-- A string that is no call string. -/
theorem text {s : String} (h : callOf? s = none) : Stable names (.string s) := by
  intro u hu
  cases hu with
  | self => exact not_unstable_of_leaf rfl
  | argument hcall _ _ _ =>
      rw [h] at hcall
      cases hcall

theorem call {s name : String} {arguments : List Json} (h : callOf? s = some (name, arguments))
    (harguments : ∀ v ∈ arguments, Stable names v) : Stable names (.string s) := by
  intro u hu
  cases hu with
  | self => exact not_unstable_of_leaf rfl
  | argument hcall _ hv hu =>
      cases h.symm.trans hcall
      exact harguments _ hv u hu

theorem array {items : List Json} (h : ∀ v ∈ items, Stable names v) :
    Stable names (.array items) := by
  intro u hu
  cases hu with
  | self => exact not_unstable_of_leaf rfl
  | item hv hu => exact h _ hv u hu

theorem object {fields : Dict Json} (hself : ¬ Unstable names (.object fields))
    (h : ∀ e ∈ fields, Stable names e.2) : Stable names (.object fields) := by
  intro u hu
  cases hu with
  | self => exact hself
  | entry he hu => exact h _ he u hu

end Stable

/-! ### What becomes of a value that is read twice -/

/-- What becomes of a value that is read twice, as an expression or as parameters.  For a value that
is no object, it makes no difference how it is read the second time. -/
structure Settles (names : Names) (v : Json) : Prop where
  expression : preprocess names (preprocess names v) = preprocess names v
  property : readProperty names Key.parameters (readProperty names Key.parameters v) =
    readProperty names Key.parameters v
  leaf : v.asObject? = none → Fixed names (preprocess names v)

theorem Settles.of_leaf {v : Json} (h : v.asObject? = none) (hv : Fixed names (preprocess names v)) :
    Settles names v :=
  ⟨hv.expression, by rw [readProperty_parameters_of_leaf h, hv.parameters], fun _ => hv⟩

/-- A value that is read first as an expression and then as parameters. -/
theorem Settles.crossed {v : Json} (h : Settles names v)
    (hone : ¬ TwoReadings names (preprocess names v)) :
    readProperty names Key.parameters (preprocess names v) = preprocess names v := by
  have hsame : readProperty names Key.parameters (preprocess names v) =
      preprocess names (preprocess names v) :=
    (readProperty_eq_preprocess_iff readParameters_eq_preprocess_iff).mpr fun _ => hone
  rw [hsame, h.expression]

/-- A value that is read twice as a property of a node. -/
theorem Settles.property_twice {v : Json} (h : Settles names v) (key : String) :
    readProperty names key (readProperty names key v) = readProperty names key v := by
  by_cases hkey : key = Key.parameters
  · subst hkey
    exact h.property
  · rw [readProperty_of_ne hkey, readProperty_of_ne hkey, h.expression]

theorem preprocess_map_items {items : List Json} (h : ∀ v ∈ items, Settles names v) :
    preprocess names (.array (items.map (preprocess names))) =
      .array (items.map (preprocess names)) := by
  rw [preprocess_array, List.map_map]
  congr 1
  exact List.map_congr_left fun v hv => (h v hv).expression

theorem Settles.array {items : List Json} (h : ∀ v ∈ items, Settles names v) :
    Settles names (.array items) := by
  refine Settles.of_leaf rfl ?_
  rw [preprocess_array]
  exact Fixed.of_leaf rfl (preprocess_map_items h)

/-! ### Call strings -/

/-- A call string settles if its arguments do. -/
theorem Settles.string {s : String} (h : ∀ name arguments, callOf? s = some (name, arguments) →
    names.knows name = true → ∀ v ∈ arguments, Settles names v) : Settles names (.string s) := by
  refine Settles.of_leaf rfl ?_
  rw [preprocess_string]
  cases hexpanded : expandString? names s with
  | none => exact Fixed.of_leaf rfl (preprocess_text hexpanded)
  | some node =>
      rw [expandString?_eq] at hexpanded
      obtain ⟨⟨name, arguments⟩, hcall, hbuild⟩ := Option.bind_eq_some_iff.mp hexpanded
      have hknown : names.knows name = true := by
        rw [← names.isSome_build? name, hbuild]
        rfl
      have hname : expandString? names name = none := by
        rw [expandString?_eq, callOf?_name hcall]
        rfl
      exact fixed_of_build? (fun _ => preprocess_map_items (h name arguments hcall hknown))
        (fun _ hobject => by cases hobject) (fun _ => hname) hbuild

/-! ### Objects -/

section Objects

variable {fields : Dict Json}

theorem isOperatorNode_map (f : String → Json → Json) :
    isOperatorNode (.object (fields.map fun e => (e.1, f e.1 e.2))) =
      isOperatorNode (.object fields) := Dict.hasKey_map f fields _

theorem isNode_map (f : String → Json → Json) :
    isNode (.object (fields.map fun e => (e.1, f e.1 e.2))) = isNode (.object fields) := by
  rw [isNode, isOperatorNode_map, isFragmentNode_object, Dict.hasKey_map f]
  rfl

theorem Invokes.of_map {f : String → Json → Json} {name : String} {v : Json}
    (h : Invokes names name v (fields.map fun e => (e.1, f e.1 e.2))) :
    ∃ w, Invokes names name w fields := by
  generalize hmap : (fields.map fun e => (e.1, f e.1 e.2)) = mapped at h
  cases h with
  | known hknown =>
      obtain ⟨⟨key, w⟩, rfl, he⟩ := List.map_eq_singleton_iff.mp hmap
      cases he
      exact ⟨w, .known hknown⟩

/-- A node is read the same twice, since a node it stays. -/
theorem preprocess_twice_of_node (h : ∀ e ∈ fields, Settles names e.2)
    (hnode : isNode (.object fields) = true) :
    preprocess names (preprocess names (.object fields)) = preprocess names (.object fields) := by
  rw [preprocess_node hnode, preprocess_node ((isNode_map (readProperty names)).trans hnode),
    List.map_map]
  congr 1
  exact List.map_congr_left fun e he => by
    dsimp only [Function.comp_apply]
    rw [(h e he).property_twice]

/-- Values that were read as expressions are fixed as such. -/
theorem preprocess_of_mem_map (h : ∀ e ∈ fields, Settles names e.2) :
    ∀ e ∈ fields.map fun e => (e.1, preprocess names e.2), preprocess names e.2 = e.2 := by
  intro e he
  obtain ⟨e', he', rfl⟩ := List.mem_map.mp he
  exact (h e' he').expression

/-- An object that is no node and stands for none is read the same twice. -/
theorem preprocess_twice_of_plain (h : ∀ e ∈ fields, Settles names e.2)
    (hnode : isNode (.object fields) = false) (hinvokes : ∀ name v, ¬ Invokes names name v fields) :
    preprocess names (preprocess names (.object fields)) = preprocess names (.object fields) := by
  have hstays : ∀ name v,
      ¬ Invokes names name v (fields.map fun e => (e.1, preprocess names e.2)) := by
    intro name v hmapped
    obtain ⟨w, hw⟩ := Invokes.of_map (f := fun _ => preprocess names) hmapped
    exact hinvokes name w hw
  rw [preprocess_plain hnode hinvokes,
    preprocess_plain ((isNode_map fun _ => preprocess names).trans hnode) hstays,
    Dict.map_eq_self_iff (f := fun _ => preprocess names) |>.mpr (preprocess_of_mem_map h)]

/-- What a value that is no object stands for is a node. -/
theorem isNode_of_leaf {v : Json} (h : v.asObject? = none)
    (hv : preprocess names v = .object fields) : isNode (.object fields) = true := by
  cases v with
  | string s =>
      rw [preprocess_string] at hv
      cases hexpanded : expandString? names s with
      | none =>
          rw [hexpanded] at hv
          cases hv
      | some node =>
          rw [hexpanded] at hv
          cases hv
          rw [expandString?_eq] at hexpanded
          obtain ⟨call, -, hbuild⟩ := Option.bind_eq_some_iff.mp hexpanded
          obtain ⟨built, heq, hnode⟩ := Names.exists_of_build? hbuild
          cases heq
          exact hnode
  | object d => cases h
  | array items =>
      rw [preprocess_array] at hv
      cases hv
  | _ => cases hv

/-- The properties of an invocation, each read as an expression, are read as they stand. -/
theorem fixedFields_of_invokes {name : String} {properties : Dict Json}
    (hinvokes : Invokes names name (.object properties) fields)
    (hstable : ¬ Unstable names (.object fields)) (h : ∀ e ∈ properties, Settles names e.2) :
    FixedFields names (properties.map fun e => (e.1, preprocess names e.2)) where
  properties e he := by
    obtain ⟨⟨key, v⟩, hmem, rfl⟩ := List.mem_map.mp he
    dsimp only
    by_cases hkey : key = Key.parameters
    · subst hkey
      exact (h _ hmem).crossed fun htwo => hstable (.parameters hinvokes hmem htwo)
    · rw [readProperty_of_ne hkey, (h _ hmem).expression]
  expressions _ := preprocess_of_mem_map h

/-- An invocation that is not unstable stands for a fixed node. -/
theorem fixed_of_invokes {name : String} {v : Json} (hinvokes : Invokes names name v fields)
    (hstable : ¬ Unstable names (.object fields)) (hv : Settles names v)
    (hinside : ∀ properties, v = .object properties → ∀ e ∈ properties, Settles names e.2) :
    Fixed names (preprocess names (.object fields)) := by
  have hname : names.registry.resolve? name = none → expandString? names name = none := by
    intro hoperator
    rw [← Option.not_isSome_iff_eq_none]
    exact fun hcall => hstable (.name hinvokes hoperator hcall)
  have hbuild := hinvokes.build?_readParameters
  cases hobject : v.asObject? with
  | some properties =>
      obtain rfl : v = .object properties := by
        cases v <;> cases hobject
        rfl
      rw [readParameters_object] at hbuild
      refine fixed_of_build? (fun hleaf => by cases hleaf) (fun read hread => ?_) hname hbuild
      cases hread
      exact fixedFields_of_invokes hinvokes hstable (hinside properties rfl)
  | none =>
      have hfixed := hv.leaf hobject
      rw [readParameters_eq_preprocess hobject] at hbuild
      refine fixed_of_build? (fun _ => hv.expression) (fun read hread => ?_) hname hbuild
      rw [hread] at hfixed
      exact (fixed_node_iff (isNode_of_leaf hobject hread)).mp hfixed

/-- An object settles if its values do, unless it is an unstable invocation. -/
theorem Settles.object (h : ∀ e ∈ fields, Settles names e.2)
    (hinvoked : ∀ name v, Invokes names name v fields →
      Fixed names (preprocess names (.object fields))) : Settles names (.object fields) := by
  have hexpression : preprocess names (preprocess names (.object fields)) =
      preprocess names (.object fields) := by
    cases hnode : isNode (.object fields) with
    | true => exact preprocess_twice_of_node h hnode
    | false =>
        by_cases hinvokes : ∃ name v, Invokes names name v fields
        · obtain ⟨name, v, hinvokes⟩ := hinvokes
          exact (hinvoked name v hinvokes).expression
        · simp only [not_exists] at hinvokes
          exact preprocess_twice_of_plain h hnode hinvokes
  refine ⟨hexpression, ?_, fun hleaf => by cases hleaf⟩
  cases hoperator : isOperatorNode (.object fields) with
  | true =>
      -- An operator node is never read as parameters, and stays an operator node.
      have hnode : isNode (.object fields) = true := by rw [isNode, hoperator, Bool.true_or]
      have hstays : isOperatorNode (preprocess names (.object fields)) = true := by
        rw [preprocess_node hnode]
        exact (isOperatorNode_map (readProperty names)).trans hoperator
      rw [readProperty_of_operator hoperator, readProperty_of_operator hstays, hexpression]
  | false =>
      have hstays := (isOperatorNode_map fun _ => preprocess names).trans hoperator
      rw [readProperty_parameters hoperator, readParameters_object]
      exact readProperty_parameters_of_values hstays (preprocess_of_mem_map h)

end Objects

/-! ### Values without unstable invocations -/

/-- **Every value without unstable invocations settles**, and so do the properties of an object. -/
theorem settles_of_stable {v : Json} (h : Stable names v) :
    Settles names v ∧ ∀ properties, v = .object properties → ∀ e ∈ properties, Settles names e.2 := by
  induction v using inductionOnArguments with
  | null => exact ⟨Settles.of_leaf rfl (Fixed.of_leaf rfl rfl), fun _ hobject => by cases hobject⟩
  | bool b => exact ⟨Settles.of_leaf rfl (Fixed.of_leaf rfl rfl), fun _ hobject => by cases hobject⟩
  | number n =>
      exact ⟨Settles.of_leaf rfl (Fixed.of_leaf rfl rfl), fun _ hobject => by cases hobject⟩
  | string s ih =>
      refine ⟨Settles.string fun name arguments hcall hknown v hv => ?_,
        fun _ hobject => by cases hobject⟩
      exact (ih name arguments hcall v hv fun u hu => h u (.argument hcall hknown hv hu)).1
  | array items ih =>
      refine ⟨Settles.array fun v hv => ?_, fun _ hobject => by cases hobject⟩
      exact (ih v hv fun u hu => h u (.item hv hu)).1
  | object fields ih =>
      have hvalues := fun e he => ih e he fun u hu => h u (.entry he hu)
      refine ⟨Settles.object (fun e he => (hvalues e he).1) fun name v hinvokes => ?_, ?_⟩
      · have hv : Settles names v ∧
            ∀ properties, v = .object properties → ∀ e ∈ properties, Settles names e.2 := by
          cases hinvokes with
          | known hknown => exact hvalues _ List.mem_cons_self
        exact fixed_of_invokes hinvokes (h _ .self) hv.1 hv.2
      · intro properties hobject
        cases hobject
        exact fun e he => (hvalues e he).1

/-- If parameters still have two readings when they are expanded, a second expansion of their
invocation changes them, although a second expansion of their own does not. -/
theorem SpellsNode.preprocess_twice_ne {name : String} {first : String × Json} {v : Json}
    (h : ∀ v, SpellsNode names name first [(Key.parameters, v)])
    (hv : preprocess names (preprocess names v) = preprocess names v)
    (htwo : TwoReadings names (preprocess names v)) :
    preprocess names (preprocess names (.object [("$" ++ name, .object [(Key.parameters, v)])])) ≠
      preprocess names (.object [("$" ++ name, .object [(Key.parameters, v)])]) := by
  intro htwice
  have hinvocation := (h v).invocation
  have hagain := (h (preprocess names v)).invocation
  rw [List.map_singleton] at hinvocation hagain
  rw [hv] at hagain
  -- So the invocation of what the parameters become would agree with its node.
  refine (h (preprocess names v)).agree_iff.mp ?_ _ rfl htwo
  calc preprocess names (.object [("$" ++ name, .object [(Key.parameters, preprocess names v)])])
      = preprocess names (.object [("$" ++ name, .object [(Key.parameters, v)])]) := by
        rw [hagain, hinvocation]
    _ = preprocess names
          (preprocess names (.object [("$" ++ name, .object [(Key.parameters, v)])])) := htwice.symm
    _ = preprocess names (.object (Dict.extend [first] [(Key.parameters, preprocess names v)])) := by
        rw [hinvocation]

/-- **Expanding shorthand twice is expanding it once**, in every value without an unstable
invocation: one whose `parameters` still have two readings when they are expanded, or one whose name
is that of a fragment and a call string at the same time. -/
theorem preprocess_preprocess (names : Names) {v : Json} (h : Stable names v) :
    preprocess names (preprocess names v) = preprocess names v :=
  (settles_of_stable h).1.expression

/-- The invocation of a fragment with a binding is stable. -/
theorem stable_getCountry {v : Json} (h : Stable countryNames v) : Stable countryNames
    (.object [("$getCountry", .object [("parameters", .object [("$code", v)])])]) := by
  have hplain : ∀ {fields : Dict Json}, (∀ name v, ¬ Invokes countryNames name v fields) →
      ¬ Unstable countryNames (.object fields) := by
    intro fields hinvokes hunstable
    cases hunstable with
    | parameters h _ _ => exact hinvokes _ _ h
    | name h _ _ => exact hinvokes _ _ h
  have hbinding : ¬ Unstable countryNames (.object [("$code", v)]) := hplain fun name w hinvokes =>
    binding_has_one_reading v (.invocation hinvokes)
  have hparameters : ¬ Unstable countryNames
      (.object [("parameters", .object [("$code", v)])]) := hplain fun name w hinvokes => by
    cases hinvokes.of_singleton.1
  refine .object ?_ (List.forall_mem_singleton.mpr (.object hparameters
    (List.forall_mem_singleton.mpr (.object hbinding (List.forall_mem_singleton.mpr h)))))
  intro hunstable
  cases hunstable with
  | parameters hinvokes hmem htwo =>
      obtain ⟨-, hvalue⟩ := hinvokes.of_singleton
      obtain rfl := Json.object.inj hvalue
      obtain ⟨-, rfl⟩ := Prod.mk.inj (List.mem_singleton.mp hmem)
      rw [preprocess_plain rfl fun name w h => binding_has_one_reading v (.invocation h)] at htwo
      exact binding_has_one_reading _ htwo
  | name hinvokes _ hcall =>
      have hname : afterSigil? "$getCountry" = some "getCountry" := rfl
      obtain rfl := Option.some.inj (hname.symm.trans hinvokes.of_singleton.1)
      rw [expandString?_getCountry] at hcall
      cases hcall

/-- Calls in the arguments of calls, and calls in the bindings of an invocation. -/
theorem nested_calls_are_expanded_at_once :
    let v : Json := .array [.string "$plus(N, $plus(N, Z))",
      .object [("$getCountry", .object [("parameters",
        .object [("$code", .string "$plus(N, Z)")])])]]
    Stable countryNames v ∧
      preprocess countryNames (preprocess countryNames v) = preprocess countryNames v := by
  intro v
  have hread : callOf? "$plus(N, Z)" = some ("plus", [.string "N", .string "Z"]) := rfl
  have hreadOuter : callOf? "$plus(N, $plus(N, Z))" =
      some ("plus", [.string "N", .string "$plus(N, Z)"]) := rfl
  have hcall : Stable countryNames (.string "$plus(N, Z)") :=
    .call hread (List.forall_mem_cons.mpr
      ⟨.text rfl, List.forall_mem_singleton.mpr (.text rfl)⟩)
  have houter : Stable countryNames (.string "$plus(N, $plus(N, Z))") :=
    .call hreadOuter (List.forall_mem_cons.mpr
      ⟨.text rfl, List.forall_mem_singleton.mpr hcall⟩)
  have hstable : Stable countryNames v := .array (List.forall_mem_cons.mpr
    ⟨houter, List.forall_mem_singleton.mpr (stable_getCountry hcall)⟩)
  exact ⟨hstable, preprocess_preprocess countryNames hstable⟩

/-- Parameters that are a fragment node keep shorthand under their own `parameters` at first, and
lose it when the invocation that they stand in is expanded again. -/
theorem parameters_are_expanded_the_second_time :
    let v : Json := .object [("$getCountry", .object [("parameters",
      .object [("fragment", .string "getCity"),
        ("parameters", .object [("$plus", .array [.int 1, .int 2])])])])]
    preprocess countryNames (preprocess countryNames v) ≠ preprocess countryNames v := by
  have hplus : countryNames.knows "plus" = true := by
    rw [Names.knows, resolve?_plus]
    rfl
  have hcity : expandString? countryNames "getCity" = none := by
    have hplain : call? "getCity".toList = none := by decide
    rw [expandString?_eq, callOf?, hplain]
    rfl
  have hinner : readProperty countryNames Key.parameters
      (.object [("$plus", .array [.int 1, .int 2])]) =
        .object [("$plus", .array [.int 1, .int 2])] :=
    readProperty_parameters_of_values rfl (List.forall_mem_singleton.mpr (preprocess_array _ _))
  -- As an expression, the inner node is kept: its own parameters are read as parameters.
  have hkept : preprocess countryNames (.object [("fragment", .string "getCity"),
      ("parameters", .object [("$plus", .array [.int 1, .int 2])])]) =
        .object [("fragment", .string "getCity"),
          ("parameters", .object [("$plus", .array [.int 1, .int 2])])] := by
    rw [preprocess_node rfl, Dict.map_eq_self_iff (f := readProperty countryNames)|>.mpr]
    refine List.forall_mem_cons.mpr ⟨?_, List.forall_mem_singleton.mpr hinner⟩
    exact (readProperty_of_ne (by decide) _).trans (preprocess_text hcity)
  have htwo : TwoReadings countryNames (.object [("fragment", .string "getCity"),
      ("parameters", .object [("$plus", .array [.int 1, .int 2])])]) :=
    .fragment rfl rfl (List.mem_cons_of_mem _ List.mem_cons_self) (.invocation (.known hplus))
  have hspells : ∀ v, SpellsNode countryNames "getCountry" (Key.fragment, .string "getCountry")
      [(Key.parameters, v)] := fun v =>
    spellsNode_of_fragment resolve?_getCountry (by decide) expandString?_getCountry
      (List.pairwise_singleton _ _)
  have hsettled : preprocess countryNames (preprocess countryNames
      (.object [("fragment", .string "getCity"),
        ("parameters", .object [("$plus", .array [.int 1, .int 2])])])) =
      preprocess countryNames (.object [("fragment", .string "getCity"),
        ("parameters", .object [("$plus", .array [.int 1, .int 2])])]) := by
    rw [hkept, hkept]
  rw [← hkept] at htwo
  have hchanged := SpellsNode.preprocess_twice_ne hspells hsettled htwo
  exact hchanged

end JsonExpr.Shorthand
