import JsonExpr.Proofs.Engine
import JsonExpr.Proofs.Shorthand.Ahead
import JsonExpr.Proofs.Shorthand.Invocation

/-!
# Longhand

What contains no shorthand should come out of its expansion as it went in, and evaluation should not
depend on whether shorthand is in use.  Both hold, for exactly the values in which nothing that is
read as an expression stands for a node.  The difficulty is to say what is read as an expression.
The object under `parameters` of a node is not, unless it is an operator node, but its values are.
If the parameters are themselves a fragment node, this includes what stands under *its*
`parameters`, since an object that is read as parameters is not seen to be a node.  So it is not
enough that every invocation stands directly under the `parameters` of a node
(`JsonExpr.Shorthand.parameters_of_parameters_are_expanded`).

The proof of the first part goes through a value once, with the role in which each part is read.
For the second part, the expression and all templates are their own expansions, so that no rule
finds anything to expand, whichever fragments lead to which.

Main definitions:

* `JsonExpr.Shorthand.Abbreviates` — the strings and objects that stand for a node;
* `JsonExpr.Shorthand.Stands` — what is read as an expression inside of a value;
* `JsonExpr.Shorthand.Longhand` — the values in which nothing that is read so stands for a node;
* `JsonExpr.Env.TemplatesLonghand` — fragments with such templates only.

Main results:

* `JsonExpr.Shorthand.readAs_eq_self_iff` — what is read as it stands, in either role;
* `JsonExpr.eval_withShorthand` — evaluation to any depth does not depend on the switch;
* `JsonExpr.Shorthand.longhand_needs_no_expansion` — **longhand is what expansion leaves alone**,
  and an engine does the same with it whether shorthand is in use or not.
-/

set_option autoImplicit false

namespace JsonExpr

namespace Shorthand

variable {names : Names}

/-! ### What stands for a node -/

/-- The strings and objects that stand for a node: calls and invocations of known names. -/
inductive Abbreviates (names : Names) : Json → Prop where
  | call {s name : String} {arguments : List Json} : callOf? s = some (name, arguments) →
      names.knows name = true → Abbreviates names (.string s)
  | invocation {name : String} {v : Json} {fields : Dict Json} : Invokes names name v fields →
      Abbreviates names (.object fields)

theorem abbreviates_string_iff {s : String} :
    Abbreviates names (.string s) ↔ (expandString? names s).isSome = true := by
  rw [expandString?_eq, Option.isSome_bind]
  constructor
  · intro h
    cases h with
    | call hcall hknown =>
        rw [hcall, Option.any_some, names.isSome_build?]
        exact hknown
  · intro h
    cases hcall : callOf? s with
    | none =>
        rw [hcall] at h
        cases h
    | some call =>
        rw [hcall, Option.any_some, names.isSome_build?] at h
        exact .call hcall h

theorem not_abbreviates_of_isNode {fields : Dict Json} (h : isNode (.object fields) = true) :
    ¬ Abbreviates names (.object fields) := by
  intro habbreviates
  cases habbreviates with
  | invocation hinvokes => exact Bool.false_ne_true (hinvokes.isNode_eq.symm.trans h)

/-! ### What is read as an expression -/

/-- How a value is read: as an expression, or as the parameters of a node. -/
inductive Role where
  | expression
  | parameters
  deriving DecidableEq

namespace Role

/-- The role of a property of a node. -/
def ofProperty (key : String) (v : Json) : Role :=
  if key = Key.parameters ∧ isOperatorNode v = false then .parameters else .expression

/-- Whether a node is told from other objects.  Parameters are none, whatever their keys are. -/
def seesNodes : Role → Bool
  | .expression => true
  | .parameters => false

/-- The role of the value of an entry, where nodes are seen in the roles that `sees` tells. -/
def ofEntry (sees : Role → Bool) (role : Role) (fields : Dict Json) (e : String × Json) : Role :=
  if sees role && isNode (.object fields) then ofProperty e.1 e.2 else .expression

end Role

/-- A value `u` that is read as an expression inside of another one, which has the given role.  An
object of parameters is not read so itself. -/
inductive Stands (sees : Role → Bool) (u : Json) : Role → Json → Prop where
  | self {role : Role} : role = .expression ∨ u.asObject? = none → Stands sees u role u
  | item {role : Role} {items : List Json} {v : Json} : v ∈ items → Stands sees u .expression v →
      Stands sees u role (.array items)
  | entry {role : Role} {fields : Dict Json} {e : String × Json} : e ∈ fields →
      Stands sees u (role.ofEntry sees fields e) e.2 → Stands sees u role (.object fields)

/-- Nothing that is read as an expression inside of a value stands for a node. -/
def LonghandAs (sees : Role → Bool) (names : Names) (role : Role) (v : Json) : Prop :=
  ∀ u, Stands sees u role v → ¬ Abbreviates names u

/-- An expression in which nothing that is read as an expression stands for a node. -/
def Longhand (names : Names) (v : Json) : Prop := LonghandAs Role.seesNodes names .expression v

section LonghandAs

variable {sees : Role → Bool} {role : Role}

theorem longhandAs_array {items : List Json} :
    LonghandAs sees names role (.array items) ↔
      ∀ v ∈ items, LonghandAs sees names .expression v := by
  constructor
  · exact fun h v hv u hu => h u (.item hv hu)
  · intro h u hu
    cases hu with
    | self _ => exact fun habbreviates => nomatch habbreviates
    | item hv hu => exact h _ hv u hu

theorem longhandAs_object {fields : Dict Json} :
    LonghandAs sees names role (.object fields) ↔
      (role = .expression → ¬ Abbreviates names (.object fields)) ∧
        ∀ e ∈ fields, LonghandAs sees names (role.ofEntry sees fields e) e.2 := by
  constructor
  · exact fun h => ⟨fun hrole => h _ (.self (.inl hrole)), fun e he u hu => h u (.entry he hu)⟩
  · rintro ⟨hself, hentries⟩ u hu
    cases hu with
    | self hrole =>
        rcases hrole with hrole | hleaf
        · exact hself hrole
        · cases hleaf
    | entry he hu => exact hentries _ he u hu

/-- Of a value that contains no others, only itself matters. -/
theorem longhandAs_string {s : String} :
    LonghandAs sees names role (.string s) ↔ ¬ Abbreviates names (.string s) := by
  constructor
  · exact fun h => h _ (.self (.inr rfl))
  · intro h u hu
    cases hu with
    | self _ => exact h

theorem longhandAs_text {s : String} (h : call? s.toList = none) :
    LonghandAs sees names role (.string s) := by
  rw [longhandAs_string, abbreviates_string_iff, expandString?_eq, callOf?, h]
  exact Bool.false_ne_true

theorem longhandAs_null : LonghandAs sees names role .null := by
  intro u hu habbreviates
  cases hu with
  | self _ => cases habbreviates

theorem longhandAs_bool (b : Bool) : LonghandAs sees names role (.bool b) := by
  intro u hu habbreviates
  cases hu with
  | self _ => cases habbreviates

theorem longhandAs_number (n : Number) : LonghandAs sees names role (.number n) := by
  intro u hu habbreviates
  cases hu with
  | self _ => cases habbreviates

end LonghandAs

/-! ### What is read as it stands -/

/-- A value in which shorthand is expanded, read in the given role. -/
def readAs (names : Names) : Role → Json → Json
  | .expression, v => preprocess names v
  | .parameters, v => readParameters names v

theorem readProperty_eq_readAs (key : String) (v : Json) :
    readProperty names key v = readAs names (Role.ofProperty key v) v := by
  unfold Role.ofProperty
  split
  · next h =>
    obtain ⟨rfl, hoperator⟩ := h
    exact readProperty_parameters hoperator
  · next h => exact if_neg h

theorem readAs_leaf {v : Json} (h : v.asObject? = none) (role : Role) :
    readAs names role v = preprocess names v := by
  cases role with
  | expression => rfl
  | parameters => exact readParameters_eq_preprocess h

/-- A string is read as it stands if it is no call. -/
theorem preprocess_string_eq_self_iff {s : String} :
    preprocess names (.string s) = .string s ↔ ¬ Abbreviates names (.string s) := by
  rw [abbreviates_string_iff, preprocess_string]
  cases hexpanded : expandString? names s with
  | none => exact ⟨fun _ => Bool.false_ne_true, fun _ => rfl⟩
  | some node =>
      -- What a call stands for is an object.
      rw [expandString?_eq] at hexpanded
      obtain ⟨call, -, hbuild⟩ := Option.bind_eq_some_iff.mp hexpanded
      obtain ⟨fields, rfl, -⟩ := Names.exists_of_build? hbuild
      exact ⟨fun h => (nomatch h), fun h => absurd rfl h⟩

/-- An invocation is never read as it stands, since it becomes a node. -/
theorem Invokes.preprocess_ne {name : String} {v : Json} {fields : Dict Json}
    (h : Invokes names name v fields) :
    preprocess names (.object fields) ≠ .object fields := by
  intro hself
  obtain ⟨built, heq, hbuilt⟩ := Names.exists_of_build? h.build?_readParameters
  rw [hself] at heq
  rw [← heq, h.isNode_eq] at hbuilt
  exact Bool.false_ne_true hbuilt

/-- An expression that is an object is read as it stands if it stands for no node and its entries
are read as they stand, each in its role. -/
theorem preprocess_object_eq_self_iff {fields : Dict Json} :
    preprocess names (.object fields) = .object fields ↔
      ¬ Abbreviates names (.object fields) ∧
        ∀ e ∈ fields,
          readAs names (Role.expression.ofEntry Role.seesNodes fields e) e.2 = e.2 := by
  cases hnode : isNode (.object fields) with
  | true =>
      have hentry : ∀ e : String × Json, Role.expression.ofEntry Role.seesNodes fields e =
          Role.ofProperty e.1 e.2 := fun e => if_pos (by rw [hnode]; rfl)
      rw [preprocess_node hnode, Json.object.injEq,
        Dict.map_eq_self_iff (f := readProperty names)]
      simp only [hentry, readProperty_eq_readAs]
      exact (and_iff_right (not_abbreviates_of_isNode hnode)).symm
  | false =>
      have hentry : ∀ e : String × Json, Role.expression.ofEntry Role.seesNodes fields e =
          .expression := fun e => if_neg (by rw [hnode]; exact Bool.false_ne_true)
      by_cases hinvokes : ∃ name v, Invokes names name v fields
      · obtain ⟨name, v, hinvokes⟩ := hinvokes
        exact ⟨fun hself => absurd hself hinvokes.preprocess_ne,
          fun h => absurd (.invocation hinvokes) h.1⟩
      · simp only [not_exists] at hinvokes
        have hplain : ¬ Abbreviates names (.object fields) := by
          intro habbreviates
          cases habbreviates with
          | invocation h => exact hinvokes _ _ h
        rw [preprocess_plain hnode hinvokes, Json.object.injEq,
          Dict.map_eq_self_iff (f := fun _ => preprocess names)]
        simp only [hentry]
        exact (and_iff_right hplain).symm

/-- **What is read as it stands**, as an expression or as parameters. -/
theorem readAs_eq_self_iff (role : Role) {v : Json} :
    readAs names role v = v ↔ LonghandAs Role.seesNodes names role v := by
  induction v using Json.inductionOnParts generalizing role with
  | null => exact ⟨fun _ => longhandAs_null, fun _ => readAs_leaf rfl role⟩
  | bool b => exact ⟨fun _ => longhandAs_bool b, fun _ => readAs_leaf rfl role⟩
  | number n => exact ⟨fun _ => longhandAs_number n, fun _ => readAs_leaf rfl role⟩
  | string s =>
      rw [readAs_leaf rfl, longhandAs_string]
      exact preprocess_string_eq_self_iff
  | array items ih =>
      have hself : items.map (preprocess names) = items ↔
          ∀ v ∈ items, preprocess names v = v := by
        have hiff := List.map_inj_left (l := items) (f := preprocess names) (g := fun v => v)
        rwa [List.map_id'] at hiff
      rw [readAs_leaf rfl, longhandAs_array, preprocess_array, Json.array.injEq, hself]
      exact forall₂_congr fun v hv => ih v hv .expression
  | object fields ih =>
      have hentries : ∀ r : Role,
          (∀ e ∈ fields, readAs names (r.ofEntry Role.seesNodes fields e) e.2 = e.2) ↔
            ∀ e ∈ fields, LonghandAs Role.seesNodes names (r.ofEntry Role.seesNodes fields e) e.2 :=
        fun r => forall₂_congr fun e he => ih e he _
      rw [longhandAs_object, ← hentries]
      cases role with
      | expression =>
          rw [readAs, preprocess_object_eq_self_iff]
          exact and_congr_left fun _ => ⟨fun h _ => h, fun h => h rfl⟩
      | parameters =>
          rw [readAs, readParameters_object, Json.object.injEq,
            Dict.map_eq_self_iff (f := fun _ => preprocess names)]
          exact (and_iff_right fun hrole => nomatch hrole).symm

end Shorthand

/-! ### Evaluation -/

open Shorthand (Longhand)

/-- The environment with the switch for shorthand in another position. -/
def Env.withShorthand (env : Env) (switch : Option Bool) : Env :=
  ⟨{ env.options with useShorthand := switch }, env.registry⟩

/-- All templates of fragments are longhand. -/
def Env.TemplatesLonghand (env : Env) : Prop :=
  ∀ fragments, env.options.fragments = some fragments → ∀ entry ∈ fragments,
    Longhand env.shorthandNames (FragmentDefinition.ofJson entry.2).template

theorem Shorthand.Longhand.preprocess_eq {names : Shorthand.Names} {v : Json}
    (h : Longhand names v) : Shorthand.preprocess names v = v :=
  (Shorthand.readAs_eq_self_iff .expression).mpr h

/-- Longhand is prepared for evaluation by leaving it as it is. -/
theorem Engine.prepare_of_longhand {env : Env} {v : Json} (h : Longhand env.shorthandNames v) :
    Engine.prepare env v = v := by
  unfold Engine.prepare
  split
  · exact h.preprocess_eq
  · rfl

namespace Evaluation

variable {env : Env} {ev : Evaluator Failure}

theorem templateOf_of_longhand {definition : Json}
    (h : Longhand env.shorthandNames (FragmentDefinition.ofJson definition).template) :
    templateOf env definition = (FragmentDefinition.ofJson definition).template := by
  unfold templateOf
  split
  · exact h.preprocess_eq
  · rfl

theorem fragmentNode_withShorthand (h : env.TemplatesLonghand) (switch : Option Bool)
    (node : Dict Json) :
    fragmentNode (env.withShorthand switch) ev node = fragmentNode env ev node := by
  unfold fragmentNode
  congr 1
  funext name
  have hfragments : (env.withShorthand switch).options.fragments = env.options.fragments := rfl
  rw [hfragments]
  cases hget : env.options.fragments.bind fun fs => Dict.get? fs name with
  | none => rfl
  | some definition =>
      obtain ⟨fragments, hsome, hdefinition⟩ := Option.bind_eq_some_iff.mp hget
      have hlonghand := h fragments hsome _ (Dict.mem_of_get? hdefinition)
      have htemplate : templateOf env definition =
          (FragmentDefinition.ofJson definition).template := templateOf_of_longhand hlonghand
      have hswitched : templateOf (env.withShorthand switch) definition =
          (FragmentDefinition.ofJson definition).template := templateOf_of_longhand hlonghand
      simp only [htemplate, hswitched]

/-- The rules for one node do not look at the switch if there is nothing to expand. -/
theorem node_withShorthand (h : env.TemplatesLonghand) (switch : Option Bool) :
    node (env.withShorthand switch) ev = node env ev := by
  have hrules : Env.SameRules env (env.withShorthand switch) :=
    ⟨rfl, ⟨rfl, rfl, rfl, rfl, rfl, rfl, rfl, rfl, rfl⟩, rfl, rfl, rfl⟩
  funext v
  exact node_of_sameRules hrules fun fields _ => fragmentNode_withShorthand h switch fields

end Evaluation

/-- Evaluation to any depth does not look at the switch if there is nothing to expand. -/
theorem eval_withShorthand {env : Env} (h : env.TemplatesLonghand) (switch : Option Bool)
    (depth : Nat) : eval (env.withShorthand switch) depth = eval env depth := by
  induction depth with
  | zero => rfl
  | succ depth ih => rw [eval, ih, Evaluation.node_withShorthand h switch, ← eval]

/-- An engine with the switch for shorthand in another position. -/
def Engine.withShorthand (e : Engine) (switch : Option Bool) : Engine :=
  { e with options := { e.options with useShorthand := switch } }

namespace Shorthand

/-- **Longhand is what expansion leaves alone**, key by key and in order, and nothing else is.  And
it needs no expansion: if an expression and the templates of all fragments are longhand, then an
engine does the same with the expression in whatever position the switch for shorthand is, in its
own options and in those that are laid over them. -/
theorem longhand_needs_no_expansion (v : Json) :
    (∀ names, preprocess names v = v ↔ Longhand names v) ∧
    ∀ (e : Engine) (overrides : Options), Longhand (e.envWith overrides).shorthandNames v →
      (e.envWith overrides).TemplatesLonghand → ∀ switch switch' depth,
        Engine.SameRun (e.evaluateWithin depth v overrides)
          ((e.withShorthand switch).evaluateWithin depth v
            { overrides with useShorthand := switch' }) := by
  refine ⟨fun names => readAs_eq_self_iff .expression,
    fun e overrides hv htemplates switch switch' depth => ?_⟩
  -- The two layers of options leave the switch in some position, and nothing else changes.
  have henv : (e.withShorthand switch).envWith { overrides with useShorthand := switch' } =
      (e.envWith overrides).withShorthand (Options.layer switch switch') := rfl
  have hprepare := Engine.prepare_of_longhand hv
  have hprepare' : Engine.prepare
      ((e.envWith overrides).withShorthand (Options.layer switch switch')) v = v :=
    Engine.prepare_of_longhand hv
  have hsame : eval ((e.withShorthand switch).envWith { overrides with useShorthand := switch' })
      depth (Engine.prepare
        ((e.withShorthand switch).envWith { overrides with useShorthand := switch' }) v) =
      eval (e.envWith overrides) depth (Engine.prepare (e.envWith overrides) v) := by
    rw [henv, hprepare', hprepare, eval_withShorthand htemplates]
  unfold Engine.evaluateWithin
  dsimp only
  rw [hsame]
  exact ⟨rfl, rfl, rfl⟩

/-- A greeting whose binding has the name of an operator. -/
theorem greeting_needs_no_expansion :
    let template : Json := .object [("metadata", .object []), ("operator", .string "+"),
      ("values", .array [.string "Hello, ", .string "$count"])]
    let e := Engine.new { fragments := some [("greet", template)] }
    let v : Json := .object
      [("fragment", .string "greet"), ("parameters", .object [("$count", .string "Han")])]
    let names := (e.envWith Options.empty).shorthandNames
    let expanding := e.withShorthand (some true)
    Longhand names v ∧ (e.envWith Options.empty).TemplatesLonghand ∧ preprocess names v = v ∧
      Engine.SameRun (e.evaluateWithin 8 v Options.empty)
        (expanding.evaluateWithin 8 v Options.empty) ∧
      (expanding.evaluateWithin 8 v Options.empty).1.map (·.map Json.toText) =
        some (.ok "Hello, Han") := by
  intro template e v names expanding
  have htext : ∀ {role : Role} (s : String), call? s.toList = none →
      LonghandAs Role.seesNodes names role (.string s) := fun _ => longhandAs_text
  have hv : Longhand names v := by
    refine longhandAs_object.mpr ⟨fun _ => not_abbreviates_of_isNode rfl, ?_⟩
    refine List.forall_mem_cons.mpr ⟨htext "greet" (by decide), List.forall_mem_singleton.mpr ?_⟩
    -- As parameters, a known name behind a dollar sign is the name of a binding.
    refine longhandAs_object.mpr ⟨fun hrole => (nomatch hrole), ?_⟩
    exact List.forall_mem_singleton.mpr (htext "Han" (by decide))
  have htemplates : (e.envWith Options.empty).TemplatesLonghand := by
    intro fragments h entry hentry
    cases h
    cases List.mem_singleton.mp hentry
    have htemplate : (FragmentDefinition.ofJson template).template = .object
        [("values", .array [.string "Hello, ", .string "$count"]), ("operator", .string "+")] := rfl
    rw [htemplate]
    refine longhandAs_object.mpr ⟨fun _ => not_abbreviates_of_isNode rfl, ?_⟩
    refine List.forall_mem_cons.mpr ⟨?_, List.forall_mem_singleton.mpr (htext "+" (by decide))⟩
    exact longhandAs_array.mpr (List.forall_mem_cons.mpr ⟨htext "Hello, " (by decide),
      List.forall_mem_singleton.mpr (htext "$count" (by decide))⟩)
  obtain ⟨huntouched, hruns⟩ := longhand_needs_no_expansion v
  have hsame := hruns e Options.empty hv htemplates (some true) none 8
  have hoverrides : ({ Options.empty with useShorthand := none } : Options) = Options.empty := rfl
  rw [hoverrides] at hsame
  have hvalue : (expanding.evaluateWithin 8 v Options.empty).1.map (·.map Json.toText) =
      some (.ok "Hello, Han") := by decide +kernel
  exact ⟨hv, htemplates, (huntouched names).mpr hv, hsame, hvalue⟩

/-- If nodes were seen wherever they stand, an invocation under the `parameters` of a fragment node
that is itself under `parameters` would be a binding.  It is expanded. -/
theorem parameters_of_parameters_are_expanded :
    let v : Json := .object [("fragment", .string "getCountry"),
      ("parameters", .object [("fragment", .string "getCity"),
        ("parameters", .object [("$plus", .array [.int 1, .int 2])])])]
    LonghandAs (fun _ => true) countryNames .expression v ∧ preprocess countryNames v ≠ v := by
  intro v
  constructor
  · have htext : ∀ {role : Role} (s : String), call? s.toList = none →
        LonghandAs (fun _ => true) countryNames role (.string s) := fun _ => longhandAs_text
    refine longhandAs_object.mpr ⟨fun _ => not_abbreviates_of_isNode rfl, ?_⟩
    refine List.forall_mem_cons.mpr
      ⟨htext "getCountry" (by decide), List.forall_mem_singleton.mpr ?_⟩
    refine longhandAs_object.mpr ⟨fun hrole => (nomatch hrole), ?_⟩
    refine List.forall_mem_cons.mpr ⟨htext "getCity" (by decide), List.forall_mem_singleton.mpr ?_⟩
    refine longhandAs_object.mpr ⟨fun hrole => (nomatch hrole), List.forall_mem_singleton.mpr ?_⟩
    exact longhandAs_array.mpr (List.forall_mem_cons.mpr
      ⟨longhandAs_number _, List.forall_mem_singleton.mpr (longhandAs_number _)⟩)
  · intro huntouched
    have hplus : countryNames.knows "plus" = true := by
      rw [Names.knows, resolve?_plus]
      rfl
    have hstands : Stands Role.seesNodes (.object [("$plus", .array [.int 1, .int 2])])
        .expression v :=
      .entry (List.mem_cons_of_mem _ List.mem_cons_self) (.entry
        (List.mem_cons_of_mem _ List.mem_cons_self) (.self (.inl rfl)))
    exact (readAs_eq_self_iff .expression).mp huntouched _ hstands
      (.invocation (.known hplus))

end Shorthand

end JsonExpr
