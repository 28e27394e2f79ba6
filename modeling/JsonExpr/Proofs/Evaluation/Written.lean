import JsonExpr.Proofs.Evaluation.Verbatim

/-!
# Calls that are written out

Values that are made of literals and calls of host functions with literal arguments.  What functions
evaluation can call is there to be read then: a call is written with its path, and nothing else in
the value is a node or refers to a binding.

Main definitions:

* `JsonExpr.Inert` — literals: values without nodes and without references to bindings;
* `JsonExpr.IsCall`, `JsonExpr.OfCalls` — calls with literal properties, and values that are made of
  them and of literals;
* `JsonExpr.Evaluation.callees`, `JsonExpr.written` — the function that a call calls, and all
  functions that the calls written in a value do;
* `JsonExpr.OfCalls.weighing` — how often one function is written in a value, as its weight.

Main results:

* `JsonExpr.Inert.exists_literalAt` — **literals evaluate to themselves**;
* `JsonExpr.Evaluation.callees_of_gather` — a call calls the function that is written in it;
* `JsonExpr.OfCalls.builds` — arrays and objects have the calls of their elements and entries;
* `JsonExpr.HostCall.isCall_node` — the node that makes a call of literal arguments is one of these.
-/

set_option autoImplicit false

namespace JsonExpr

/-! ### Literals -/

/-- A string that is no name of a binding and is not read as a node. -/
def PlainText (env : Env) (s : String) : Prop :=
  isBindingName s = false ∧ (env.options.readsStrings = true → Evaluation.nodeInString? s = none)

/-- A value without nodes and without references to bindings. -/
def Inert (env : Env) (v : Json) : Prop :=
  ∀ u, Json.Part u v → isNode u = false ∧ ∀ s, u = .string s → PlainText env s

theorem PlainText.eval_eq {env : Env} {s : String} (h : PlainText env s) (depth : Nat) (w : World) :
    eval env (depth + 1) (.string s) w = (some (.ok (.string s)), w) := by
  obtain ⟨hname, hread⟩ := h
  rw [eval, Evaluation.node_text _ hread, Evaluation.leaf, hname]
  rfl

/-- **Literals evaluate to themselves**, whatever is in scope. -/
theorem Inert.exists_literalAt {env : Env} {v : Json} (h : Inert env v) :
    ∃ depth, ∀ names, LiteralAt env names depth v := by
  have mono : ∀ {n m : Nat} {v : Json}, n ≤ m → (∀ names, LiteralAt env names n v) →
      ∀ names, LiteralAt env names m v := fun hle h names => (h names).mono hle
  induction v using Json.inductionOnParts with
  | array items ih =>
      obtain ⟨n, hn⟩ := exists_forall_of_forall_exists
        (P := fun n v => ∀ names, LiteralAt env names n v) mono
        fun v hv => ih v hv fun u hu => h u (.item hv hu)
      exact ⟨n + 1, fun names => LiteralAt.array fun v hv => hn v hv names⟩
  | object fields ih =>
      obtain ⟨n, hn⟩ := exists_forall_of_forall_exists
        (P := fun n (e : String × Json) => ∀ names, LiteralAt env names n e.2) mono
        fun e he => ih e he fun u hu => h u (.entry he hu)
      exact ⟨n + 1, fun names => LiteralAt.object (fun e he => hn e he names) (h _ .self).1⟩
  | string s =>
      refine ⟨1, fun names u hu w _ => ?_⟩
      cases hu
      exact ((h _ .self).2 s rfl).eval_eq 0 w
  | _ =>
      refine ⟨1, fun names u hu w _ => ?_⟩
      cases hu
      rfl

/-- What a literal evaluates to is the literal. -/
theorem Inert.eq_of_eval {env : Env} {v u : Json} (h : Inert env v) {depth : Nat} {w w' : World}
    (hrun : eval env depth v w = (some (.ok u), w')) : u = v := by
  obtain ⟨enough, hliteral⟩ := h.exists_literalAt
  cases (eval_unique hrun ((hliteral w.names).eval_eq rfl)).1
  rfl

/-- A text that names no binding is a literal where strings are not read as nodes. -/
theorem Inert.text {env : Env} {s : String} (reads : env.options.readsStrings = false)
    (name : isBindingName s = false) : Inert env (.string s) := by
  intro u hu
  cases hu
  refine ⟨rfl, fun t ht => ?_⟩
  cases ht
  exact ⟨name, fun h => absurd (reads.symm.trans h) Bool.false_ne_true⟩

theorem Inert.array {env : Env} {items : List Json} (h : ∀ v ∈ items, Inert env v) :
    Inert env (.array items) := by
  intro u hu
  cases hu with
  | self => exact ⟨rfl, fun _ hs => nomatch hs⟩
  | item hv hu => exact h _ hv u hu

theorem Inert.number (env : Env) (n : Number) : Inert env (.number n) := by
  intro u hu
  cases hu
  exact ⟨rfl, fun _ hs => nomatch hs⟩

/-- An object of literals is a literal, if it is no node. -/
theorem Inert.object {env : Env} {fields : Dict Json} (h : ∀ e ∈ fields, Inert env e.2)
    (hnode : isNode (.object fields) = false) : Inert env (.object fields) := by
  intro u hu
  cases hu with
  | self => exact ⟨hnode, fun _ hs => nomatch hs⟩
  | entry he hu => exact h _ he u hu

theorem Inert.item {env : Env} {items : List Json} (h : Inert env (.array items)) :
    ∀ v ∈ items, Inert env v :=
  fun _ hv u hu => h u (.item hv hu)

theorem Inert.entry {env : Env} {fields : Dict Json} (h : Inert env (.object fields)) :
    ∀ e ∈ fields, Inert env e.2 :=
  fun _ he u hu => h u (.entry he hu)

/-! ### Calls -/

/-- A call of a host function, all of whose properties are literals. -/
structure IsCall (env : Env) (call : Dict Json) : Prop where
  operator : Evaluation.operatorOf? env call = some .customFunctions
  noFragment : Dict.hasKey call Key.fragment = false
  literal : ∀ e ∈ call, Inert env e.2

/-- A value that is made of literals and calls. -/
def OfCalls (env : Env) (v : Json) : Prop :=
  ∀ u, Json.Part u v → (isNode u = true → ∃ call, u = .object call ∧ IsCall env call) ∧
    ∀ s, u = .string s → PlainText env s

namespace Evaluation

/-- The properties of a node whose children, if it has any, are written out. -/
def writtenProps? (k : OperatorKind) (node : Dict Json) : Option Props :=
  match Dict.get? node Key.children with
  | none => some (ownProps k.schema node)
  | some (.array items) => (placeChildren k items (ownProps k.schema node)).toOption
  | some _ => none

/-- The path of the function that a call of these properties calls. -/
def writtenPath (props : Props) : String :=
  ((Dict.get? props "functionPath").bind Json.asString?).getD ""

/-- The function that a call calls, by its path as it is written. -/
def callees (env : Env) (call : Dict Json) : List Nat :=
  match writtenProps? .customFunctions call with
  | none => []
  | some props =>
    (FunctionMap.find? (env.options.functions.getD []) (writtenPath props)).toList.map fun found =>
      found.2.registration

end Evaluation

mutual

/-- The functions that the calls written in a value call. -/
def written (env : Env) : Json → List Nat
  | .array items => writtenItems env items
  | .object fields =>
    if isNode (.object fields) then Evaluation.callees env fields else writtenFields env fields
  | _ => []

/-- The functions that the calls written in values call. -/
def writtenItems (env : Env) : List Json → List Nat
  | [] => []
  | v :: rest => written env v ++ writtenItems env rest

/-- The functions that the calls written in the values of entries call. -/
def writtenFields (env : Env) : List (String × Json) → List Nat
  | [] => []
  | (_, v) :: rest => written env v ++ writtenFields env rest

end

theorem writtenItems_eq (env : Env) (items : List Json) :
    writtenItems env items = items.flatMap (written env) := by
  induction items with
  | nil => rfl
  | cons v rest ih => rw [writtenItems, ih, List.flatMap_cons]

theorem writtenFields_eq (env : Env) (fields : Dict Json) :
    writtenFields env fields = fields.flatMap fun e => written env e.2 := by
  induction fields with
  | nil => rfl
  | cons e rest ih => rw [writtenFields, ih, List.flatMap_cons]

section Written

variable {env : Env} {v : Json}

theorem written_object {fields : Dict Json} (h : isNode (.object fields) = false) :
    written env (.object fields) = fields.flatMap fun e => written env e.2 := by
  rw [written, if_neg (Bool.eq_false_iff.mp h), writtenFields_eq]

/-- No calls are written in a literal. -/
theorem Inert.written_eq_nil (h : Inert env v) : written env v = [] := by
  induction v using Json.inductionOnParts with
  | array items ih =>
      rw [written, writtenItems_eq, List.flatMap_eq_nil_iff]
      exact fun v hv => ih v hv (h.item v hv)
  | object fields ih =>
      rw [written_object (h _ .self).1, List.flatMap_eq_nil_iff]
      exact fun e he => ih e he (h.entry e he)
  | _ => rfl

theorem Inert.ofCalls (h : Inert env v) : OfCalls env v := by
  refine fun u hu => ⟨fun hnode => ?_, (h u hu).2⟩
  rw [(h u hu).1] at hnode
  cases hnode

theorem IsCall.isNode {call : Dict Json} (h : IsCall env call) :
    isNode (.object call) = true :=
  Bool.or_eq_true_iff.mpr (.inl (Evaluation.hasKey_operator h.operator))

theorem IsCall.ofCalls {call : Dict Json} (h : IsCall env call) :
    OfCalls env (.object call) := by
  intro u hu
  cases hu with
  | self => exact ⟨fun _ => ⟨call, rfl, h⟩, fun s hs => nomatch hs⟩
  | entry he hpart => exact (h.literal _ he).ofCalls u hpart

theorem IsCall.written_eq {call : Dict Json} (h : IsCall env call) :
    written env (.object call) = Evaluation.callees env call := by
  rw [written, if_pos h.isNode]

namespace OfCalls

theorem item {items : List Json} (h : OfCalls env (.array items)) :
    ∀ v ∈ items, OfCalls env v :=
  fun _ hv u hu => h u (.item hv hu)

theorem entry {fields : Dict Json} (h : OfCalls env (.object fields)) :
    ∀ e ∈ fields, OfCalls env e.2 :=
  fun _ he u hu => h u (.entry he hu)

theorem array {items : List Json} (h : ∀ v ∈ items, OfCalls env v) : OfCalls env (.array items) := by
  intro u hu
  cases hu with
  | self => exact ⟨(fun hnode => nomatch hnode), fun s hs => nomatch hs⟩
  | item hv hpart => exact h _ hv u hpart

theorem object {fields : Dict Json} (h : ∀ e ∈ fields, OfCalls env e.2)
    (hnode : isNode (.object fields) = false) : OfCalls env (.object fields) := by
  intro u hu
  cases hu with
  | self =>
      refine ⟨fun htrue => ?_, fun s hs => nomatch hs⟩
      rw [hnode] at htrue
      cases htrue
  | entry he hpart => exact h _ he u hpart

theorem null : OfCalls env .null := by
  intro u hu
  cases hu
  exact ⟨(fun hnode => nomatch hnode), fun s hs => nomatch hs⟩

/-- A node that is made of literals and calls is a call. -/
theorem isCall {fields : Dict Json} (h : OfCalls env (.object fields))
    (hnode : isNode (.object fields) = true) : IsCall env fields := by
  obtain ⟨call, heq, hcall⟩ := (h _ .self).1 hnode
  cases heq
  exact hcall

/-- How often the calls written in a value call one function. -/
def weighing (env : Env) (registration : Nat) : Weighing where
  domain := OfCalls env
  weight v := (written env v).count registration
  domain_item := item
  domain_entry := entry
  weight_items {items} _ := by
    rw [written, writtenItems_eq, List.count_flatMap]
    exact Nat.le_refl _
  weight_entries {fields} h := by
    cases hnode : isNode (.object fields) with
    | false =>
        rw [written_object hnode, List.count_flatMap]
        exact Nat.le_refl _
    | true =>
        -- A call calls nothing for its properties.
        have hzero : ∀ e ∈ fields, (written env e.2).count registration = 0 := fun e he => by
          rw [((h.isCall hnode).literal e he).written_eq_nil]
          rfl
        rw [List.map_congr_left hzero, Weighing.sum_zero]
        exact Nat.zero_le _

theorem builds (env : Env) (registration : Nat) :
    (weighing env registration).Builds (weighing env registration) where
  keeps h := ⟨h, Nat.le_refl _⟩
  null := ⟨null, rfl⟩
  array {items} h := by
    refine ⟨array h, Nat.le_of_eq ?_⟩
    show (written env (.array items)).count registration = _
    rw [written, writtenItems_eq, List.count_flatMap]
    rfl
  object {fields} h hnode := by
    refine ⟨object h hnode, Nat.le_of_eq ?_⟩
    show (written env (.object fields)).count registration = _
    rw [written_object hnode, List.count_flatMap]
    rfl

end OfCalls

end Written

/-! ### The function of a call -/

/-- Literals weigh nothing. -/
def Inert.weighing (env : Env) : Weighing := .weightless (Inert env) Inert.item Inert.entry

theorem Inert.builds (env : Env) : (weighing env).Builds (weighing env) where
  keeps h := ⟨h, Nat.le_refl 0⟩
  null := by
    refine ⟨fun u hu => ?_, rfl⟩
    cases hu
    exact ⟨rfl, fun s hs => nomatch hs⟩
  array h := by
    refine ⟨fun u hu => ?_, Nat.zero_le _⟩
    cases hu with
    | self => exact ⟨rfl, fun s hs => nomatch hs⟩
    | item hv hpart => exact h _ hv u hpart
  object h hnode := by
    refine ⟨fun u hu => ?_, Nat.zero_le _⟩
    cases hu with
    | self => exact ⟨hnode, fun s hs => nomatch hs⟩
    | entry he hpart => exact h _ he u hpart

namespace Evaluation

variable {env : Env} {depth : Nat} {call : Dict Json} {props : Props} {w w' : World}

/-- The properties of a call are those that are written, and literals. -/
theorem writtenProps?_of_gather (hcall : IsCall env call)
    (h : gather (eval env depth) .customFunctions call w = (some (.ok props), w')) :
    writtenProps? .customFunctions call = some props ∧ ∀ e ∈ props, Inert env e.2 := by
  have hown := Weighing.ownProps_fits (W := Inert.weighing env) (k := .customFunctions)
    fun e he _ => hcall.literal e he
  rcases gather_eq_ok h with ⟨hchildren, rfl, -⟩ | ⟨children, items, hchildren, hitems, hplaced⟩
  · rw [writtenProps?, hchildren]
    exact ⟨rfl, hown.covers⟩
  · have hliteral : Inert env children := hcall.literal _ (Dict.mem_of_get? hchildren)
    rcases childList_eq_ok hitems with ⟨rfl, -⟩ | ⟨hother, hcomputed⟩
    · have plain : Children.MakesNoNode .customFunctions items := trivial
      rw [writtenProps?, hchildren]
      dsimp only
      rw [hplaced]
      exact ⟨rfl, (Weighing.placeChildren_fits (Inert.builds env) (Inert.builds env) hown
        hliteral.item plain hplaced).covers⟩
    · exact absurd (hliteral.eq_of_eval hcomputed).symm (hother items)

/-- Operands that are literals have the values that are written. -/
theorem operands_of_inert (literal : ∀ e ∈ props, Inert env e.2) {names : List String}
    {operands : Operands}
    (h : (inside (eval env depth)).operands props names w = (some (.ok operands), w')) :
    operands = names.map fun name => (name, Dict.get? props name) := by
  induction names generalizing w operands with
  | nil =>
      cases h
      rfl
  | cons name names ih =>
      obtain ⟨e, -, he⟩ | ⟨operand, w₁, hoperand, hmore⟩ := Run.andThen_finished h
      · cases he
      obtain ⟨e, -, he⟩ | ⟨more, w₂, hrest, hlist⟩ := Run.andThen_finished hmore
      · cases he
      cases hlist
      obtain ⟨e, -, he⟩ | ⟨value, w₃, hvalue, hpair⟩ := Run.andThen_finished hoperand
      · cases he
      cases hpair
      rw [ih hrest, List.map_cons]
      cases hget : Dict.get? props name with
      | none =>
          rw [hget] at hvalue
          cases hvalue
          rfl
      | some v =>
          rw [hget] at hvalue
          obtain ⟨e, -, he⟩ | ⟨u, w₄, hu, hsome⟩ := Run.andThen_finished hvalue
          · cases he
          cases hsome
          rw [(literal _ (Dict.mem_of_get? hget)).eq_of_eval (eval_of_inside hu)]

/-- **A call calls the function that is written in it.** -/
theorem callees_of_gather (hcall : IsCall env call)
    (h : gather (eval env depth) .customFunctions call w = (some (.ok props), w'))
    {names : List String} {operands : Operands} {w₁ w₂ : World}
    (hoperands : (inside (eval env depth)).operands props ("functionPath" :: names) w₁ =
      (some (.ok operands), w₂)) {registered : String} {f : HostFunction}
    (hfind : FunctionMap.find? (env.options.functions.getD [])
      ((Operands.string? operands "functionPath").getD "") = some (registered, f)) :
    callees env call = [f.registration] := by
  obtain ⟨hprops, hliteral⟩ := writtenProps?_of_gather hcall h
  have hpath : (Operands.string? operands "functionPath").getD "" = writtenPath props := by
    rw [operands_of_inert hliteral hoperands, Operands.string?, Operands.value?, List.map_cons,
      writtenPath]
    simp [Dict.get?]
  rw [hpath] at hfind
  rw [callees, hprops]
  dsimp only
  rw [hfind]
  rfl

end Evaluation

/-! ### Calls of literal arguments -/

namespace HostCall

variable {env : Env} (c : HostCall) (cached : Bool)

/-- The node that makes a call of literal arguments is a call of them. -/
theorem isCall_node (known : env.registry.resolve? "CUSTOM_FUNCTIONS" = some .customFunctions)
    (reads : env.options.readsStrings = false) (path : isBindingName c.path = false)
    (args : ∀ v ∈ c.args, Inert env v) : IsCall env (c.node cached) where
  operator := c.operatorOf?_node known cached
  noFragment := by simp [node, Dict.hasKey, Dict.get?, Key.fragment]
  literal e he := by
    simp only [node, List.mem_cons, List.not_mem_nil, or_false] at he
    obtain rfl | rfl | rfl | rfl := he
    · exact .text reads (by decide)
    · exact .text reads path
    · exact ((Inert.builds env).array args).1
    · intro u hu
      cases hu
      exact ⟨rfl, fun s hs => nomatch hs⟩

theorem callees_node : Evaluation.callees env (c.node cached) =
    (FunctionMap.find? (env.options.functions.getD []) c.path).toList.map fun found =>
      found.2.registration := by
  have hchildren : Dict.get? (c.node cached) Key.children = none := by
    simp [node, Dict.get?, Key.children]
  have hpath : Evaluation.writtenPath (c.props cached) = c.path := by
    simp [Evaluation.writtenPath, props, Dict.get?, Json.asString?]
  rw [Evaluation.callees, Evaluation.writtenProps?, hchildren]
  dsimp only
  rw [c.ownProps_node, hpath]

end HostCall

end JsonExpr
