import JsonExpr.Proofs.DictOrder
import JsonExpr.Proofs.Evaluation.Replacement

/-!
# Objects from lists of entries

An object is built from a list of entries, each with a key and a value.  If the list is computed,
its elements are entries once they are evaluated.  If the list is written out, an element has to be
an entry as it stands: its key and its value are evaluated, and an element without them is passed
over, whatever it would come to.  So a node, or a bound name, that comes to an entry is kept in a
list that is computed, and dropped from one that is written out.

Main definitions:

* `JsonExpr.Evaluation.TakesEntries` — a node that builds an object, without its entries;
* `JsonExpr.Evaluation.IsEntry` — values with a key and a value that evaluate to themselves;
* `JsonExpr.Evaluation.writtenOut` — what belongs to the elements that are entries as they stand.

Main results:

* `JsonExpr.Branching.collect_eq` — the keys of the object stand where they are first given, with
  what they are last given;
* `JsonExpr.Evaluation.fields_of_entry` — an entry that is written out comes to its key and value;
* `JsonExpr.Evaluation.eval_computed`, `JsonExpr.Evaluation.eval_written` — what the object is for
  either kind of list;
* `JsonExpr.written_list_keeps_written_entries` — **a list that is written out gives the entries
  that are written out**;
* `JsonExpr.bound_entry_is_dropped` — so the two kinds of lists do not always agree.
-/

set_option autoImplicit false

namespace JsonExpr

/-- Keys stand where they are first given, with what they are last given. -/
theorem Branching.collect_eq (entries : List (Json × Json)) :
    ∃ fields, Branching.collect entries = .object fields ∧
      Dict.keys fields = (entries.map fun entry => entry.1.toText).eraseDups ∧
      ∀ key, Dict.get? fields key =
        Dict.get? (entries.map fun entry => (entry.1.toText, entry.2)).reverse key := by
  refine ⟨_, rfl, ?_, fun key => ?_⟩
  · rw [Dict.keys_ofPairs, Dict.keys, List.map_map]
    rfl
  · rw [Dict.ofPairs, Dict.get?_extend]
    exact Option.or_none

namespace Evaluation

/-! ### Entries that are written out -/

/-- A value with a key and a value that evaluate to themselves. -/
structure IsEntry (env : Env) (scope : Scope) (v : Json) (pair : Json × Json) : Prop where
  entry : Branching.entry? v = some pair
  key : Silently env scope pair.1 pair.1
  value : Silently env scope pair.2 pair.2

/-- What belongs to the elements of a list that are entries as they stand. -/
def writtenOut {α : Type} (items : List Json) (as : List α) : List α :=
  ((items.zip as).filter fun e => (Branching.entry? e.1).isSome).map Prod.snd

theorem writtenOut_cons {α : Type} (item : Json) (a : α) (items : List Json) (as : List α) :
    writtenOut (item :: items) (a :: as) =
      if (Branching.entry? item).isSome then a :: writtenOut items as else writtenOut items as := by
  unfold writtenOut
  rw [List.zip_cons_cons, List.filter_cons]
  cases (Branching.entry? item).isSome <;> rfl

/-- Nothing is lost if all elements are entries. -/
theorem writtenOut_eq_self {α : Type} {items : List Json} {as : List α}
    (hlength : items.length = as.length)
    (h : ∀ item ∈ items, (Branching.entry? item).isSome = true) : writtenOut items as = as := by
  have hall : (items.zip as).filter (fun e => (Branching.entry? e.1).isSome) = items.zip as :=
    List.filter_eq_self.mpr fun e he => h e.1 (List.of_mem_zip he).1
  rw [writtenOut, hall, List.map_snd_zip (Nat.le_of_eq hlength.symm)]

theorem filterMap_entry? {env : Env} {scope : Scope} {vs : List Json} {pairs : List (Json × Json)}
    (entries : List.Forall₂ (IsEntry env scope) vs pairs) :
    vs.filterMap Branching.entry? = pairs := by
  induction entries with
  | nil => rfl
  | cons hentry _ ih => rw [List.filterMap_cons_some hentry.entry, ih]

theorem eq_object_of_entry? {v key value : Json} (h : Branching.entry? v = some (key, value)) :
    ∃ fields, v = .object fields ∧ Dict.get? fields "key" = some key ∧
      Dict.get? fields "value" = some value := by
  unfold Branching.entry? at h
  split at h
  · next hkey hvalue =>
    cases h
    cases v with
    | object fields => exact ⟨fields, rfl, hkey, hvalue⟩
    | _ => cases hkey
  · cases h

/-- A key and a value that come to others, within some depth. -/
def FieldsSettled (env : Env) (scope : Scope) (depth : Nat) (field pair : Json × Json) : Prop :=
  SettledAt env scope depth field.1 (.ok pair.1) ∧ SettledAt env scope depth field.2 (.ok pair.2)

section Settled

variable {env : Env} {scope : Scope} {depth depth' n : Nat}

theorem FieldsSettled.mono {field pair : Json × Json} (hle : depth ≤ depth')
    (h : FieldsSettled env scope depth field pair) : FieldsSettled env scope depth' field pair :=
  ⟨h.1.mono hle, h.2.mono hle⟩

/-- Entries of an object that are evaluated one after the other are so as a list. -/
theorem fields_ok {ev : Evaluator Failure} {fields fields' : Dict Json} {w w' : World}
    (h : ev.fields fields w = (some (.ok fields'), w')) :
    ∃ vs, Run.traverse ev (Dict.values fields) w = (some (.ok vs), w') ∧
      fields' = (Dict.keys fields).zip vs := by
  unfold Evaluator.fields at h
  induction fields generalizing w fields' with
  | nil =>
      cases h
      exact ⟨[], rfl, rfl⟩
  | cons e rest ih =>
      obtain ⟨b, w₁, rest', hfirst, hrest, rfl⟩ := Run.traverse_cons_ok h
      obtain ⟨_, -, ⟨⟩⟩ | ⟨v, w₂, hv, hpair⟩ := Run.andThen_finished hfirst
      cases hpair
      obtain ⟨vs, hvs, rfl⟩ := ih hrest
      refine ⟨v :: vs, ?_, rfl⟩
      show Run.traverse ev (e.2 :: Dict.values rest) w = _
      rw [Run.traverse, Run.andThen_of_ok hv, Run.andThen_of_ok hvs]
      rfl

/-- An object that is no node is evaluated to itself, or value by value. -/
theorem SettledAt.values (within : Scope.SettledWithin env n scope) {fields : Dict Json} {v : Json}
    (hnode : isNode (.object fields) = false)
    (h : SettledAt env scope depth (.object fields) (.ok v)) :
    v = .object fields ∨ ∃ fields', v = .object fields' ∧
      Dict.Related (fun _ x u => SettledAt env scope (depth + n) x (.ok u)) fields fields' := by
  obtain ⟨s₁, hrun, -⟩ := h scope (.refl env scope) (ResultCache.empty 0) []
  cases depth with
  | zero => cases hrun
  | succ depth =>
      rw [eval, node_leaf _ hnode, leaf] at hrun
      split at hrun
      · right
        obtain ⟨_, -, ⟨⟩⟩ | ⟨fields', w₁, hfields, hpure⟩ := Run.andThen_finished hrun
        cases hpure
        obtain ⟨vs, hvs, rfl⟩ := fields_ok hfields
        have hsettled := SettledAt.of_traverse within (.refl env scope) hvs (Nat.le_refl _)
        have hrelated := Dict.Related.zip (Dict.keys fields) (hsettled.imp fun _ _ hitem =>
          hitem.mono (Nat.add_le_add_right (Nat.le_succ depth) n))
        have hzip : (Dict.keys fields).zip (Dict.values fields) = fields := by
          rw [Dict.keys, Dict.values, List.zip_map']
          exact List.map_id fields
        rw [hzip] at hrelated
        exact ⟨_, rfl, hrelated⟩
      · left
        cases hrun
        rfl

/-- **An entry that is written out comes to the key and the value of what it comes to**, if these
evaluate to themselves. -/
theorem fields_of_entry (within : Scope.SettledWithin env n scope) {item v : Json}
    {field pair : Json × Json} (plain : isNode item = false)
    (hitem : Branching.entry? item = some field) (hv : Branching.entry? v = some pair)
    (settled : SettledAt env scope depth item (.ok v))
    (fixed : FieldsSettled env scope depth pair pair) :
    FieldsSettled env scope (depth + n) field pair := by
  obtain ⟨fields, rfl, hkeyField, hvalueField⟩ := eq_object_of_entry? hitem
  rcases settled.values within plain with rfl | ⟨fields', rfl, hrelated⟩
  · cases hitem.symm.trans hv
    exact fixed.mono (Nat.le_add_right depth n)
  · obtain ⟨_, ⟨⟩, hkeyField', hvalueField'⟩ := eq_object_of_entry? hv
    -- The key and the value of the item are related to those that it comes to.
    have hread : ∀ {name : String} {x u : Json}, Dict.get? fields name = some x →
        Dict.get? fields' name = some u → SettledAt env scope (depth + n) x (.ok u) := by
      intro name x u hx hu
      rcases hrelated.get? name with ⟨hnone, -⟩ | ⟨x', u', hx', hu', hsettled⟩
      · cases hnone.symm.trans hx
      · cases hx'.symm.trans hx
        cases hu'.symm.trans hu
        exact hsettled
    exact ⟨hread hkeyField hkeyField', hread hvalueField hvalueField'⟩

end Settled

/-- Within one depth, all elements of a list and the parts of their entries are settled. -/
theorem exists_settled {env : Env} {scope : Scope} {items vs : List Json}
    {pairs : List (Json × Json)} (comes : List.Forall₂ (Silently env scope) items vs)
    (entries : List.Forall₂ (IsEntry env scope) vs pairs) :
    ∃ n, Scope.SettledWithin env n scope ∧
      List.Forall₂ (fun item v => SettledAt env scope n item (.ok v)) items vs ∧
      List.Forall₂ (fun v pair => Branching.entry? v = some pair ∧
        FieldsSettled env scope n pair pair) vs pairs := by
  obtain ⟨n, within⟩ := Scope.exists_settledWithin env scope
  -- By induction on the list; each element raises the depth.
  induction comes generalizing pairs with
  | nil =>
      cases entries
      exact ⟨n, within, .nil, .nil⟩
  | cons hitem _ ih =>
      rcases entries with _ | ⟨hentry, hrest⟩
      obtain ⟨m, within', settled, fixed⟩ := ih hrest
      obtain ⟨d, hitem⟩ := hitem.exists_settledAt within
      obtain ⟨d₁, hkey⟩ := hentry.key.exists_settledAt within
      obtain ⟨d₂, hvalue⟩ := hentry.value.exists_settledAt within
      obtain ⟨enough, hm, hd, hd₁, hd₂⟩ :
          ∃ enough, m ≤ enough ∧ d ≤ enough ∧ d₁ ≤ enough ∧ d₂ ≤ enough :=
        ⟨m + d + d₁ + d₂, by omega, by omega, by omega, by omega⟩
      refine ⟨enough, within'.mono hm, .cons (hitem.mono hd) (settled.imp fun _ _ h => h.mono hm),
        .cons ⟨hentry.entry, hkey.mono hd₁, hvalue.mono hd₂⟩ (fixed.imp fun _ _ h => ?_)⟩
      exact ⟨h.1, h.2.mono hm⟩

/-! ### Operators -/

section Building

variable {env : Env} {scope : Scope} {n : Nat} {items vs : List Json}
  {pairs fields : List (Json × Json)} {props : Props}

theorem buildObject_of_array {ev : Evaluator OperatorFault}
    (h : Dict.get? props "properties" = some (.array items)) :
    Branching.buildObject env ev props =
      Run.traverse (Branching.evalEntry ev) (items.filterMap Branching.entry?) >>= fun entries =>
        pure (Branching.collect entries) := by
  rw [Branching.buildObject, h]

/-- A list that is computed gives the object of its entries. -/
theorem buildObject_of_computed {ev : Evaluator OperatorFault} {c : Json} {w w₁ : World}
    (h : Dict.get? props "properties" = some c) (computed : c.isArray = false)
    (hc : ev c w = (some (.ok (.array vs)), w₁)) :
    Branching.buildObject env ev props w =
      (some (.ok (Branching.collect (vs.filterMap Branching.entry?))), w₁) := by
  have hoperands : ev.operands props ["properties"] w =
      (some (.ok [("properties", some (.array vs))]), w₁) := by
    simp [Evaluator.operands, Run.traverse, Evaluator.optional, h, Run.andThen, hc, Run.value]
  have hchecked : env.checkOperands .buildObject [("properties", some (.array vs))] = .ok () := by
    unfold Env.checkOperands Env.check
    split <;> rfl
  rw [Branching.buildObject, h]
  cases c with
  | array _ => cases computed
  | _ => exact (Run.bind_of_ok hoperands).trans (Run.bind_of_ok (Asking.passes hchecked w₁))

/-- The entries that are written out come to the keys and values of what they come to. -/
theorem fields_of_entries (within : Scope.SettledWithin env n scope)
    (settled : List.Forall₂ (fun item v => SettledAt env scope n item (.ok v)) items vs)
    (fixed : List.Forall₂ (fun v pair => Branching.entry? v = some pair ∧
      FieldsSettled env scope n pair pair) vs pairs)
    (plain : ∀ item ∈ items, isNode item = true → Branching.entry? item = none) :
    List.Forall₂ (fun pair field => FieldsSettled env scope (n + n) field pair)
      (writtenOut items pairs) (items.filterMap Branching.entry?) := by
  induction settled generalizing pairs with
  | nil =>
      cases fixed
      exact .nil
  | @cons item _ _ _ hitem _ ih =>
      cases fixed with
      | cons hentry hfixed =>
          obtain ⟨hv, hfields⟩ := hentry
          obtain ⟨hnode, hplain⟩ := List.forall_mem_cons.mp plain
          have hrest := ih hfixed hplain
          rw [writtenOut_cons]
          cases hwritten : Branching.entry? item with
          | none =>
              rw [List.filterMap_cons_none hwritten]
              exact hrest
          | some field =>
              have hleaf : isNode item = false := by
                rw [Bool.eq_false_iff]
                exact fun h => nomatch (hnode h).symm.trans hwritten
              rw [List.filterMap_cons_some hwritten]
              exact .cons (fields_of_entry within hleaf hwritten hv hitem hfields) hrest

/-- Keys and values that are settled may be taken for what they come to. -/
theorem evalEntry_mirrors {pair field : Json × Json} (depth : Nat)
    (h : FieldsSettled env scope n field pair) :
    Run.Mirrors env scope Eq (Run.value pair)
      (Branching.evalEntry (inside (eval env (depth + n))) field) := by
  have hfirst : Run.Mirrors env scope Eq (Run.value pair.1)
      (inside (eval env (depth + n)) field.1) := (h.1.value_mirrors depth).mapFailure _
  have hsecond : Run.Mirrors env scope Eq (Run.value pair.2)
      (inside (eval env (depth + n)) field.2) := (h.2.value_mirrors depth).mapFailure _
  have hpair : (Run.value pair : Run OperatorFault (Json × Json)) =
      Run.value pair.1 >>= fun key => Run.value pair.2 >>= fun value => pure (key, value) := rfl
  rw [hpair]
  exact hfirst.bind_eq fun key => hsecond.bind_eq fun value => .value rfl

/-- Where the list is written out, the object is that of what its entries come to. -/
theorem buildObject_mirrors (depth : Nat)
    (h : List.Forall₂ (fun pair field => FieldsSettled env scope n field pair) pairs fields) :
    Run.Mirrors env scope Eq (Run.value (Branching.collect pairs))
      (Run.traverse (Branching.evalEntry (inside (eval env (depth + n)))) fields >>= fun pairs =>
        pure (Branching.collect pairs)) := by
  have hvalue : (Run.value (Branching.collect pairs) : Run OperatorFault Json) =
      Run.traverse Run.value pairs >>= fun pairs => pure (Branching.collect pairs) := by
    funext w
    have hall : Run.traverse (Run.value : _ → Run OperatorFault _) pairs w =
        (some (.ok pairs), w) :=
      Run.traverse_eq (List.forall₂_same.mpr fun pair _ => rfl)
    rw [Run.bind_of_ok hall]
    rfl
  rw [hvalue]
  exact (Run.Mirrors.traverse (fun _ _ hfield => evalEntry_mirrors depth hfield) h).bind_eq
    fun pairs => .value rfl

end Building

/-! ### Nodes -/

/-- A node that builds an object, without its entries.  It asks for no conversion. -/
structure TakesEntries (env : Env) (base : Dict Json) : Prop where
  operator : operatorOf? env base = some .buildObject
  noFragment : Dict.hasKey base Key.fragment = false
  noChildren : Dict.hasKey base Key.children = false
  noProperties : Dict.hasKey base "properties" = false
  noConversion : conversionOf base = none

section Nodes

variable {env : Env} {base : Dict Json} {x v c : Json} {items vs : List Json}
  {pairs : List (Json × Json)} {depth : Nat} {w w₁ : World}

theorem gather_entries (h : TakesEntries env base) (ev : Evaluator Failure) (x : Json) :
    gather ev .buildObject (withList base "properties" x) =
      Run.value (Dict.insert (ownProps OperatorKind.buildObject.schema base) "properties" x) := by
  have hproperty : isReserved "properties" = false ∧
      OperatorKind.buildObject.schema.canonicalName? "properties" = none := by decide
  rw [gather, get?_withList (by decide), Dict.hasKey_eq_false_iff.mp h.noChildren]
  simp [ownProps, withList, Dict.insert_eq_append h.noProperties, addProp, hproperty]

/-- A node with entries comes to the object that its operator builds. -/
theorem eval_of_built (h : TakesEntries env base)
    (hbuilt : ∀ props, Dict.get? props "properties" = some x →
      Branching.buildObject env (inside (eval env depth)) props (w.enter (Frame.ofNode base)) =
        (some (.ok v), w₁)) :
    eval env (depth + 1) (.object (withList base "properties" x)) w =
      (some (.ok v), w₁.leave (Frame.ofNode base)) := by
  have hget := Dict.get?_insert_self (ownProps OperatorKind.buildObject.schema base) "properties" x
  have hnoFallback : Dict.hasKey
      (Dict.insert (ownProps OperatorKind.buildObject.schema base) "properties" x) Key.fallback =
        false := hasKey_insert_of_ne (by decide) (hasKey_ownProps _ _) _
  have hmissing : missing .buildObject
      (Dict.insert (ownProps OperatorKind.buildObject.schema base) "properties" x) = [] := by
    refine List.filter_eq_nil_iff.mpr fun name hname => ?_
    obtain rfl : name = "properties" := List.mem_singleton.mp hname
    simp [Dict.hasKey, hget]
  rw [eval_withList h.operator h.noFragment (by decide) (by decide) (by decide) h.noProperties]
  refine Run.withFrame_of_eq ?_
  rw [operatorBody_of_gather h.operator
    (fun key hkey => get?_withList (by revert key; decide)) hnoFallback
    (by rw [gather_entries h, Run.value_apply]), apply_of_nothing_missing hmissing]
  exact settle_of_ok h.noConversion (hbuilt _ hget)

/-- A node is entered with the cache and the history that are there. -/
theorem enter_eq (w : World) (frame : Frame) :
    w.enter frame = ⟨(w.enter frame).scope, w.cache, w.history⟩ := by
  unfold World.enter
  split <;> rfl

/-- Where the list is computed, a node comes to the object of all entries. -/
theorem eval_computed (h : TakesEntries env base) (computed : c.isArray = false)
    (hc : Silently env (w.enter (Frame.ofNode base)).scope c (.array vs))
    (entries : List.Forall₂ (IsEntry env (w.enter (Frame.ofNode base)).scope) vs pairs) :
    ∃ enough, ∀ depth, enough ≤ depth → ∃ s₁,
      eval env depth (.object (withList base "properties" c)) w =
        (some (.ok (Branching.collect pairs)), ⟨s₁, w.cache, w.history⟩) := by
  obtain ⟨d, hc⟩ := hc
  obtain ⟨s₁, hc⟩ := hc w.cache w.history
  rw [← enter_eq] at hc
  have hrun := eval_of_built h fun props hprops =>
    buildObject_of_computed hprops computed (inside_of_ok hc)
  rw [leave_eq, filterMap_entry? entries] at hrun
  exact ⟨d + 1, fun depth hdepth => ⟨_, eval_mono hdepth _ w _ _ hrun⟩⟩

/-- Where the list is written out, a node comes to the object of the entries that are. -/
theorem eval_written (h : TakesEntries env base)
    (comes : List.Forall₂ (Silently env (w.enter (Frame.ofNode base)).scope) items vs)
    (entries : List.Forall₂ (IsEntry env (w.enter (Frame.ofNode base)).scope) vs pairs)
    (plain : ∀ item ∈ items, isNode item = true → Branching.entry? item = none) :
    ∃ enough, ∀ depth, enough ≤ depth → ∃ s₁,
      eval env depth (.object (withList base "properties" (.array items))) w =
        (some (.ok (Branching.collect (writtenOut items pairs))), ⟨s₁, w.cache, w.history⟩) := by
  obtain ⟨n, within, settled, fixed⟩ := exists_settled comes entries
  have hfields := fields_of_entries within settled fixed plain
  have hcache : (w.enter (Frame.ofNode base)).cache = w.cache := by
    rw [enter_eq]
  obtain ⟨s₁, hbuilt⟩ := (buildObject_mirrors 0 hfields).of_world (.refl env _) rfl
  rw [hcache, World.history_enter] at hbuilt
  have hrun := eval_of_built h fun props hprops => by
    rw [buildObject_of_array hprops]
    exact hbuilt
  rw [leave_eq] at hrun
  exact ⟨_, fun depth hdepth => ⟨_, eval_mono hdepth _ w _ _ hrun⟩⟩

end Nodes

/-! ### Bound entries -/

/-- An entry with a text for its key. -/
def textEntry (key : String) (value : Json) : Json :=
  .object [("key", .string key), ("value", value)]

/-- A node that binds an entry to one name, and a list of entries to another. -/
def boundEntries (e : Json) (es : List Json) : Dict Json :=
  [("operator", .string "buildObject"), ("$e", e), ("$es", .array es)]

section Bound

variable {env : Env} {key : String} {value e : Json} {es : List Json}

theorem inert_textEntry (reads : env.options.readsStrings = false)
    (name : isBindingName key = false) (h : Inert env value) : Inert env (textEntry key value) := by
  refine .object ?_ rfl
  simp only [List.forall_mem_cons, List.not_mem_nil, false_implies, implies_true, and_true]
  exact ⟨.text reads name, h⟩

theorem isEntry_textEntry (reads : env.options.readsStrings = false)
    (name : isBindingName key = false) (h : Inert env value) (scope : Scope) :
    IsEntry env scope (textEntry key value) (.string key, value) :=
  ⟨rfl, (Inert.text reads name).silently scope, h.silently scope⟩

theorem takesEntries_boundEntries (known : env.registry = Registry.full) (e : Json)
    (es : List Json) : TakesEntries env (boundEntries e es) where
  operator := by
    have hname : (Dict.get? (boundEntries e es) Key.operator).bind Json.asString? =
        some "buildObject" := rfl
    rw [operatorOf?, hname, Option.bind_some, known]
    exact Registry.resolve?_full ⟨"buildObject", by decide, rfl⟩
  noFragment := rfl
  noChildren := rfl
  noProperties := rfl
  noConversion := rfl

/-- Inside such a node, the two names are in scope. -/
theorem enter_boundEntries (e : Json) (es : List Json) (w : World) :
    (w.enter (Frame.ofNode (boundEntries e es))).scope =
      [("$e", ⟨e, none, 0⟩), ("$es", ⟨.array es, none, 0⟩)] :: w.scope := by
  have hnames : isBindingName "operator" = false ∧ isBindingName "$e" = true ∧
      isBindingName "$es" = true := by decide
  simp [World.enter, Frame.ofNode, boundEntries, Dict.filterKeys, Dict.mapValues, hnames]

theorem silently_entry (reads : env.options.readsStrings = false) (h : Inert env e)
    (es : List Json) (w : World) :
    Silently env (w.enter (Frame.ofNode (boundEntries e es))).scope (.string "$e") e := by
  rw [enter_boundEntries]
  have hget : Dict.get? ([("$e", ⟨e, none, 0⟩), ("$es", ⟨.array es, none, 0⟩)] : Frame) "$e" =
      some ⟨e, none, 0⟩ := rfl
  exact .of_bound (referenceOf?_of_name reads (by decide)) hget rfl (h.silently w.scope)

theorem silently_entries (reads : env.options.readsStrings = false)
    (h : ∀ v ∈ es, Inert env v) (e : Json) (w : World) :
    Silently env (w.enter (Frame.ofNode (boundEntries e es))).scope (.string "$es")
      (.array es) := by
  rw [enter_boundEntries]
  have hget : Dict.get? ([("$e", ⟨e, none, 0⟩), ("$es", ⟨.array es, none, 0⟩)] : Frame) "$es" =
      some ⟨.array es, none, 0⟩ := rfl
  exact .of_bound (referenceOf?_of_name reads (by decide)) hget rfl
    ((Inert.array h).silently w.scope)

end Bound

end Evaluation

open Evaluation (IsEntry Silently TakesEntries withList writtenOut)

/-- **A list that is written out gives the entries that are written out.**  Let expressions come,
without a question and without the cache, to objects with a key and a value that evaluate to
themselves, and let those expressions that are nodes not have a key and a value of their own.  A
node that builds an object from a list that it computes, of what the expressions come to, gives the
object of all entries.  If the expressions are written out as the list, it gives the object of those
that have a key and a value as they stand, so the two are the same if all of them do.  The keys of
an object stand where they are first given, with what they are last given. -/
theorem written_list_keeps_written_entries {env : Env} {base : Dict Json}
    (h : TakesEntries env base) {w : World} {items vs : List Json} {pairs : List (Json × Json)}
    {c : Json}
    (comes : List.Forall₂ (Silently env (w.enter (Frame.ofNode base)).scope) items vs)
    (entries : List.Forall₂ (IsEntry env (w.enter (Frame.ofNode base)).scope) vs pairs)
    (plain : ∀ item ∈ items, isNode item = true → Branching.entry? item = none)
    (computed : c.isArray = false)
    (hc : Silently env (w.enter (Frame.ofNode base)).scope c (.array vs)) :
    (∃ enough, ∀ depth, enough ≤ depth →
      (∃ scope, eval env depth (.object (withList base "properties" c)) w =
        (some (.ok (Branching.collect pairs)), ⟨scope, w.cache, w.history⟩)) ∧
      ∃ scope, eval env depth (.object (withList base "properties" (.array items))) w =
        (some (.ok (Branching.collect (writtenOut items pairs))), ⟨scope, w.cache, w.history⟩)) ∧
    ((∀ item ∈ items, (Branching.entry? item).isSome = true) → writtenOut items pairs = pairs) ∧
    ∀ given : List (Json × Json), ∃ fields, Branching.collect given = .object fields ∧
      Dict.keys fields = (given.map fun pair => pair.1.toText).eraseDups ∧
      ∀ key, Dict.get? fields key =
        Dict.get? (given.map fun pair => (pair.1.toText, pair.2)).reverse key := by
  obtain ⟨n, hcomputed⟩ := Evaluation.eval_computed h computed hc entries
  obtain ⟨m, hwritten⟩ := Evaluation.eval_written h comes entries plain
  have hlength : items.length = pairs.length := comes.length_eq.trans entries.length_eq
  refine ⟨⟨max n m, fun depth hdepth => ⟨?_, ?_⟩⟩, Evaluation.writtenOut_eq_self hlength,
    Branching.collect_eq⟩
  · exact hcomputed depth (Nat.le_trans (Nat.le_max_left n m) hdepth)
  · exact hwritten depth (Nat.le_trans (Nat.le_max_right n m) hdepth)

/-- A bound name comes to one of two entries.  Both are kept if the list is computed; if it is
written out, the one with the name is dropped. -/
theorem second_entry_is_written_out :
    let env : Env := ⟨Options.empty, Registry.full⟩
    let a : Json := Evaluation.textEntry "a" (Json.int 1)
    let b : Json := Evaluation.textEntry "b" (Json.int 2)
    let base : Dict Json := Evaluation.boundEntries a [a, b]
    let w : World := ⟨[], ResultCache.empty 0, []⟩
    ∃ enough, ∀ depth, enough ≤ depth →
      (∃ scope, eval env depth (.object (withList base "properties" (.string "$es"))) w =
        (some (.ok (.object [("a", Json.int 1), ("b", Json.int 2)])),
          ⟨scope, ResultCache.empty 0, []⟩)) ∧
      ∃ scope, eval env depth
          (.object (withList base "properties" (.array [.string "$e", b]))) w =
        (some (.ok (.object [("b", Json.int 2)])), ⟨scope, ResultCache.empty 0, []⟩) := by
  intro env a b base w
  have hvalue : ∀ n, Inert env (.number n) := Inert.number env
  have ha : Inert env a := Evaluation.inert_textEntry rfl (by decide) (hvalue _)
  have hb : Inert env b := Evaluation.inert_textEntry rfl (by decide) (hvalue _)
  have takes : TakesEntries env base := Evaluation.takesEntries_boundEntries rfl a [a, b]
  have comes : List.Forall₂ (Silently env (w.enter (Frame.ofNode base)).scope)
      [.string "$e", b] [a, b] :=
    .cons (Evaluation.silently_entry rfl ha [a, b] w) (.cons (hb.silently _) .nil)
  have entries : List.Forall₂ (IsEntry env (w.enter (Frame.ofNode base)).scope) [a, b]
      [(.string "a", Json.int 1), (.string "b", Json.int 2)] :=
    .cons (Evaluation.isEntry_textEntry rfl (by decide) (hvalue _) _)
      (.cons (Evaluation.isEntry_textEntry rfl (by decide) (hvalue _) _) .nil)
  have plain : ∀ item ∈ [Json.string "$e", b],
      isNode item = true → Branching.entry? item = none :=
    List.forall_mem_cons.mpr ⟨fun _ => rfl, List.forall_mem_singleton.mpr fun h => nomatch h⟩
  have computed : Silently env (w.enter (Frame.ofNode base)).scope (.string "$es")
      (.array [a, b]) :=
    Evaluation.silently_entries rfl
      (List.forall_mem_cons.mpr ⟨ha, List.forall_mem_singleton.mpr hb⟩) a w
  exact (written_list_keeps_written_entries takes comes entries plain rfl computed).1

/-- A name that is bound to an entry comes to it, and the list of this name, written out, gives an
empty object, where the list that is computed gives the entry. -/
theorem bound_entry_is_dropped :
    let env : Env := ⟨Options.empty, Registry.full⟩
    let a : Json := Evaluation.textEntry "a" (Json.int 1)
    let base : Dict Json := Evaluation.boundEntries a [a]
    let w : World := ⟨[], ResultCache.empty 0, []⟩
    let inside : Scope := (w.enter (Frame.ofNode base)).scope
    Silently env inside (.string "$e") a ∧ IsEntry env inside a (.string "a", Json.int 1) ∧
      Silently env inside (.string "$es") (.array [a]) ∧
      ∃ enough, ∀ depth, enough ≤ depth →
        (∃ scope, eval env depth (.object (withList base "properties" (.string "$es"))) w =
          (some (.ok (.object [("a", Json.int 1)])), ⟨scope, ResultCache.empty 0, []⟩)) ∧
        ∃ scope, eval env depth
            (.object (withList base "properties" (.array [.string "$e"]))) w =
          (some (.ok (.object [])), ⟨scope, ResultCache.empty 0, []⟩) := by
  intro env a base w inside
  have hvalue : Inert env (Json.int 1) := Inert.number env _
  have ha : Inert env a := Evaluation.inert_textEntry rfl (by decide) hvalue
  have takes : TakesEntries env base := Evaluation.takesEntries_boundEntries rfl a [a]
  have name : Silently env inside (.string "$e") a := Evaluation.silently_entry rfl ha [a] w
  have entry : IsEntry env inside a (.string "a", Json.int 1) :=
    Evaluation.isEntry_textEntry rfl (by decide) hvalue _
  have list : Silently env inside (.string "$es") (.array [a]) :=
    Evaluation.silently_entries rfl (List.forall_mem_singleton.mpr ha) a w
  obtain ⟨n, hcomputed⟩ := Evaluation.eval_computed takes rfl list (.cons entry .nil)
  obtain ⟨m, hwritten⟩ := Evaluation.eval_written takes (.cons name .nil) (.cons entry .nil)
    (List.forall_mem_singleton.mpr fun _ => rfl)
  exact ⟨name, entry, list, max n m, fun depth hdepth =>
    ⟨hcomputed depth (Nat.le_trans (Nat.le_max_left n m) hdepth),
      hwritten depth (Nat.le_trans (Nat.le_max_right n m) hdepth)⟩⟩

end JsonExpr
