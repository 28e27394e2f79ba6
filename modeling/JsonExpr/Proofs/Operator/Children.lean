import JsonExpr.Operator.Children
import JsonExpr.Proofs.Json.Spot

/-!
# Properties and children

Children are a way of writing properties, and what becomes of them can be told without evaluating
anything.  No operator but `OBJECT_PROPERTIES` takes a fallback from its children.  And for the
operators that choose what they evaluate, a spot of the node goes to a spot of the properties: nodes
that differ at the one have properties that differ at the other, if they differ at all, since a
property may be written twice.

Main definitions:

* `JsonExpr.OperatorKind.childNames` — the properties that children may become;
* `JsonExpr.Spot.placed?` — where a spot of a node goes among the properties.

Main results:

* `JsonExpr.hasKey_ownProps` — no property that a node writes down is a fallback;
* `JsonExpr.hasKey_placeChildren` — children become no other properties;
* `JsonExpr.ownProps_agreeOff`, `JsonExpr.placeChildren_agreeOff` — **nodes that differ at a spot
  have properties that differ where the spot goes**.
-/

set_option autoImplicit false

namespace JsonExpr

/-! ### Where properties come from -/

/-- A property that is there after one is added was there before or is the one that was added. -/
theorem mem_of_mem_addProp {schema : OperatorSchema} {props : Props} {key : String} {v : Json}
    {e : String × Json} (h : e ∈ addProp schema props key v) :
    e ∈ props ∨ isReserved key = false ∧ e = ((schema.canonicalName? key).getD key, v) := by
  unfold addProp at h
  split at h
  · exact .inl h
  · next hreserved =>
    refine (Or.imp_right fun he => ⟨Bool.eq_false_iff.mpr hreserved, he⟩) ?_
    cases hcanonical : schema.canonicalName? key with
    | none =>
        rw [hcanonical] at h
        exact Dict.mem_of_mem_insert h
    | some canonical =>
        rw [hcanonical] at h
        dsimp only at h
        unfold Dict.insertIfNew at h
        split at h
        · exact .inl h
        · exact Dict.mem_of_mem_insert h

/-- Properties that are no aliases are written one after the other. -/
theorem foldl_addProp {schema : OperatorSchema} {entries : Dict Json}
    (h : ∀ key ∈ Dict.keys entries, isReserved key = false ∧ schema.canonicalName? key = none)
    (props : Props) :
    entries.foldl (fun props e => addProp schema props e.1 e.2) props =
      Dict.extend props entries := by
  unfold Dict.extend
  induction entries generalizing props with
  | nil => rfl
  | cons e rest ih =>
      obtain ⟨hfree, hcanonical⟩ := h e.1 List.mem_cons_self
      have hadd : addProp schema props e.1 e.2 = Dict.insert props e.1 e.2 := by
        rw [addProp, hfree, hcanonical]
        rfl
      rw [List.foldl_cons, List.foldl_cons, hadd]
      exact ih (fun key hkey => h key (List.mem_cons_of_mem _ hkey)) _

/-- The properties of an operator node without aliases are the entries behind the operator. -/
theorem ownProps_operator_cons {schema : OperatorSchema} {props : Props} (operator : Json)
    (h : ∀ key ∈ Dict.keys props, isReserved key = false ∧ schema.canonicalName? key = none)
    (hnodup : Dict.KeysNodup props) :
    ownProps schema ((Key.operator, operator) :: props) = props := by
  have hreserved : isReserved Key.operator = true := by decide
  have hadd : addProp schema [] Key.operator operator = [] := if_pos hreserved
  rw [ownProps, List.foldl_cons, hadd, foldl_addProp h]
  exact Dict.extend_eq_append hnodup

/-- A property of a node is an entry of it that not every node reads, under the name that the key of
the entry stands for. -/
theorem exists_of_mem_ownProps {schema : OperatorSchema} {node : Dict Json} {e : String × Json}
    (h : e ∈ ownProps schema node) :
    ∃ key, (key, e.2) ∈ node ∧ isReserved key = false ∧
      (schema.canonicalName? key).getD key = e.1 := by
  -- By induction on the node, for all properties that may be there before.
  have hfold : ∀ props : Props,
      e ∈ node.foldl (fun props entry => addProp schema props entry.1 entry.2) props →
      e ∈ props ∨ ∃ key, (key, e.2) ∈ node ∧ isReserved key = false ∧
        (schema.canonicalName? key).getD key = e.1 := by
    clear h
    induction node with
    | nil => exact fun _ h => .inl h
    | cons entry rest ih =>
        intro props h
        rcases ih _ h with h | ⟨key, hkey, hname⟩
        · rcases mem_of_mem_addProp h with h | ⟨hreserved, rfl⟩
          · exact .inl h
          · exact .inr ⟨entry.1, List.mem_cons_self, hreserved, rfl⟩
        · exact .inr ⟨key, List.mem_cons_of_mem _ hkey, hname⟩
  exact (hfold [] h).resolve_left (List.not_mem_nil)

/-- The branches of a match are called so or have an alias. -/
theorem branches_or_arms {key : String}
    (h : (OperatorKind.matching.schema.canonicalName? key).getD key = "branches") :
    key = "branches" ∨ key = "arms" := by
  cases hcanonical : OperatorKind.matching.schema.canonicalName? key with
  | none =>
      rw [hcanonical] at h
      exact .inl h
  | some canonical =>
      rw [hcanonical] at h
      obtain ⟨p, hp, hname⟩ := Option.map_eq_some_iff.mp hcanonical
      have halias := List.find?_some hp
      have hmem := List.mem_of_find?_eq_some hp
      have hbranches : p.name = "branches" := hname.trans h
      simp only [OperatorKind.schema, Catalog.matching, List.mem_cons, List.not_mem_nil,
        or_false] at hmem
      rcases hmem with rfl | rfl
      · exact absurd hbranches (by decide)
      · simp only [ParamSchema.optional, List.contains_cons, List.contains_nil, Bool.or_false,
          beq_iff_eq] at halias
        exact .inr halias

/-! ### No property is a fallback -/

section Fallback

variable {props : Props}

theorem fallback_not_parameter (k : OperatorKind) :
    Key.fallback ∉ k.schema.parameters.map (·.name) := by
  cases k <;> decide

theorem hasKey_addProp (k : OperatorKind) (h : Dict.hasKey props Key.fallback = false)
    (key : String) (v : Json) :
    Dict.hasKey (addProp k.schema props key v) Key.fallback = false := by
  unfold addProp
  split
  · exact h
  · next hreserved =>
    split
    · next name hname =>
      obtain ⟨p, hp, rfl⟩ := Option.map_eq_some_iff.mp hname
      have hne : Key.fallback ≠ p.name := fun heq => fallback_not_parameter k
        (List.mem_map.mpr ⟨p, List.mem_of_find?_eq_some hp, heq.symm⟩)
      unfold Dict.insertIfNew
      split
      · exact h
      · simp [Dict.hasKey_insert, hne, h]
    · have hne : Key.fallback ≠ key := by
        rintro rfl
        exact hreserved (by decide)
      simp [Dict.hasKey_insert, hne, h]

/-- The properties that a node writes down name no fallback. -/
theorem hasKey_ownProps (k : OperatorKind) (node : Dict Json) :
    Dict.hasKey (ownProps k.schema node) Key.fallback = false := by
  -- By induction on the node, for all properties that may be there before.
  have hfold : ∀ props : Props, Dict.hasKey props Key.fallback = false →
      Dict.hasKey (node.foldl (fun props entry => addProp k.schema props entry.1 entry.2) props)
        Key.fallback = false := by
    induction node with
    | nil => exact fun _ h => h
    | cons entry rest ih => exact fun _ h => ih _ (hasKey_addProp k h entry.1 entry.2)
  exact hfold [] rfl

end Fallback

/-! ### What children become -/

/-- The properties that the children of an operator may become. -/
def OperatorKind.childNames (k : OperatorKind) : List String :=
  match k with
  | .conditional | .regex | .split | .passthru => k.schema.parameters.map (·.name)
  | .objectProperties => ["property", Key.fallback]
  | .stringSubstitution => ["string", "substitutions"]
  | .pgSql => ["query", "values"]
  | .customFunctions => ["functionPath", "args"]
  | .get | .post => ["url", "parameters", "returnProperty"]
  | .graphQL => ["query", "url", "variables", "returnNode"]
  | .buildObject => ["properties"]
  | .matching => ["matchExpression", "branches"]
  | _ => ["values"]

section Placed

variable {props : Props} {key : String}

theorem hasKey_byNames {names : List String} (hnames : key ∉ names)
    (h : Dict.hasKey props key = false) (children : List Json) :
    Dict.hasKey (Children.byNames names children props) key = false := by
  rw [Children.byNames, Dict.hasKey_extend, h, Dict.hasKey_zip hnames]
  rfl

theorem hasKey_insert_of_ne {name : String} (hname : key ≠ name)
    (h : Dict.hasKey props key = false) (v : Json) :
    Dict.hasKey (Dict.insert props name v) key = false := by
  simp [Dict.hasKey_insert, hname, h]

theorem hasKey_headAndRest {first rest : String} (hkey : key ∉ [first, rest])
    (h : Dict.hasKey props key = false) (children : List Json) :
    Dict.hasKey (Children.headAndRest first rest children props) key = false := by
  simp only [List.mem_cons, List.not_mem_nil, or_false, not_or] at hkey
  exact hasKey_insert_of_ne hkey.2 (hasKey_byNames (by simpa using hkey.1) h children) _

theorem hasKey_placeRequest {fields last : String} (hkey : key ∉ [fields, last])
    (h : Dict.hasKey props key = false) (children : List Json) :
    Dict.hasKey (Children.placeRequest fields last children props) key = false := by
  simp only [List.mem_cons, List.not_mem_nil, or_false, not_or] at hkey
  unfold Children.placeRequest
  dsimp only
  split
  · exact hasKey_insert_of_ne hkey.2 (hasKey_insert_of_ne hkey.1 h _) _
  · exact hasKey_insert_of_ne hkey.1 h _

/-- Children become no other properties. -/
theorem hasKey_placeChildren {k : OperatorKind} (hkey : key ∉ k.childNames)
    (h : Dict.hasKey props key = false) {children : List Json} {placed : Props}
    (hplaced : placeChildren k children props = .ok placed) : Dict.hasKey placed key = false := by
  have hone : ∀ {name : String}, key ∉ [name] → key ≠ name := fun hk => by simpa using hk
  have hparts : ∀ names more : List String, key ∉ names ++ more → key ∉ names ∧ key ∉ more :=
    fun _ _ hk => by simpa using hk
  cases k <;> simp only [placeChildren, Except.ok.injEq] at hplaced
  case conditional | regex | split | passthru | objectProperties =>
    exact hplaced ▸ hasKey_byNames hkey h _
  case stringSubstitution | pgSql | customFunctions =>
    exact hplaced ▸ hasKey_headAndRest hkey h _
  case get | post =>
    obtain ⟨hfirst, hrest⟩ := hparts ["url"] ["parameters", "returnProperty"] hkey
    exact hplaced ▸ hasKey_placeRequest hrest (hasKey_byNames hfirst h _) _
  case graphQL =>
    obtain ⟨hfirst, hrest⟩ := hparts ["query", "url"] ["variables", "returnNode"] hkey
    exact hplaced ▸ hasKey_placeRequest hrest (hasKey_byNames hfirst h _) _
  case buildObject =>
    split at hplaced
    · cases hplaced
      exact hasKey_insert_of_ne (hone hkey) h _
    · cases hplaced
  case matching =>
    split at hplaced
    · cases hplaced
      obtain ⟨hfirst, hrest⟩ := hparts ["matchExpression"] ["branches"] hkey
      exact hasKey_insert_of_ne (hone hrest) (hasKey_byNames hfirst h _) _
    · cases hplaced
  all_goals exact hplaced ▸ hasKey_insert_of_ne (hone hkey) h _

/-- The children of any other operator are no fallback. -/
theorem OperatorKind.fallback_not_child {k : OperatorKind} (hk : k ≠ .objectProperties) :
    Key.fallback ∉ k.childNames := by
  cases k
  case objectProperties => exact absurd rfl hk
  all_goals decide

/-- The children of no operator are a conversion. -/
theorem OperatorKind.type_not_child (k : OperatorKind) : Key.type ∉ k.childNames := by
  cases k <;> decide

end Placed

/-! ### Where spots go -/

/-- Whether an operator evaluates some of its operands only if it needs them. -/
def OperatorKind.chooses : OperatorKind → Bool
  | and | or | conditional | matching => true
  | _ => false

/-- Where a spot of a node goes among the properties that its operator computes from.  Of the
children only those matter here that may go unread, and of the properties only those that nothing
but the operator reads. -/
def Spot.placed? (k : OperatorKind) : Spot → Option Spot
  | .key name :: rest =>
    if name = Key.children then
      match k, rest with
      | .and, .index i :: rest | .or, .index i :: rest =>
        some (.key "values" :: .index i :: rest)
      | .conditional, .index 1 :: rest => some (.key "valueIfTrue" :: rest)
      | .conditional, .index 2 :: rest => some (.key "valueIfFalse" :: rest)
      | .matching, .index (i + 1) :: rest =>
        some (.key "branches" :: .index (i / 2) ::
          .key (if i % 2 = 0 then "match" else "value") :: rest)
      | _, _ => none
    else if isReserved name || name == Key.type || !k.chooses then none
    else some (.key ((k.schema.canonicalName? name).getD name) :: rest)
  | _ => none

/-- A spot that goes anywhere is under the children or under a name that only the operator reads. -/
theorem Spot.placed?_eq_some {k : OperatorKind} {spot spot' : Spot}
    (h : Spot.placed? k spot = some spot') :
    k.chooses = true ∧ ((∃ i rest name' rest', spot = .key Key.children :: .index i :: rest ∧
        spot' = .key name' :: rest') ∨
      ∃ name rest, spot = .key name :: rest ∧ isReserved name = false ∧ name ≠ Key.type ∧
        spot' = .key ((k.schema.canonicalName? name).getD name) :: rest) := by
  unfold Spot.placed? at h
  split at h
  · next name rest =>
    split at h
    · next hname =>
      subst hname
      split at h
      all_goals first | exact ⟨rfl, .inl ⟨_, _, _, _, rfl, (Option.some.inj h).symm⟩⟩ | cases h
    · split at h
      · cases h
      · next hread =>
        simp only [Bool.or_eq_true, beq_iff_eq, Bool.not_eq_true', not_or, Bool.not_eq_false,
          Bool.not_eq_true] at hread
        exact ⟨hread.2, .inr ⟨name, rest, rfl, hread.1.1, hread.1.2, (Option.some.inj h).symm⟩⟩
  · cases h

theorem Spot.exists_of_placed? {k : OperatorKind} {spot spot' : Spot}
    (h : Spot.placed? k spot = some spot') : ∃ name rest, spot = .key name :: rest := by
  rcases (Spot.placed?_eq_some h).2 with ⟨_, _, _, _, hspot, -⟩ | ⟨_, _, hspot, -⟩
  · exact ⟨_, _, hspot⟩
  · exact ⟨_, _, hspot⟩

/-- The name in front of such a spot is read by nothing else: it is no binding, and not what names
the operator, the fallback or the conversion of the node. -/
theorem Spot.placed?_name {k : OperatorKind} {name : String} {rest spot' : Spot}
    (h : Spot.placed? k (.key name :: rest) = some spot') :
    isBindingName name = false ∧ name ≠ Key.operator ∧ name ≠ Key.fallback ∧
      name ≠ Key.outputType ∧ name ≠ Key.type := by
  rcases (Spot.placed?_eq_some h).2 with ⟨_, _, _, _, hspot, -⟩ | ⟨_, _, hspot, hname, htype, -⟩
  · cases hspot
    decide
  · cases hspot
    simp only [isReserved, Bool.or_eq_false_iff, beq_eq_false_iff_ne] at hname
    obtain ⟨⟨⟨⟨hoperator, hfallback⟩, houtputType⟩, -⟩, hbinding⟩ := hname
    exact ⟨hbinding, hoperator, hfallback, houtputType, htype⟩

section Own

variable {name : String} {rest : Spot} {node node' : Dict Json}

/-- What nodes write under a reserved name is no property. -/
theorem ownProps_eq_of_reserved (h : Dict.AgreeOff name rest node node')
    (hname : isReserved name = true) (schema : OperatorSchema) :
    ownProps schema node' = ownProps schema node := by
  unfold ownProps
  generalize ([] : Props) = props
  induction h generalizing props with
  | nil => rfl
  | @cons key a b _ _ hr _ ih =>
      have hstep : addProp schema props key b = addProp schema props key a := by
        rcases hr with rfl | ⟨rfl, -⟩
        · rfl
        · simp [addProp, hname]
      rw [List.foldl_cons, List.foldl_cons, hstep]
      exact ih _

/-- Under any other name it is a property, if it is not given up for another of the same name. -/
theorem ownProps_agreeOff (h : Dict.AgreeOff name rest node node') (schema : OperatorSchema) :
    Dict.AgreeOff ((schema.canonicalName? name).getD name) rest (ownProps schema node)
      (ownProps schema node') := by
  have hfold : ∀ props props' : Props,
      Dict.AgreeOff ((schema.canonicalName? name).getD name) rest props props' →
      Dict.AgreeOff ((schema.canonicalName? name).getD name) rest
        (node.foldl (fun props entry => addProp schema props entry.1 entry.2) props)
        (node'.foldl (fun props entry => addProp schema props entry.1 entry.2) props') := by
    induction h with
    | nil => exact fun _ _ hp => hp
    | @cons key a b _ _ hr _ ih =>
        intro props props' hp
        refine ih _ _ ?_
        dsimp only
        unfold addProp
        split
        · exact hp
        · split
          · next canonical hcanonical =>
            refine Dict.Related.insertIfNew hp ?_
            rcases hr with rfl | ⟨rfl, hab⟩
            · exact .inl rfl
            · exact .inr ⟨by rw [hcanonical]; rfl, hab⟩
          · next hcanonical =>
            refine Dict.Related.insert hp ?_
            rcases hr with rfl | ⟨rfl, hab⟩
            · exact .inl rfl
            · exact .inr ⟨by rw [hcanonical]; rfl, hab⟩
  exact hfold [] [] .nil

end Own

/-! ### Children are put in their places -/

/-- The same failure, or related values. -/
inductive Alike {ε α β : Type} (S : α → β → Prop) : Except ε α → Except ε β → Prop where
  | error (e : ε) : Alike S (.error e) (.error e)
  | ok {a : α} {b : β} : S a b → Alike S (.ok a) (.ok b)

section Placed

variable {name : String} {rest : Spot} {props props' : Props}

theorem insert_agreeOff (h : Dict.AgreeOff name rest props props') (key : String) (v : Json) :
    Dict.AgreeOff name rest (Dict.insert props key v) (Dict.insert props' key v) :=
  Dict.Related.insert h (.inl rfl)

theorem byNames_agreeOff (h : Dict.AgreeOff name rest props props') (names : List String)
    (children : List Json) :
    Dict.AgreeOff name rest (Children.byNames names children props)
      (Children.byNames names children props') :=
  Dict.Related.extend h (Dict.AgreeOff.refl name rest _)

theorem placeRequest_agreeOff (h : Dict.AgreeOff name rest props props') (fields last : String)
    (children : List Json) :
    Dict.AgreeOff name rest (Children.placeRequest fields last children props)
      (Children.placeRequest fields last children props') := by
  unfold Children.placeRequest
  dsimp only
  split
  · exact insert_agreeOff (insert_agreeOff h _ _) _ _
  · exact insert_agreeOff h _ _

/-- The same children over properties that differ at a spot. -/
theorem placeChildren_agreeOff_of_props (h : Dict.AgreeOff name rest props props')
    (k : OperatorKind) (children : List Json) :
    Alike (Dict.AgreeOff name rest) (placeChildren k children props)
      (placeChildren k children props') := by
  cases k <;> simp only [placeChildren]
  case conditional | regex | split | passthru | objectProperties =>
    exact .ok (byNames_agreeOff h _ _)
  case stringSubstitution | pgSql | customFunctions =>
    exact .ok (insert_agreeOff (byNames_agreeOff h _ _) _ _)
  case get | post | graphQL => exact .ok (placeRequest_agreeOff (byNames_agreeOff h _ _) _ _ _)
  case buildObject =>
    split
    · exact .ok (insert_agreeOff h _ _)
    · exact .error _
  case matching =>
    split
    · exact .ok (insert_agreeOff (byNames_agreeOff h _ _) _ _)
    · exact .error _
  all_goals exact .ok (insert_agreeOff h _ _)

/-- A child that differs, over the same properties, differs where it is put. -/
theorem zip_agreeOff {names : List String} {before after : List Json} {a b : Json}
    (hname : names[before.length]? = some name) (h : Json.AgreeOff rest a b) :
    Dict.AgreeOff name rest (names.zip (before ++ a :: after))
      (names.zip (before ++ b :: after)) := by
  induction before generalizing names with
  | nil =>
      cases names with
      | nil => cases hname
      | cons first names =>
          cases hname
          exact .cons (.inr ⟨rfl, h⟩) (Dict.AgreeOff.refl _ rest _)
  | cons v before ih =>
      cases names with
      | nil => cases hname
      | cons first names => exact .cons (.inl rfl) (ih hname)

theorem pairs?_cons {first second : String} {a b : Json} {children : List Json}
    {entries : Option (List Json)} (h : Children.pairs? first second children = entries) :
    Children.pairs? first second (a :: b :: children) =
      entries.map (.object [(first, a), (second, b)] :: ·) :=
  h ▸ rfl

/-- A value that differs in a list of pairs differs in its pair. -/
theorem pairs?_agreeOff (first second : String) {a b : Json} (h : Json.AgreeOff rest a b)
    (after : List Json) : ∀ before : List Json,
    (Children.pairs? first second (before ++ a :: after) = none ∧
      Children.pairs? first second (before ++ b :: after) = none) ∨
    ∃ entries entries', Children.pairs? first second (before ++ a :: after) = some entries ∧
      Children.pairs? first second (before ++ b :: after) = some entries' ∧
      Json.AgreeOff (.index (before.length / 2) ::
        .key (if before.length % 2 = 0 then first else second) :: rest)
        (.array entries) (.array entries')
  | [] => by
      cases after with
      | nil => exact .inl ⟨rfl, rfl⟩
      | cons v after =>
          cases hp : Children.pairs? first second after with
          | none => exact .inl ⟨pairs?_cons hp, pairs?_cons hp⟩
          | some entries =>
              have hpair : Json.AgreeOff (.key first :: rest) (.object [(first, a), (second, v)])
                  (.object [(first, b), (second, v)]) :=
                Json.AgreeOff.object (.cons (.inr ⟨rfl, h⟩) (Dict.AgreeOff.refl _ _ _))
              exact .inr ⟨_, _, pairs?_cons hp, pairs?_cons hp, hpair.array [] entries⟩
  | [v] => by
      cases hp : Children.pairs? first second after with
      | none => exact .inl ⟨pairs?_cons hp, pairs?_cons hp⟩
      | some entries =>
          have hpair : Json.AgreeOff (.key second :: rest) (.object [(first, v), (second, a)])
              (.object [(first, v), (second, b)]) :=
            Json.AgreeOff.object (.cons (.inl rfl) (.cons (.inr ⟨rfl, h⟩) .nil))
          exact .inr ⟨_, _, pairs?_cons hp, pairs?_cons hp, by simpa using hpair.array [] entries⟩
  | v :: u :: before => by
      have hdiv : (v :: u :: before).length / 2 = before.length / 2 + 1 := by
        simp only [List.length_cons]
        omega
      have hmod : (v :: u :: before).length % 2 = before.length % 2 := by
        simp only [List.length_cons]
        omega
      rw [hdiv, hmod]
      rcases pairs?_agreeOff first second h after before with
        ⟨h₁, h₂⟩ | ⟨entries, entries', h₁, h₂, hagree⟩
      · exact .inl ⟨pairs?_cons h₁, pairs?_cons h₂⟩
      · exact .inr ⟨_, _, pairs?_cons h₁, pairs?_cons h₂, hagree.cons _⟩

/-- Children that differ at a spot, over the same properties, differ where the spot goes. -/
theorem placeChildren_agreeOff {k : OperatorKind} {i : Nat} {spot : Spot}
    (hplaced : Spot.placed? k (.key Key.children :: .index i :: rest) = some spot)
    (before after : List Json) {a b : Json} (hi : before.length = i) (h : Json.AgreeOff rest a b)
    (props : Props) :
    ∃ name rest', spot = .key name :: rest' ∧
      Alike (Dict.AgreeOff name rest') (placeChildren k (before ++ a :: after) props)
        (placeChildren k (before ++ b :: after) props) := by
  have hinsert : ∀ {key : String} {rest : Spot} {props props' : Props} {v v' : Json},
      Dict.AgreeOff key rest props props' → Json.AgreeOff rest v v' →
      Dict.AgreeOff key rest (Dict.insert props key v) (Dict.insert props' key v') :=
    fun hp hv => Dict.Related.insert hp (.inr ⟨rfl, hv⟩)
  cases k <;> simp only [Spot.placed?, if_true] at hplaced
  case and | or =>
    cases hplaced
    exact ⟨_, _, rfl, .ok (hinsert (Dict.AgreeOff.refl _ _ _) (hi ▸ Json.AgreeOff.array h _ _))⟩
  case conditional =>
    have hchild : ∀ name,
        (OperatorKind.conditional.schema.parameters.map (·.name))[before.length]? = some name →
        Alike (Dict.AgreeOff name rest) (placeChildren .conditional (before ++ a :: after) props)
          (placeChildren .conditional (before ++ b :: after) props) :=
      fun name hname => .ok (Dict.Related.extend (Dict.AgreeOff.refl _ _ _) (zip_agreeOff hname h))
    match i, hplaced, hi with
    | 1, hplaced, hi =>
        cases hplaced
        exact ⟨_, _, rfl, hchild _ (by rw [hi]; rfl)⟩
    | 2, hplaced, hi =>
        cases hplaced
        exact ⟨_, _, rfl, hchild _ (by rw [hi]; rfl)⟩
  case matching =>
    match before, hi with
    | [], hi =>
        cases hi
        cases hplaced
    -- The first child is what is compared; those after it come in pairs.
    | first :: before, hi =>
        cases hi
        cases hplaced
        refine ⟨_, _, rfl, ?_⟩
        rcases pairs?_agreeOff "match" "value" h after before with
          ⟨h₁, h₂⟩ | ⟨entries, entries', h₁, h₂, hagree⟩
        · simp only [placeChildren, List.cons_append, List.drop_succ_cons, List.drop_zero, h₁, h₂]
          exact .error _
        · simp only [placeChildren, List.cons_append, List.drop_succ_cons, List.drop_zero, h₁, h₂]
          exact .ok (hinsert (Dict.AgreeOff.refl _ _ _) hagree)
  all_goals cases hplaced

end Placed

end JsonExpr
