import JsonExpr.Proofs.DictOrder
import JsonExpr.Proofs.Operator.Children
import Mathlib.Data.List.Induction

/-!
# Which spelling of a property counts

A node may spell a property by its name or by an alias, and its children may write it as well.  What
the children write counts first, then what stands under the name itself, and then the first alias in
the order of the node.  So the order of a node matters for aliases of one parameter only, and for
keys that are there twice, which no object has.

Main definitions:

* `JsonExpr.OperatorSchema.plain?`, `JsonExpr.OperatorSchema.aliased?` — what a node has under the
  name of a property, and under the first of its aliases;
* `JsonExpr.OperatorSchema.SpelledOnce` — no two aliases of one parameter;
* `JsonExpr.Rearranged` — another order of entries in which whatever competes is in the same order;
* `JsonExpr.Overlays`, `JsonExpr.Children.Supply` — writes that do not depend on what was there
  before, and children that write a property.

Main results:

* `JsonExpr.get?_ownProps` — **the name of a property counts, then its first alias**;
* `JsonExpr.Rearranged.of_perm`, `JsonExpr.Rearranged.ownProps` — orders with the same properties;
* `JsonExpr.ownProps_without_alias` — next to the name of a property an alias is nothing;
* `JsonExpr.placeChildren_overlays` — **children are written over properties**.
-/

set_option autoImplicit false

namespace JsonExpr

namespace OperatorSchema

/-- Whether a key is read as an alias of the parameter of the given name. -/
def isAliasOf (s : OperatorSchema) (name key : String) : Bool :=
  !isReserved key && s.canonicalName? key == some name

/-- The property that a key stands for. -/
def propertyOf (s : OperatorSchema) (key : String) : String := (s.canonicalName? key).getD key

/-- What a node has under the name of a property itself. -/
def plain? (s : OperatorSchema) (node : Dict Json) (name : String) : Option Json :=
  if isReserved name || (s.canonicalName? name).isSome then none
  else (Dict.filterKeys (· == name) node).getLast?.map Prod.snd

/-- What a node has under the first alias of a property. -/
def aliased? (s : OperatorSchema) (node : Dict Json) (name : String) : Option Json :=
  (Dict.filterKeys (s.isAliasOf name) node).head?.map Prod.snd

/-- No two keys of a node are aliases of the same parameter. -/
def SpelledOnce (s : OperatorSchema) (node : Dict Json) : Prop :=
  ∀ a ∈ Dict.keys node, ∀ b ∈ Dict.keys node, (s.canonicalName? a).isSome = true →
    s.canonicalName? a = s.canonicalName? b → a = b

instance (s : OperatorSchema) (node : Dict Json) : Decidable (s.SpelledOnce node) :=
  inferInstanceAs (Decidable (∀ a ∈ Dict.keys node, ∀ b ∈ Dict.keys node,
    (s.canonicalName? a).isSome = true → s.canonicalName? a = s.canonicalName? b → a = b))

end OperatorSchema

/-! ### Own properties -/

section Own

variable {s : OperatorSchema} {node node' : Dict Json} {name key : String}

/-- What is read after a property of a node was added. -/
theorem get?_addProp (s : OperatorSchema) (props : Props) (key : String) (v : Json)
    (name : String) :
    Dict.get? (addProp s props key v) name =
      if s.isAliasOf name key then (Dict.get? props name).or (some v)
      else if !isReserved key && s.canonicalName? key == none && key == name then some v
      else Dict.get? props name := by
  unfold addProp OperatorSchema.isAliasOf
  cases hreserved : isReserved key with
  | true => simp
  | false =>
      cases hcanonical : s.canonicalName? key with
      | none =>
          simp only [Bool.false_eq_true, if_false, Dict.get?_insert]
          by_cases hkey : name = key
          · simp [hkey]
          · simp [hkey, Ne.symm hkey]
      | some canonical =>
          simp only [Bool.false_eq_true, if_false, Dict.get?_insertIfNew]
          by_cases hname : name = canonical
          · simp [hname]
          · simp [hname, Ne.symm hname]

theorem plain?_concat (s : OperatorSchema) (node : Dict Json) (e : String × Json) (name : String) :
    s.plain? (node ++ [e]) name =
      if !isReserved e.1 && s.canonicalName? e.1 == none && e.1 == name then some e.2
      else s.plain? node name := by
  unfold OperatorSchema.plain? Dict.filterKeys
  rw [List.filter_append]
  by_cases hkey : e.1 = name
  · subst hkey
    cases isReserved e.1 <;> cases s.canonicalName? e.1 <;> simp
  · simp [hkey]

theorem aliased?_concat (s : OperatorSchema) (node : Dict Json) (e : String × Json)
    (name : String) :
    s.aliased? (node ++ [e]) name =
      if s.isAliasOf name e.1 then (s.aliased? node name).or (some e.2)
      else s.aliased? node name := by
  unfold OperatorSchema.aliased? Dict.filterKeys
  rw [List.filter_append]
  cases halias : s.isAliasOf name e.1 <;> simp [halias, List.head?_append]

/-- **The name of a property counts, then its first alias.** -/
theorem get?_ownProps (s : OperatorSchema) (node : Dict Json) (name : String) :
    Dict.get? (ownProps s node) name = (s.plain? node name).or (s.aliased? node name) := by
  induction node using List.reverseRecOn with
  | nil =>
      have hplain : s.plain? [] name = none := by
        unfold OperatorSchema.plain?
        split <;> rfl
      rw [hplain]
      rfl
  | append_singleton node e ih =>
      have hown : ownProps s (node ++ [e]) = addProp s (ownProps s node) e.1 e.2 := by
        rw [ownProps, List.foldl_append]
        rfl
      rw [hown, get?_addProp, ih, plain?_concat, aliased?_concat]
      cases halias : s.isAliasOf name e.1 with
      | true =>
          -- An alias is no name of a property.
          have hcanonical : s.canonicalName? e.1 = some name := by
            simp only [OperatorSchema.isAliasOf, Bool.and_eq_true, beq_iff_eq] at halias
            exact halias.2
          simp [hcanonical]
      | false =>
          simp only [Bool.false_eq_true, if_false]
          split <;> rfl

/-- What an object has under the name of a property is what stands there. -/
theorem plain?_of_keysNodup (hnodup : Dict.KeysNodup node) (hreserved : isReserved name = false)
    (hcanonical : s.canonicalName? name = none) : s.plain? node name = Dict.get? node name := by
  induction node using List.reverseRecOn with
  | nil =>
      rw [OperatorSchema.plain?, hreserved, hcanonical]
      rfl
  | append_singleton node e ih =>
      rw [Dict.KeysNodup, Dict.keys, List.map_append, List.nodup_append] at hnodup
      obtain ⟨hnode, -, hlast⟩ := hnodup
      rw [plain?_concat, ih hnode, Dict.get?_append]
      by_cases hkey : e.1 = name
      · subst hkey
        have habsent : Dict.get? node e.1 = none := by
          rw [← Dict.hasKey_eq_false_iff, Bool.eq_false_iff, ne_eq, Dict.hasKey_iff]
          exact fun hmem => hlast e.1 hmem e.1 (List.mem_singleton_self _) rfl
        simp [hreserved, hcanonical, habsent, Dict.get?]
      · simp [hkey, Dict.get?]

/-- The properties of a node have no key twice, even if the node has. -/
theorem keysNodup_ownProps (s : OperatorSchema) (node : Dict Json) :
    Dict.KeysNodup (ownProps s node) := by
  have hadd : ∀ props : Props, Dict.KeysNodup props → ∀ key v,
      Dict.KeysNodup (addProp s props key v) := by
    intro props hprops key v
    unfold addProp
    split
    · exact hprops
    · split
      · unfold Dict.insertIfNew
        split
        · exact hprops
        · exact Dict.keysNodup_insert hprops _ _
      · exact Dict.keysNodup_insert hprops _ _
  -- By induction on the node, for all properties that may be there before.
  have hfold : ∀ props : Props, Dict.KeysNodup props →
      Dict.KeysNodup (node.foldl (fun props entry => addProp s props entry.1 entry.2) props) := by
    induction node with
    | nil => exact fun _ h => h
    | cons entry rest ih => exact fun _ h => ih _ (hadd _ h entry.1 entry.2)
  exact hfold [] List.nodup_nil

/-- Another entry is nothing to what stands under a name. -/
theorem plain?_without (s : OperatorSchema) (node : Dict Json) (hne : key ≠ name) :
    s.plain? (Dict.filterKeys (· != key) node) name = s.plain? node name := by
  have hsame : Dict.filterKeys (· == name) (Dict.filterKeys (· != key) node) =
      Dict.filterKeys (· == name) node :=
    Dict.filterKeys_without (p := (· == name)) (beq_eq_false_iff_ne.mpr hne) node
  rw [OperatorSchema.plain?, hsame, OperatorSchema.plain?]

/-- An entry is nothing to the properties that its key does not stand for. -/
theorem get?_ownProps_without (s : OperatorSchema) (node : Dict Json)
    (h : s.propertyOf key ≠ name) :
    Dict.get? (ownProps s (Dict.filterKeys (· != key) node)) name =
      Dict.get? (ownProps s node) name := by
  unfold OperatorSchema.propertyOf at h
  have haliased : s.aliased? (Dict.filterKeys (· != key) node) name = s.aliased? node name := by
    rw [OperatorSchema.aliased?, Dict.filterKeys_without, OperatorSchema.aliased?]
    cases hcanonical : s.canonicalName? key with
    | none => simp [OperatorSchema.isAliasOf, hcanonical]
    | some canonical =>
        rw [hcanonical] at h
        simp [OperatorSchema.isAliasOf, hcanonical, show canonical ≠ name from h]
  have hplain : s.plain? (Dict.filterKeys (· != key) node) name = s.plain? node name := by
    by_cases hkey : key = name
    · -- A key that stands for another property is no name of one.
      subst hkey
      cases hcanonical : s.canonicalName? key with
      | none => simp [hcanonical] at h
      | some canonical => simp [OperatorSchema.plain?, hcanonical]
    · exact plain?_without s node hkey
  rw [get?_ownProps, get?_ownProps, hplain, haliased]

/-- Next to the name of a property an alias of it is nothing. -/
theorem ownProps_without_alias (hname : Dict.hasKey node name = true)
    (hreserved : isReserved name = false) (hcanonical : s.canonicalName? name = none)
    (halias : s.canonicalName? key = some name) :
    Dict.UpToOrder (ownProps s (Dict.filterKeys (· != key) node)) (ownProps s node) := by
  intro other
  by_cases hother : name = other
  · subst hother
    have hne : name ≠ key := by
      rintro rfl
      rw [hcanonical] at halias
      cases halias
    -- What stands under the name is there, so the alias is not asked for.
    have hsome : (s.plain? node name).isSome = true := by
      obtain ⟨v, hv⟩ := Option.isSome_iff_exists.mp hname
      have hmem : (name, v) ∈ Dict.filterKeys (· == name) node :=
        List.mem_filter.mpr ⟨Dict.mem_of_get? hv, by simp⟩
      simp only [OperatorSchema.plain?, hreserved, hcanonical, Option.isSome_none, Bool.or_self,
        Bool.false_eq_true, if_false, Option.isSome_map]
      exact List.getLast?_isSome.mpr (List.ne_nil_of_mem hmem)
    obtain ⟨v, hv⟩ := Option.isSome_iff_exists.mp hsome
    rw [get?_ownProps, get?_ownProps, plain?_without s node hne.symm, hv]
    rfl
  · exact get?_ownProps_without s node (by rwa [OperatorSchema.propertyOf, halias])

end Own

/-- Names and aliases in the catalogue: no name of a parameter is reserved or an alias, and no alias
is reserved or reads as a conversion. -/
theorem OperatorKind.canonicalName?_eq_some {k : OperatorKind} {key name : String}
    (h : k.schema.canonicalName? key = some name) :
    isReserved name = false ∧ k.schema.canonicalName? name = none ∧ isReserved key = false ∧
      key ≠ Key.type := by
  have hcatalogue : ∀ p ∈ k.schema.parameters, isReserved p.name = false ∧
      k.schema.canonicalName? p.name = none ∧
      ∀ a ∈ p.aliases, isReserved a = false ∧ a ≠ Key.type := by
    cases k <;> decide +kernel
  obtain ⟨p, hp, rfl⟩ := Option.map_eq_some_iff.mp h
  obtain ⟨hname, hcanonical, haliases⟩ := hcatalogue p (List.mem_of_find?_eq_some hp)
  have hkey : key ∈ p.aliases := by simpa using List.find?_some hp
  exact ⟨hname, hcanonical, haliases key hkey⟩

/-! ### Other orders of a node -/

/-- Two nodes with the same entries, possibly in another order, in which the entries with one key
are in the same order, and so are the aliases of one parameter of an operator that satisfies `P`. -/
structure Rearranged (P : OperatorKind → Prop) (node node' : Dict Json) : Prop where
  sameKey : ∀ name, Dict.filterKeys (· == name) node = Dict.filterKeys (· == name) node'
  sameAliases : ∀ k, P k → ∀ name, Dict.filterKeys (k.schema.isAliasOf name) node =
    Dict.filterKeys (k.schema.isAliasOf name) node'

namespace Rearranged

variable {P : OperatorKind → Prop} {node node' : Dict Json}

theorem refl (P : OperatorKind → Prop) (node : Dict Json) : Rearranged P node node :=
  ⟨fun _ => rfl, fun _ _ _ => rfl⟩

/-- Fewer operators ask for less. -/
theorem mono {Q : OperatorKind → Prop} (h : Rearranged P node node') (hle : ∀ k, Q k → P k) :
    Rearranged Q node node' :=
  ⟨h.sameKey, fun k hk => h.sameAliases k (hle k hk)⟩

/-- The same entries before those in another order. -/
theorem append_left (h : Rearranged P node node') (before : Dict Json) :
    Rearranged P (before ++ node) (before ++ node') where
  sameKey name := by
    have hsame := h.sameKey name
    unfold Dict.filterKeys at hsame ⊢
    rw [List.filter_append, hsame, ← List.filter_append]
  sameAliases k hk name := by
    have hsame := h.sameAliases k hk name
    unfold Dict.filterKeys at hsame ⊢
    rw [List.filter_append, hsame, ← List.filter_append]

/-- Any order of the entries of an object, in which no parameter is spelled in two ways. -/
theorem of_perm (hnodup : Dict.KeysNodup node) (h : node.Perm node')
    (once : ∀ k, P k → k.schema.SpelledOnce node) : Rearranged P node node' where
  sameKey name := Dict.filterKeys_eq_of_perm hnodup h fun a _ b _ ha hb => by
    rw [beq_iff_eq.mp ha, beq_iff_eq.mp hb]
  sameAliases k hk name := Dict.filterKeys_eq_of_perm hnodup h fun a hmem b hmem' ha hb => by
    simp only [OperatorSchema.isAliasOf, Bool.and_eq_true, beq_iff_eq] at ha hb
    exact once k hk a hmem b hmem' (by rw [ha.2]; rfl) (ha.2.trans hb.2.symm)

theorem upToOrder (h : Rearranged P node node') : Dict.UpToOrder node node' := by
  intro name
  have hread : ∀ d : Dict Json, Dict.get? d name = Dict.get? (Dict.filterKeys (· == name) d) name :=
    fun d => by rw [Dict.get?_filterKeys, if_pos (beq_self_eq_true name)]
  rw [hread node, h.sameKey name, ← hread node']

/-- The properties of both nodes are the same up to order. -/
theorem ownProps (h : Rearranged P node node') {k : OperatorKind} (hk : P k) :
    Dict.UpToOrder (ownProps k.schema node) (ownProps k.schema node') := by
  intro name
  rw [get?_ownProps, get?_ownProps, OperatorSchema.plain?, OperatorSchema.aliased?, h.sameKey name,
    h.sameAliases k hk name, OperatorSchema.plain?, OperatorSchema.aliased?]

theorem filterKeys (h : Rearranged P node node') (p : String → Bool) :
    Rearranged P (Dict.filterKeys p node) (Dict.filterKeys p node') where
  sameKey name := by rw [Dict.filterKeys_comm, h.sameKey, Dict.filterKeys_comm]
  sameAliases k hk name := by rw [Dict.filterKeys_comm, h.sameAliases k hk, Dict.filterKeys_comm]

theorem extend (h : Rearranged P node node') {newer newer' : Dict Json}
    (hn : Rearranged P newer newer') :
    Rearranged P (Dict.extend node newer) (Dict.extend node' newer') where
  sameKey name := by
    rw [Dict.filterKeys_extend, h.sameKey, hn.sameKey, ← Dict.filterKeys_extend]
  sameAliases k hk name := by
    rw [Dict.filterKeys_extend, h.sameAliases k hk, hn.sameAliases k hk, ← Dict.filterKeys_extend]

theorem map (h : Rearranged P node node') (f : String → Json → Json) :
    Rearranged P (node.map fun e => (e.1, f e.1 e.2)) (node'.map fun e => (e.1, f e.1 e.2)) where
  sameKey name := by rw [Dict.filterKeys_map, h.sameKey, ← Dict.filterKeys_map]
  sameAliases k hk name := by rw [Dict.filterKeys_map, h.sameAliases k hk, ← Dict.filterKeys_map]

end Rearranged

/-! ### Children -/

/-- Writes that do not depend on what is there before, over which they are written. -/
structure Overlays (F : Props → Props) : Prop where
  get? : ∀ props name, Dict.get? (F props) name = (Dict.get? (F []) name).or (Dict.get? props name)
  keysNodup : ∀ props, Dict.KeysNodup props → Dict.KeysNodup (F props)

namespace Overlays

variable {F G : Props → Props}

theorem insert (key : String) (v : Json) : Overlays fun props => Dict.insert props key v where
  get? props name := by
    rw [Dict.get?_insert, Dict.get?_insert]
    by_cases h : name = key
    · rw [if_pos h, if_pos h]
      rfl
    · rw [if_neg h, if_neg h]
      rfl
  keysNodup _ h := Dict.keysNodup_insert h key v

theorem comp (hF : Overlays F) (hG : Overlays G) : Overlays fun props => F (G props) where
  get? props name := by
    rw [hF.get?, hG.get? props, hF.get? (G []), Option.or_assoc]
  keysNodup props h := hF.keysNodup _ (hG.keysNodup props h)

theorem extend (newer : Dict Json) : Overlays fun props => Dict.extend props newer := by
  induction newer with
  | nil => exact ⟨fun _ _ => rfl, fun _ h => h⟩
  | cons e rest ih => exact ih.comp (insert e.1 e.2)

theorem placeRequest (fields last : String) (children : List Json) :
    Overlays (Children.placeRequest fields last children) := by
  unfold Children.placeRequest
  dsimp only
  split
  · exact (insert last _).comp (insert fields _)
  · exact insert fields _

/-- What is written over the same properties is the same, up to order. -/
theorem upToOrder (hF : Overlays F) {props props' : Props} (h : Dict.UpToOrder props props') :
    Dict.UpToOrder (F props) (F props') := by
  intro name
  rw [hF.get?, hF.get? props', h name]

end Overlays

/-- **Children are written over properties**, or do not fit their operator whatever the properties
are. -/
theorem placeChildren_overlays (k : OperatorKind) (children : List Json) :
    (∃ F, Overlays F ∧ ∀ props, placeChildren k children props = .ok (F props)) ∨
      ∃ fault, ∀ props, placeChildren k children props = .error fault := by
  cases k <;> simp only [placeChildren]
  case conditional | regex | split | passthru | objectProperties =>
    exact .inl ⟨_, .extend _, fun _ => rfl⟩
  case stringSubstitution | pgSql | customFunctions =>
    exact .inl ⟨_, (Overlays.insert _ _).comp (.extend _), fun _ => rfl⟩
  case get | post | graphQL =>
    exact .inl ⟨_, (Overlays.placeRequest _ _ _).comp (.extend _), fun _ => rfl⟩
  case buildObject =>
    split
    · exact .inl ⟨_, .insert _ _, fun _ => rfl⟩
    · exact .inr ⟨_, fun _ => rfl⟩
  case matching =>
    split
    · exact .inl ⟨_, (Overlays.insert _ _).comp (.extend _), fun _ => rfl⟩
    · exact .inr ⟨_, fun _ => rfl⟩
  all_goals exact .inl ⟨_, .insert _ _, fun _ => rfl⟩

/-- The children of an operator write the property of the given name, if they fit the operator. -/
def Children.Supply (k : OperatorKind) (children : List Json) (name : String) : Prop :=
  ∀ placed, placeChildren k children [] = .ok placed → Dict.hasKey placed name = true

/-- No child becomes the property that reads as a conversion. -/
theorem Children.Supply.ne_type {k : OperatorKind} {children : List Json} {key : String}
    (supply : Supply k children (k.schema.propertyOf key)) {props placed : Props}
    (h : placeChildren k children props = .ok placed) : Key.type ≠ key := by
  rintro rfl
  have hstands : k.schema.propertyOf Key.type = Key.type := by
    cases hcanonical : k.schema.canonicalName? Key.type with
    | none => rw [OperatorSchema.propertyOf, hcanonical, Option.getD_none]
    | some name => exact absurd rfl (OperatorKind.canonicalName?_eq_some hcanonical).2.2.2
  obtain ⟨F, -, hF⟩ | ⟨fault, hF⟩ := placeChildren_overlays k children
  · have hwritten := supply _ (hF [])
    rw [hstands, hasKey_placeChildren k.type_not_child rfl (hF [])] at hwritten
    cases hwritten
  · rw [hF] at h
    cases h

/-- Properties that differ only where children write are the same with children in their places, up
to order, and so are properties that do not differ. -/
theorem Overlays.upToOrder_of_supply {F : Props → Props} (hF : Overlays F) {name : String}
    (supply : Dict.hasKey (F []) name = true) {props props' : Props}
    (h : ∀ other, name ≠ other → Dict.get? props other = Dict.get? props' other) :
    Dict.UpToOrder (F props) (F props') := by
  intro other
  rw [hF.get?, hF.get? props']
  by_cases hother : name = other
  · subst hother
    obtain ⟨v, hv⟩ := Option.isSome_iff_exists.mp supply
    rw [hv]
    rfl
  · rw [h other hother]

end JsonExpr
