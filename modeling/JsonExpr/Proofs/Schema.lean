import JsonExpr.Schema.Basic

/-!
# Schemas are read back

The three kinds of types have JSON forms of three shapes, a string, an object and an array, so a
type is told from its form at every level, however types are nested.  A parameter without a default
has no field for it, and none is found.  The one thing that gets lost is a default of `null`, which
is read as none at all; no schema that was read has such a default.

Main results:

* `JsonExpr.ExpectedType.ofJson?_toJson` — types are read back;
* `JsonExpr.ParamSchema.default_ne_null` — no parameter that was read has `null` as its default;
* `JsonExpr.OperatorSchema.schemas_are_read_back` — **schemas without a default of `null` are read
  back, and these are all that can be read**.
-/

set_option autoImplicit false

namespace JsonExpr

/-! ### Lists -/

/-- What is written value by value is read back if each value is. -/
theorem readAll?_map {α : Type} {read : Json → Option α} {write : α → Json} {items : List α}
    (h : ∀ a ∈ items, read (write a) = some a) : readAll? read (items.map write) = some items := by
  induction items with
  | nil => rfl
  | cons a rest ih =>
      rw [List.map_cons, readAll?, h a List.mem_cons_self,
        ih fun b hb => h b (List.mem_cons_of_mem a hb)]
      rfl

/-- Whatever is read of a list is read of one of its values. -/
theorem exists_of_mem_readAll? {α : Type} {read : Json → Option α} {items : List Json}
    {found : List α} (h : readAll? read items = some found) {a : α} (ha : a ∈ found) :
    ∃ v ∈ items, read v = some a := by
  induction items generalizing found with
  | nil =>
      cases h
      cases ha
  | cons v rest ih =>
      rw [readAll?] at h
      split at h
      · cases h
      · next b hb =>
        obtain ⟨more, hmore, rfl⟩ := Option.map_eq_some_iff.mp h
        rcases List.mem_cons.mp ha with rfl | hmem
        · exact ⟨v, List.mem_cons_self, hb⟩
        · obtain ⟨u, hu, hread⟩ := ih hmore hmem
          exact ⟨u, List.mem_cons_of_mem v hu, hread⟩

namespace ExpectedType

theorem stringsOf?_map (members : List String) :
    stringsOf? (members.map Json.string) = some members := by
  induction members with
  | nil => rfl
  | cons s rest ih =>
      rw [List.map_cons, stringsOf?, ih]
      rfl

end ExpectedType

theorem asStringArray?_stringArray (items : List String) :
    asStringArray? (stringArray items) = some items :=
  ExpectedType.stringsOf?_map items

/-! ### Types -/

theorem BasicType.ofName?_name (kind : BasicType) : ofName? kind.name = some kind := by
  cases kind <;> rfl

namespace ExpectedType

mutual

/-- A type is read back from its JSON form. -/
theorem ofJson?_toJson (t : ExpectedType) : ofJson? t.toJson = some t := by
  cases t with
  | basic kind =>
      rw [toJson, ofJson?, BasicType.ofName?_name]
      rfl
  | literal members =>
      have hfields : ofFields? [("literal", .array (members.map Json.string))] =
          (stringsOf? (members.map Json.string)).map literal := rfl
      rw [toJson, ofJson?, hfields, stringsOf?_map]
      rfl
  | union members =>
      rw [toJson, ofJson?, listOfJson?_listToJson members]
      rfl

theorem listOfJson?_listToJson (ts : List ExpectedType) :
    listOfJson? (listToJson ts) = some ts := by
  cases ts with
  | nil => rfl
  | cons t rest =>
      rw [listToJson, listOfJson?, ofJson?_toJson t, listOfJson?_listToJson rest]
      rfl

end

end ExpectedType

/-! ### Parameters -/

namespace ParamSchema

/-- A parameter is read back from its JSON form, unless its default is `null`. -/
theorem ofJson?_toJson {p : ParamSchema} (h : p.default ≠ some .null) :
    ofJson? p.toJson = some p := by
  obtain ⟨name, description, aliases, required, type, default⟩ := p
  have hdefault : default.filter (fun v => !v.isNull) = default := by
    cases default with
    | none => rfl
    | some v => cases v <;> first | rfl | exact absurd rfl h
  cases default with
  | none =>
    simp [ofJson?, toJson, recordFields?, optionalField, Dict.get?, Json.asString?, Json.asBool?,
      asStringArray?_stringArray, ExpectedType.ofJson?_toJson]
  | some v =>
    simp [ofJson?, toJson, recordFields?, optionalField, Dict.get?, Json.asString?, Json.asBool?,
      asStringArray?_stringArray, ExpectedType.ofJson?_toJson, hdefault]

/-- No parameter that was read has `null` as its default. -/
theorem default_ne_null {v : Json} {p : ParamSchema} (h : ofJson? v = some p) :
    p.default ≠ some .null := by
  have hdefault : ∃ field : Option Json, p.default = field.filter fun v => !v.isNull := by
    simp only [ofJson?, Option.bind_eq_bind, Option.bind_eq_some_iff] at h
    obtain ⟨fields, -, name, -, description, -, h⟩ := h
    -- The rest is read in the same way whether there are aliases or not.
    split at h <;> simp only [Option.bind_eq_some_iff] at h <;>
      obtain ⟨aliases, -, required, -, type, -, ⟨⟩⟩ := h <;> exact ⟨_, rfl⟩
  obtain ⟨field, hfield⟩ := hdefault
  rw [hfield]
  intro hnull
  cases (Option.filter_eq_some_iff.mp hnull).2

end ParamSchema

/-! ### Operators -/

namespace OperatorSchema

/-- An operator is read back from its JSON form, unless a default is `null`. -/
theorem ofJson?_toJson {s : OperatorSchema} (h : ∀ p ∈ s.parameters, p.default ≠ some .null) :
    ofJson? s.toJson = some s := by
  have hparameters : readAll? ParamSchema.ofJson? (s.parameters.map ParamSchema.toJson) =
      some s.parameters := readAll?_map fun p hp => ParamSchema.ofJson?_toJson (h p hp)
  simp [ofJson?, toJson, recordFields?, Dict.get?, Json.asString?, Json.asArray?,
    asStringArray?_stringArray, hparameters]

/-- No parameter of an operator that was read has `null` as its default. -/
theorem default_ne_null {v : Json} {s : OperatorSchema} (h : ofJson? v = some s) :
    ∀ p ∈ s.parameters, p.default ≠ some .null := by
  simp only [ofJson?, Option.bind_eq_bind, Option.bind_eq_some_iff] at h
  obtain ⟨fields, -, name, -, aliases, -, description, -, items, -, parameters, hread, ⟨⟩⟩ := h
  intro p hp
  obtain ⟨u, -, hu⟩ := exists_of_mem_readAll? hread hp
  exact ParamSchema.default_ne_null hu

/-- **Schemas without a default of `null` are read back**, whatever their types are, and no other
schema is.  Every schema that was read, from whatever form, is one of them. -/
theorem schemas_are_read_back :
    (∀ s : OperatorSchema, ofJson? s.toJson = some s ↔
      ∀ p ∈ s.parameters, p.default ≠ some .null) ∧
    ∀ (v : Json) (s : OperatorSchema), ofJson? v = some s → ofJson? s.toJson = some s :=
  ⟨fun _ => ⟨default_ne_null, ofJson?_toJson⟩, fun _ _ h => ofJson?_toJson (default_ne_null h)⟩

/-- A schema with a type of several levels and a default. -/
def rounding : OperatorSchema where
  name := "ROUND"
  description := "Round a number"
  aliases := ["round", "~"]
  parameters :=
    [.mandatory "value" (.basic .number) "Number to round" ["number"] none,
      .optional "mode" (.union [.literal ["up", "down"], .union [.basic .null, .union []]])
        "Where to round" [] (some (.string "up"))]

/-- It is read back, and so is one that was read from a list of fields. -/
theorem rounding_is_read_back :
    let listed : Json := .array [.string "NOT", .string "Negate", .array [], .array
      [.array [.string "value", .string "Operand", .array [], .bool true,
        .object [("boolean", .null)]]]]
    let negation : OperatorSchema :=
      ⟨"NOT", "Negate", [], [.mandatory "value" (.basic .boolean) "Operand" [] none]⟩
    ofJson? rounding.toJson = some rounding ∧ ofJson? listed = some negation ∧
      ofJson? negation.toJson = some negation := by
  intro listed negation
  have hread : ofJson? listed = some negation := rfl
  exact ⟨(schemas_are_read_back.1 rounding).mpr (by
      simp [rounding, ParamSchema.mandatory, ParamSchema.optional]),
    hread, schemas_are_read_back.2 listed negation hread⟩

end OperatorSchema

end JsonExpr
