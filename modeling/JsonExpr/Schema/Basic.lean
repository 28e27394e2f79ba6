import JsonExpr.Schema.ExpectedType

/-!
# Schemas of operators

What an operator is called, what it does, and which parameters it takes.  A node may spell a
parameter by its name or by one of its aliases.

Main definitions:

* `JsonExpr.ParamSchema`, `JsonExpr.OperatorSchema` — parameters and operators;
* `JsonExpr.ParamSchema.effectiveType` — what is checked: an optional parameter may be absent;
* `JsonExpr.OperatorSchema.findParam?`, `JsonExpr.OperatorSchema.canonicalName?` — look-up by name
  and by alias;
* `JsonExpr.OperatorSchema.toJson`, `JsonExpr.OperatorSchema.ofJson?` — the JSON form.
-/

set_option autoImplicit false

namespace JsonExpr

/-- The schema of a parameter. -/
structure ParamSchema where
  /-- The name under which operands are kept. -/
  name : String
  /-- What the parameter is for. -/
  description : String
  /-- Other names a node may use. -/
  aliases : List String
  /-- Whether a node has to have it. -/
  required : Bool
  /-- The declared type. -/
  type : ExpectedType
  /-- An example value. -/
  default : Option Json

namespace ParamSchema

/-- A parameter every node has to have. -/
def mandatory (name : String) (type : ExpectedType) (description : String)
    (aliases : List String) (default : Option Json) : ParamSchema :=
  ⟨name, description, aliases, true, type, default⟩

/-- A parameter a node may leave out. -/
def optional (name : String) (type : ExpectedType) (description : String)
    (aliases : List String) (default : Option Json) : ParamSchema :=
  ⟨name, description, aliases, false, type, default⟩

/-- Whether a property name is this parameter's name or an alias of it. -/
def matchesName (p : ParamSchema) (name : String) : Bool :=
  p.name == name || p.aliases.contains name

/-- The type that is checked: an optional parameter may be absent. -/
def effectiveType (p : ParamSchema) : ExpectedType :=
  if p.required then p.type else p.type.orUndefined

end ParamSchema

/-- The schema of an operator. -/
structure OperatorSchema where
  /-- The canonical name. -/
  name : String
  /-- What the operator does. -/
  description : String
  /-- Other names of the operator. -/
  aliases : List String
  /-- The parameters, in positional order. -/
  parameters : List ParamSchema

namespace OperatorSchema

/-- The parameter of a name. -/
def findParam? (s : OperatorSchema) (name : String) : Option ParamSchema :=
  s.parameters.find? fun p => p.name == name

/-- The names of the parameters a node has to have. -/
def requiredNames (s : OperatorSchema) : List String :=
  (s.parameters.filter (·.required)).map (·.name)

/-- The name of the first parameter with the given alias. -/
def canonicalName? (s : OperatorSchema) (name : String) : Option String :=
  (s.parameters.find? fun p => p.aliases.contains name).map (·.name)

end OperatorSchema

/-! ### The JSON form -/

/-- An entry for a value that is there, none for one that is absent. -/
def optionalField (key : String) (v : Option Json) : List (String × Json) :=
  match v with
  | some v => [(key, v)]
  | none => []

/-- Strings as an array. -/
def stringArray (items : List String) : Json := .array (items.map Json.string)

/-- The strings of an array that consists of strings. -/
def asStringArray? (v : Json) : Option (List String) :=
  v.asArray?.bind ExpectedType.stringsOf?

/-- What `read` finds in every value of a list. -/
def readAll? {α : Type} (read : Json → Option α) : List Json → Option (List α)
  | [] => some []
  | v :: rest =>
    match read v with
    | none => none
    | some a => (readAll? read rest).map (a :: ·)

/-- The fields of a record with the given field names: those of an object, or the values of an array
that lists them in order.  An array may leave out fields at its end. -/
def recordFields? (names : List String) : Json → Option (Dict Json)
  | .object fields => some fields
  | .array items => if items.length ≤ names.length then some (names.zip items) else none
  | _ => none

namespace ParamSchema

/-- The names of the fields of the JSON form, in order. -/
def fieldNames : List String := ["name", "description", "aliases", "required", "type", "default"]

/-- The JSON form of a parameter. -/
def toJson (p : ParamSchema) : Json :=
  .object ([("name", .string p.name), ("description", .string p.description),
    ("aliases", stringArray p.aliases), ("required", .bool p.required),
    ("type", p.type.toJson)] ++ optionalField "default" p.default)

/-- The parameter that a JSON form denotes.  Aliases may be left out, and a `null` default counts as
none. -/
def ofJson? (v : Json) : Option ParamSchema := do
  let fields ← recordFields? fieldNames v
  let name ← (Dict.get? fields "name").bind Json.asString?
  let description ← (Dict.get? fields "description").bind Json.asString?
  let aliases ← match Dict.get? fields "aliases" with
    | none => some []
    | some v => asStringArray? v
  let required ← (Dict.get? fields "required").bind Json.asBool?
  let type ← (Dict.get? fields "type").bind ExpectedType.ofJson?
  let default := (Dict.get? fields "default").filter fun v => !v.isNull
  pure ⟨name, description, aliases, required, type, default⟩

end ParamSchema

namespace OperatorSchema

/-- The names of the fields of the JSON form, in order. -/
def fieldNames : List String := ["operator", "description", "aliases", "parameters"]

/-- The JSON form of an operator. -/
def toJson (s : OperatorSchema) : Json :=
  .object [("operator", .string s.name), ("description", .string s.description),
    ("aliases", stringArray s.aliases),
    ("parameters", .array (s.parameters.map ParamSchema.toJson))]

/-- The operator that a JSON form denotes. -/
def ofJson? (v : Json) : Option OperatorSchema := do
  let fields ← recordFields? fieldNames v
  let name ← (Dict.get? fields "operator").bind Json.asString?
  let description ← (Dict.get? fields "description").bind Json.asString?
  let aliases ← (Dict.get? fields "aliases").bind asStringArray?
  let items ← (Dict.get? fields "parameters").bind Json.asArray?
  let parameters ← readAll? ParamSchema.ofJson? items
  pure ⟨name, description, aliases, parameters⟩

end OperatorSchema

end JsonExpr
