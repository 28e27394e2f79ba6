import JsonExpr.Options
import JsonExpr.Schema.Basic

/-!
# Options as JSON

The options that are data can be read from an object; a key with value `null` is not set, keys that
name no option are passed over, and a value of the wrong type makes the whole object invalid.
Options can be shown as an object with a key for every option.

Main definitions:

* `JsonExpr.Options.ofJson?` — options from an object;
* `JsonExpr.Options.toJson` — options as an object.
-/

set_option autoImplicit false

namespace JsonExpr.Options

/-! ### Reading -/

/-- An option read from its value; `null` and no value leave it unset, and a value that cannot be
read is an error. -/
def setting? {α : Type} (read : Json → Option α) (v : Option Json) : Option (Option α) :=
  match v with
  | none => some none
  | some .null => some none
  | some v => (read v).map some

/-- The entries of an object whose values are strings. -/
def stringEntries? : List (String × Json) → Option (Dict String)
  | [] => some []
  | (k, .string s) :: rest => (stringEntries? rest).map ((k, s) :: ·)
  | _ :: _ => none

/-- The entries of a value that is an object of strings. -/
def asHeaders? (v : Json) : Option (Dict String) := v.asObject?.bind stringEntries?

/-- The natural number a value is. -/
def asSize? (v : Json) : Option Nat := v.asNumber?.bind Number.toNatural?

/-- The connection that a record describes. -/
def asGraphQLConnection? (v : Json) : Option GraphQLConnection := do
  let fields ← recordFields? ["endpoint", "headers"] v
  let endpoint ← (Dict.get? fields "endpoint").bind Json.asString?
  let headers ← setting? asHeaders? (Dict.get? fields "headers")
  pure ⟨endpoint, headers⟩

/-- The options that an object describes.  The data may be called `objects`, but not be given twice.
-/
def ofJson? (v : Json) : Option Options := do
  let fields ← v.asObject?
  let get := Dict.get? fields
  if Dict.hasKey fields "data" && Dict.hasKey fields "objects" then none
  let data ← setting? Json.asObject? ((get "data").or (get "objects"))
  let fragments ← setting? Json.asObject? (get "fragments")
  let headers ← setting? asHeaders? (get "headers")
  let graphQLConnection ← setting? asGraphQLConnection? (get "graphQLConnection")
  let returnErrorAsString ← setting? Json.asBool? (get "returnErrorAsString")
  let allowJsonStringInput ← setting? Json.asBool? (get "allowJSONStringInput")
  let evaluateFullObject ← setting? Json.asBool? (get "evaluateFullObject")
  let skipRuntimeTypeCheck ← setting? Json.asBool? (get "skipRuntimeTypeCheck")
  let useCache ← setting? Json.asBool? (get "useCache")
  let useShorthand ← setting? Json.asBool? (get "useShorthand")
  let excludeOperators ← setting? asStringArray? (get "excludeOperators")
  let maxCacheSize ← setting? asSize? (get "maxCacheSize")
  let baseEndpoint ← setting? Json.asString? (get "baseEndpoint")
  pure { data, fragments, headers, graphQLConnection, returnErrorAsString, allowJsonStringInput,
         evaluateFullObject, skipRuntimeTypeCheck, useCache, useShorthand, excludeOperators,
         maxCacheSize, baseEndpoint }

/-! ### Showing -/

/-- An option as a value, `null` when it is not set. -/
def shown {α : Type} (write : α → Json) (o : Option α) : Json := Json.ofOption (o.map write)

/-- Headers as an object. -/
def headersToJson (headers : Dict String) : Json := .object (Dict.mapValues Json.string headers)

/-- A connection as an object, without headers that are not set. -/
def connectionToJson (c : GraphQLConnection) : Json :=
  .object (("endpoint", .string c.endpoint) ::
    optionalField "headers" (c.headers.map headersToJson))

/-- Options as an object.  Of functions only the paths are shown, of clients only whether there is
one. -/
def toJson (o : Options) : Json :=
  .object [
    ("data", shown Json.object o.data),
    ("functions", shown (fun fs => stringArray (Dict.keys fs)) o.functions),
    ("fragments", shown Json.object o.fragments),
    ("headers", shown headersToJson o.headers),
    ("httpClient", .bool o.httpClient.isSome),
    ("sqlConnection", .bool o.sqlConnection.isSome),
    ("graphQLConnection", shown connectionToJson o.graphQLConnection),
    ("returnErrorAsString", shown Json.bool o.returnErrorAsString),
    ("allowJSONStringInput", shown Json.bool o.allowJsonStringInput),
    ("evaluateFullObject", shown Json.bool o.evaluateFullObject),
    ("skipRuntimeTypeCheck", shown Json.bool o.skipRuntimeTypeCheck),
    ("useCache", shown Json.bool o.useCache),
    ("useShorthand", shown Json.bool o.useShorthand),
    ("excludeOperators", shown stringArray o.excludeOperators),
    ("maxCacheSize", shown Json.ofNat o.maxCacheSize),
    ("baseEndpoint", shown Json.string o.baseEndpoint)]

end JsonExpr.Options
