import JsonExpr.Host

/-!
# Options

What an evaluator can be told.  Every option may be left unset, which is different from being set to
its default: options are merged layer by layer, and an unset option lets the layer below show.

Main definitions:

* `JsonExpr.Options` — the options;
* `JsonExpr.Options.merge` — a layer of options over another;
* `JsonExpr.Options.withData` and its companions — one option set;
* `JsonExpr.Options.showsErrors` and its companions — the switches with their defaults.
-/

set_option autoImplicit false

namespace JsonExpr

/-- The options of an evaluator. -/
structure Options where
  /-- The data that paths lead into. -/
  data : Option (Dict Json) := none
  /-- The functions of the host. -/
  functions : Option FunctionMap := none
  /-- Named templates. -/
  fragments : Option (Dict Json) := none
  /-- Headers of every request. -/
  headers : Option (Dict String) := none
  /-- The client for HTTP requests. -/
  httpClient : Option HttpClient := none
  /-- The connection for database queries. -/
  sqlConnection : Option SqlConnection := none
  /-- Where GraphQL queries are sent. -/
  graphQLConnection : Option GraphQLConnection := none
  /-- Whether a failure becomes its message. -/
  returnErrorAsString : Option Bool := none
  /-- Whether strings that hold a node as JSON text are evaluated. -/
  allowJsonStringInput : Option Bool := none
  /-- Whether plain objects are evaluated property by property. -/
  evaluateFullObject : Option Bool := none
  /-- Whether operands go unchecked. -/
  skipRuntimeTypeCheck : Option Bool := none
  /-- Whether results are cached, whatever the operator's default. -/
  useCache : Option Bool := none
  /-- Whether shorthand is expanded. -/
  useShorthand : Option Bool := none
  /-- Names of operators that may not be used. -/
  excludeOperators : Option (List String) := none
  /-- The bound of the result cache. -/
  maxCacheSize : Option Nat := none
  /-- What relative addresses are relative to. -/
  baseEndpoint : Option String := none

namespace Options

/-- No option set. -/
def empty : Options := {}

/-- The layer `newer` where it is set, else the layer below. -/
def layer {α : Type} (older newer : Option α) : Option α := newer.or older

/-- Two dictionaries key by key, where both are set. -/
def mergeDict {α : Type} (older newer : Option (Dict α)) : Option (Dict α) :=
  match older, newer with
  | some a, some b => some (Dict.extend a b)
  | a, b => layer a b

/-- The layer `newer` over `older`: data, functions and headers key by key, any other option as a
whole. -/
def merge (older newer : Options) : Options where
  data := mergeDict older.data newer.data
  functions := mergeDict older.functions newer.functions
  fragments := layer older.fragments newer.fragments
  headers := mergeDict older.headers newer.headers
  httpClient := layer older.httpClient newer.httpClient
  sqlConnection := layer older.sqlConnection newer.sqlConnection
  graphQLConnection := layer older.graphQLConnection newer.graphQLConnection
  returnErrorAsString := layer older.returnErrorAsString newer.returnErrorAsString
  allowJsonStringInput := layer older.allowJsonStringInput newer.allowJsonStringInput
  evaluateFullObject := layer older.evaluateFullObject newer.evaluateFullObject
  skipRuntimeTypeCheck := layer older.skipRuntimeTypeCheck newer.skipRuntimeTypeCheck
  useCache := layer older.useCache newer.useCache
  useShorthand := layer older.useShorthand newer.useShorthand
  excludeOperators := layer older.excludeOperators newer.excludeOperators
  maxCacheSize := layer older.maxCacheSize newer.maxCacheSize
  baseEndpoint := layer older.baseEndpoint newer.baseEndpoint

/-! ### Setting one option -/

/-- Sets the data, if they are an object. -/
def withData (o : Options) (v : Json) : Options :=
  match v with
  | .object fields => { o with data := some fields }
  | _ => o

/-- Adds a function of the host. -/
def withFunction (o : Options) (path : String) (f : HostFunction) : Options :=
  { o with functions := some (Dict.insert (o.functions.getD []) path f) }

/-- Adds a fragment. -/
def withFragment (o : Options) (name : String) (definition : Json) : Options :=
  { o with fragments := some (Dict.insert (o.fragments.getD []) name definition) }

/-- Adds a header. -/
def withHeader (o : Options) (name value : String) : Options :=
  { o with headers := some (Dict.insert (o.headers.getD []) name value) }

/-- Sets where GraphQL queries are sent, without headers of their own. -/
def withGraphQLConnection (o : Options) (endpoint : String) : Options :=
  { o with graphQLConnection := some ⟨endpoint, none⟩ }

/-! ### Switches with their defaults -/

/-- Whether a failure becomes its message. -/
def showsErrors (o : Options) : Bool := o.returnErrorAsString.getD false

/-- Whether strings that hold a node are evaluated. -/
def readsStrings (o : Options) : Bool := o.allowJsonStringInput.getD false

/-- Whether plain objects are evaluated property by property. -/
def entersObjects (o : Options) : Bool := o.evaluateFullObject.getD false

/-- Whether operands go unchecked. -/
def skipsChecks (o : Options) : Bool := o.skipRuntimeTypeCheck.getD false

/-- Whether shorthand is expanded. -/
def expandsShorthand (o : Options) : Bool := o.useShorthand.getD false

/-- Whether a result is cached: by the node's own switch, else by the option, else by the default of
the operator. -/
def caches (o : Options) (node : Option Json) (default : Bool) : Bool :=
  ((node.bind Json.asBool?).or o.useCache).getD default

end Options

end JsonExpr
