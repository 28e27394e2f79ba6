import JsonExpr.Cache
import JsonExpr.Coercion
import JsonExpr.Host
import JsonExpr.Path
import JsonExpr.TypeCheck

/-!
# Requests and responses

How the operands of a request become what a client is asked, under which key the result is kept, and
how the response becomes a value.

Main definitions:

* `JsonExpr.Request.joinEndpoint`, `JsonExpr.Request.queryString` — addresses;
* `JsonExpr.Request.ofHttp`, `JsonExpr.Request.ofGraphQL` — requests from operands;
* `JsonExpr.Request.httpKey`, `JsonExpr.Request.graphQLKey`, `JsonExpr.Request.sqlKey` — cache keys;
* `JsonExpr.Request.responseData` — the data of a GraphQL response;
* `JsonExpr.RowShape` — the value that rows become.
-/

set_option autoImplicit false

namespace JsonExpr

namespace Request

/-! ### Addresses -/

/-- Whether a text starts with another. -/
def startsWith (start : String) (text : List Char) : Bool := (Text.after? start.toList text).isSome

/-- An address relative to a base, unless it is absolute; one slash stands between the two. -/
def joinEndpoint (base : Option String) (url : String) : String :=
  match base with
  | none => url
  | some base =>
    let path := url.toList
    if startsWith "http://" path || startsWith "https://" path then url
    else String.ofList (Text.dropRight (· == '/') base.toList ++ '/' ::
      Text.dropLeft (· == '/') path)

/-- Parameters as a query string. -/
def queryString (parameters : Dict Json) : String :=
  Text.joinStrings "&" (parameters.map fun (k, v) => k ++ "=" ++ v.toText)

/-- The headers that an operand holds. -/
def headersOf (operands : Operands) : Dict String :=
  Dict.mapValues Json.toText ((Operands.object? operands "headers").getD [])

/-! ### Plain requests -/

/-- The parameters of a plain request. -/
def parametersOf (operands : Operands) : Dict Json :=
  (Operands.object? operands "parameters").getD []

/-- The address of a plain request; parameters of a GET request are part of it. -/
def urlOf (method : HttpMethod) (base : Option String) (operands : Operands) : String :=
  let url := joinEndpoint base ((Operands.string? operands "url").getD "")
  let parameters := parametersOf operands
  match method with
  | .get => if parameters.isEmpty then url else url ++ "?" ++ queryString parameters
  | .post => url

/-- A plain request; the parameters of a POST request are its body. -/
def ofHttp (method : HttpMethod) (base : Option String) (headers : Option (Dict String))
    (operands : Operands) : HttpRequest :=
  let request := HttpRequest.new method (urlOf method base operands)
  let request := match method with
    | .get => request
    | .post => request.withBody (.object (parametersOf operands))
  (request.withHeaders (headers.getD [])).withHeaders (headersOf operands)

/-- The key under which the result of a plain request is kept. -/
def httpKey (method : HttpMethod) (base : Option String) (operands : Operands) : String :=
  ResultCache.key [.string method.name, .string (urlOf method base operands),
    .object (parametersOf operands),
    Json.ofOption ((Operands.string? operands "returnProperty").map Json.string)]

/-- The value of a plain response. -/
def httpResult (returnProperty : Option String) (response : Json) : Except OperatorFault Json :=
  match Path.extractSimplified? response returnProperty with
  | some v => .ok v
  | none => .error (.noReturnProperty (returnProperty.getD ""))

/-! ### GraphQL -/

/-- The address that stands for the one of the connection. -/
def endpointToken : String := "graphqlendpoint"

/-- The address of a GraphQL query: its own, unless it is empty or stands for the connection's. -/
def resolveEndpoint (url : Option String) (c : GraphQLConnection) : String :=
  match url with
  | none => c.endpoint
  | some url =>
    if url = "" || String.ofList (url.toList.map Char.toLower) = endpointToken then c.endpoint
    else url

/-- The body of a GraphQL query. -/
def graphQLBody (operands : Operands) : Json :=
  .object [("query", .string ((Operands.string? operands "query").getD "")),
    ("variables", (Operands.value? operands "variables").getD (.object []))]

/-- A GraphQL query as a request. -/
def ofGraphQL (c : GraphQLConnection) (headers : Option (Dict String)) (operands : Operands) :
    HttpRequest :=
  let url := resolveEndpoint (Operands.string? operands "url") c
  let request := (HttpRequest.new .post url).withBody (graphQLBody operands)
  ((request.withHeaders (c.headers.getD [])).withHeaders (headers.getD [])).withHeaders
    (headersOf operands)

/-- The key under which the result of a GraphQL query is kept. -/
def graphQLKey (c : GraphQLConnection) (operands : Operands) : String :=
  ResultCache.key [.string (resolveEndpoint (Operands.string? operands "url") c),
    graphQLBody operands,
    Json.ofOption ((Operands.string? operands "returnNode").map Json.string)]

/-- What a GraphQL response without data, or with errors but no message, is reported as. -/
def queryProblem : String := "GraphQL query problem"

/-- The message of the first error that a response reports. -/
def firstError (errors : Json) : String :=
  match errors with
  | .array (first :: _) => ((first.field? "message").bind Json.asString?).getD queryProblem
  | _ => queryProblem

/-- The data of a GraphQL response, or the first error it reports. -/
def responseData (response : Json) : Except BackendError Json :=
  match (response.field? "errors").filter fun e => !e.isNull with
  | some errors => .error (.graphQL (firstError errors))
  | none =>
    match (response.field? "data").filter fun d => !d.isNull with
    | some data => .ok data
    | none => .error (.invalidResponse queryProblem)

/-- The value of a GraphQL response. -/
def graphQLResult (returnNode : Option String) (response : Json) : Except OperatorFault Json :=
  match responseData response with
  | .error e => .error (.backend e)
  | .ok data =>
    match Path.extractSimplified? data returnNode with
    | some v => .ok v
    | none => .error (.noReturnNode (returnNode.getD ""))

end Request

/-! ### Rows -/

/-- What the rows of a query become. -/
inductive RowShape where
  /-- The rows themselves, or only the first; each as an object or as the array of its values. -/
  | rows (single flatten : Bool)
  /-- All values in one array. -/
  | array
  /-- The texts of all values in one string. -/
  | text
  /-- The first value as a number. -/
  | number
  deriving DecidableEq, Repr

namespace RowShape

/-- The shape that the operands of a query ask for. -/
def ofOperands (operands : Operands) : RowShape :=
  match Operands.string? operands "type" with
  | some "array" => array
  | some "string" => text
  | some "number" => number
  | _ => rows ((Operands.bool? operands "single").getD false)
      ((Operands.bool? operands "flatten").getD false)

/-- A shape as part of a cache key. -/
def label : RowShape → String
  | rows single flatten =>
    "Rows \x7b single: " ++ toString single ++ ", flatten: " ++ toString flatten ++ " \x7d"
  | array => "Array"
  | text => "Text"
  | number => "Number"

/-- The values of all rows. -/
def allValues (found : List (Dict Json)) : List Json := found.flatMap Dict.values

/-- One row as a value. -/
def ofRow (flatten : Bool) (row : Dict Json) : Json :=
  if flatten then .array (Dict.values row) else .object row

/-- The value that rows become. -/
def apply : RowShape → List (Dict Json) → Json
  | array, found => .array (allValues found)
  | text, found => .string (Text.joinStrings " " ((allValues found).map Json.toText))
  | number, found =>
    match allValues found with
    | v :: _ => Json.ofNumeric v.toNumber
    | [] => .null
  | rows true flatten, found => Json.ofOption (found.head?.map (ofRow flatten))
  | rows false flatten, found => .array (found.map (ofRow flatten))

end RowShape

namespace Request

/-- A database query from operands. -/
def ofSql (operands : Operands) : SqlQuery :=
  ⟨(Operands.string? operands "query").getD "", Operands.value? operands "values"⟩

/-- The key under which the result of a database query is kept. -/
def sqlKey (operands : Operands) : String :=
  let query := ofSql operands
  ResultCache.key [.string query.text, Json.ofOption query.values,
    .string (RowShape.ofOperands operands).label]

end Request

end JsonExpr
