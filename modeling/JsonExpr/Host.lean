import JsonExpr.Failure
import JsonExpr.Json.Basic

/-!
# The host

What an evaluation can reach outside itself: functions of the host, an HTTP client and a database
connection.  Each has a number of its own, and each answers as a function of what it was asked
before and what it is asked now, so that a counter, a flaky service or a database that changes can
be described as well as a pure function.  Everything the host is asked is kept in a history.

Main definitions:

* `JsonExpr.HostFunction`, `JsonExpr.HttpClient`, `JsonExpr.SqlConnection` — the parts of a host;
* `JsonExpr.HttpRequest`, `JsonExpr.SqlQuery` — what clients are asked;
* `JsonExpr.Event`, `JsonExpr.History` — what the host was asked so far;
* `JsonExpr.History.callsOf` and its companions — what one part of the host was asked.
-/

set_option autoImplicit false

namespace JsonExpr

/-! ### Requests -/

/-- The method of an HTTP request. -/
inductive HttpMethod where
  | get
  | post
  deriving DecidableEq, Repr

/-- The name of a method. -/
def HttpMethod.name : HttpMethod → String
  | get => "GET"
  | post => "POST"

/-- An HTTP request, fully put together. -/
structure HttpRequest where
  /-- The method. -/
  method : HttpMethod
  /-- The address, with the query string. -/
  url : String
  /-- The headers, in order. -/
  headers : Dict String
  /-- The body of a request that has one. -/
  body : Option Json

namespace HttpRequest

/-- The headers every request starts from. -/
def jsonHeaders : Dict String :=
  [("Content-Type", "application/json"), ("Accept", "application/json")]

/-- A request with the default headers and no body. -/
def new (method : HttpMethod) (url : String) : HttpRequest := ⟨method, url, jsonHeaders, none⟩

/-- The request with headers laid over those it has. -/
def withHeaders (r : HttpRequest) (headers : Dict String) : HttpRequest :=
  { r with headers := Dict.extend r.headers headers }

/-- The request with a body. -/
def withBody (r : HttpRequest) (body : Json) : HttpRequest := { r with body := some body }

end HttpRequest

/-- A database query. -/
structure SqlQuery where
  /-- The text, with placeholders. -/
  text : String
  /-- The values for the placeholders. -/
  values : Option Json

/-! ### History -/

/-- Something the host was asked. -/
inductive Event where
  /-- A call of the function with this number, registered under this path. -/
  | call (registration : Nat) (path : String) (args : List Json)
  /-- A request to the client with this number. -/
  | http (client : Nat) (request : HttpRequest)
  /-- A query of the connection with this number. -/
  | sql (connection : Nat) (query : SqlQuery)

/-- What the host was asked so far, the latest first. -/
abbrev History := List Event

namespace History

/-- The arguments of the calls of one function, the latest first. -/
def callsOf (h : History) (registration : Nat) : List (List Json) :=
  h.filterMap fun
    | .call r _ args => if r = registration then some args else none
    | _ => none

/-- The requests to one client, the latest first. -/
def requestsTo (h : History) (client : Nat) : List HttpRequest :=
  h.filterMap fun
    | .http c request => if c = client then some request else none
    | _ => none

/-- The queries of one connection, the latest first. -/
def queriesOf (h : History) (connection : Nat) : List SqlQuery :=
  h.filterMap fun
    | .sql c query => if c = connection then some query else none
    | _ => none

end History

/-! ### The parts of a host -/

/-- A function of the host. -/
structure HostFunction where
  /-- The number under which its calls are kept. -/
  registration : Nat
  /-- How many arguments it declares. -/
  arity : Nat
  /-- The answer to a call, given the arguments of the earlier calls, the latest first. -/
  respond : List (List Json) → List Json → Except String Json

/-- A client for HTTP requests. -/
structure HttpClient where
  /-- The number under which its requests are kept. -/
  client : Nat
  /-- The answer to a request, given the earlier requests, the latest first. -/
  respond : List HttpRequest → HttpRequest → Except BackendError Json

/-- A connection for database queries. -/
structure SqlConnection where
  /-- The number under which its queries are kept. -/
  connection : Nat
  /-- The rows that answer a query, given the earlier queries, the latest first. -/
  respond : List SqlQuery → SqlQuery → Except BackendError (List (Dict Json))

/-- Where GraphQL queries are sent. -/
structure GraphQLConnection where
  /-- The address. -/
  endpoint : String
  /-- Headers for these queries. -/
  headers : Option (Dict String)

/-- The functions of a host, by path. -/
abbrev FunctionMap := Dict HostFunction

/-- The prefix that a path of a function may have. -/
def functionsPrefix : String := "functions."

/-- The function of a path, with the path under which it is registered; the prefix `functions.` may
be left out or added. -/
def FunctionMap.find? (functions : FunctionMap) (path : String) : Option (String × HostFunction) :=
  match Dict.get? functions path with
  | some f => some (path, f)
  | none =>
    match Text.after? functionsPrefix.toList path.toList with
    | none => none
    | some rest =>
      let short := String.ofList rest
      (Dict.get? functions short).map fun f => (short, f)

end JsonExpr
