import JsonExpr.Host
import JsonExpr.Json.Printer

/-!
# Ready-made hosts

Functions and clients with simple, known behaviour, for trying expressions out.

Main definitions:

* `JsonExpr.HostFunction.echo` and its companions — functions;
* `JsonExpr.HttpClient.canned`, `JsonExpr.HttpClient.failing` — clients that answer from a table, or
  never;
* `JsonExpr.SqlConnection.canned`, `JsonExpr.SqlConnection.failing` — the same for queries.
-/

set_option autoImplicit false

namespace JsonExpr

namespace HostFunction

/-- Answers with its first argument. -/
def echo (registration : Nat) : HostFunction :=
  ⟨registration, 1, fun _ args => .ok (Json.ofOption args.head?)⟩

/-- Answers with all its arguments. -/
def collect (registration : Nat) : HostFunction :=
  ⟨registration, 0, fun _ args => .ok (.array args)⟩

/-- The integer in a value, as a signed 64-bit integer; zero if there is none. -/
def signedOf (v : Option Json) : Int := ((v.bind Json.asNumber?).bind Number.toSigned?).getD 0

/-- Answers with twice its first argument, in 64-bit arithmetic that wraps around. -/
def double (registration : Nat) : HostFunction :=
  ⟨registration, 1, fun _ args =>
    .ok (Json.ofOption ((Number.ofInt? (Int.bmod (2 * signedOf args.head?) (Nat.pow 2 64))).map
      Json.number))⟩

/-- Answers with the number of its calls. -/
def counter (registration : Nat) : HostFunction :=
  ⟨registration, 0, fun earlier _ => .ok (Json.ofNat (earlier.length + 1))⟩

/-- Fails when it is called for the first time. -/
def flaky (registration : Nat) : HostFunction :=
  ⟨registration, 0, fun earlier _ =>
    if earlier.isEmpty then .error "not yet" else .ok (.string "ok")⟩

/-- Always answers with one value. -/
def constant (registration arity : Nat) (v : Json) : HostFunction :=
  ⟨registration, arity, fun _ _ => .ok v⟩

/-- Always fails. -/
def throwing (registration arity : Nat) (text : String) : HostFunction :=
  ⟨registration, arity, fun _ _ => .error text⟩

end HostFunction

namespace HttpClient

/-- An address without its query string. -/
def withoutQuery (url : String) : String := String.ofList (url.toList.takeWhile (· != '?'))

/-- Answers from a table: by the whole address, else by the address without its query string. -/
def canned (client : Nat) (responses : Dict Json) : HttpClient :=
  ⟨client, fun _ request =>
    match (Dict.get? responses request.url).or (Dict.get? responses (withoutQuery request.url)) with
    | some v => .ok v
    | none => .error (.http 404 "Not Found")⟩

/-- Always fails. -/
def failing (client : Nat) (error : BackendError) : HttpClient := ⟨client, fun _ _ => .error error⟩

end HttpClient

namespace SqlConnection

/-- Answers every query with the rows among the given values. -/
def canned (connection : Nat) (rows : List Json) : SqlConnection :=
  ⟨connection, fun _ _ => .ok (rows.filterMap Json.asObject?)⟩

/-- Always fails. -/
def failing (connection : Nat) (error : BackendError) : SqlConnection :=
  ⟨connection, fun _ _ => .error error⟩

end SqlConnection

end JsonExpr
