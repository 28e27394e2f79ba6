import JsonExpr.Proofs.Evaluation.Calls
import JsonExpr.Proofs.Json.Extent

/-!
# Requests behind the cache

The responses to requests are kept for the requests that follow.  A response should only ever stand
in for the response to the same request, so the key under which it is kept should stand for the
request as a whole.  Three operators share the keys: GET and POST requests are kept by method,
address and parameters, GraphQL queries by address and body; what is taken from the response comes
last.

The parts of a key are joined by underscores and may have underscores themselves.  What keeps them
apart is the object in the middle: its text starts at the first bracket that follows an underscore,
and it ends where its first bracket is closed.  So method, address, body and the property that is
taken can all be recovered, unless an address has this mark itself, the address of a GraphQL query
starts with the name of a method, or the property has the name that stands for none.

The headers of a request are not part of its key.  So requests that differ in their headers share
their responses, whoever they were meant for: a response is only known to answer a request that is
alike *but for the headers*.

Main definitions:

* `JsonExpr.Query` — requests with evaluated operands, with their keys, and what they come to;
* `JsonExpr.Query.Regular` — requests whose keys can be taken apart;
* `JsonExpr.Query.Alike` — requests that are the same as far as their own headers are.

Main results:

* `JsonExpr.Asking.request_eq_run`, `JsonExpr.Asking.graphQL_eq_run` — evaluations of the operators
  come down to runs of queries;
* `JsonExpr.Query.alike_of_key_eq` — **requests that share a key are alike**;
* `JsonExpr.Query.responses_answer_alike_requests` — **along every run, a request is answered with
  the response to a request that is alike**;
* `JsonExpr.Query.served_under_other_headers` — **a response is served whatever the headers**.
-/

set_option autoImplicit false

namespace JsonExpr

/-! ### Queries -/

/-- A request of one of the operators, with its operands evaluated. -/
inductive Query (env : Env) where
  /-- A GET or POST request. -/
  | plain (method : HttpMethod) (operands : Operands)
  /-- A GraphQL query over the connection of the environment. -/
  | graphQL (connection : GraphQLConnection)
      (configured : env.options.graphQLConnection = some connection) (operands : Operands)

namespace Query

variable {env : Env}

/-- The operands. -/
def operands : Query env → Operands
  | plain _ operands => operands
  | graphQL _ _ operands => operands

/-- The method of a GET or POST request; GraphQL queries have none of their own. -/
def method? : Query env → Option HttpMethod
  | plain method _ => some method
  | graphQL .. => none

/-- The request that is sent. -/
def request : Query env → HttpRequest
  | plain method operands =>
    Request.ofHttp method env.options.baseEndpoint env.options.headers operands
  | graphQL connection _ operands => Request.ofGraphQL connection env.options.headers operands

/-- The property of the response that is taken. -/
def property : Query env → Option String
  | plain _ operands => Operands.string? operands "returnProperty"
  | graphQL _ _ operands => Operands.string? operands "returnNode"

/-- What a response comes to. -/
def result (q : Query env) : Json → Except OperatorFault Json :=
  match q.method? with
  | some _ => Request.httpResult q.property
  | none => Request.graphQLResult q.property

/-- The key under which the result is kept. -/
def key : Query env → String
  | plain method operands => Request.httpKey method env.options.baseEndpoint operands
  | graphQL connection _ operands => Request.graphQLKey connection operands

/-- What the answer of a client comes to that was asked for some requests before. -/
def answer (client : HttpClient) (earlier : List HttpRequest) (q : Query env) :
    Except OperatorFault Json :=
  ((client.respond earlier q.request).mapError .backend).bind q.result

/-- The request, sent whatever the cache has. -/
def fetch (client : HttpClient) (q : Query env) : Run OperatorFault Json := do
  let response ← client.ask q.request
  Run.ofExcept (q.result response)

/-- The request behind the cache. -/
def run (client : HttpClient) (q : Query env) : Run OperatorFault Json :=
  Asking.cached q.key (q.fetch client)

/-- A request that is sent comes to the answer, and enters the history. -/
theorem fetch_apply (client : HttpClient) (q : Query env) (w : World) :
    q.fetch client w = (some (q.answer client (History.requestsTo w.history client.client)),
      { w with history := .http client.client q.request :: w.history }) := by
  have hask : client.ask q.request w =
      (some ((client.respond (History.requestsTo w.history client.client) q.request).mapError
        .backend), { w with history := .http client.client q.request :: w.history }) := rfl
  unfold fetch answer
  cases hresponse : client.respond (History.requestsTo w.history client.client) q.request with
  | error e =>
      rw [hresponse] at hask
      rw [Run.bind_of_error hask]
      rfl
  | ok response =>
      rw [hresponse] at hask
      rw [Run.bind_of_ok hask]
      rfl

end Query

/-! ### Evaluations that reach the cache -/

namespace Asking

variable {env : Env} {ev : Evaluator OperatorFault} {props : Props} {w w' : World}
  {client : HttpClient}

/-- An option that is set lets the evaluation go on. -/
theorem need_of_eq_some {α : Type} {o : Option α} {a : α} (h : o = some a)
    (otherwise : BackendError) (w : World) : need o otherwise w = (some (.ok a), w) := by
  rw [h]
  rfl

/-- A GET or POST operator whose operands are evaluated and have their types runs a query. -/
theorem request_eq_run {k : OperatorKind} {method : HttpMethod} {operands : Operands}
    (evaluated : requestOperands ev props ["url", "returnProperty", "useCache"]
      ["parameters", "headers"] w = (some (.ok operands), w'))
    (checked : env.checkOperands k operands = .ok ())
    (hclient : env.options.httpClient = some client)
    (caches : env.options.caches (Operands.value? operands "useCache") true = true) :
    request env ev k method props w = (Query.plain method operands : Query env).run client w' := by
  have hneed := need_of_eq_some hclient .noHttpClient w'
  unfold request cachedIf
  rw [Run.bind_of_ok evaluated, Run.bind_of_ok (passes checked w'), Run.bind_of_ok hneed,
    if_pos caches]
  rfl

/-- A GraphQL operator whose operands are evaluated and have their types runs a query. -/
theorem graphQL_eq_run {found operands : Operands} {connection : GraphQLConnection}
    (evaluated : requestOperands ev props ["query", "url", "returnNode", "useCache"]
      ["variables", "headers"] w = (some (.ok found), w'))
    (hoperands : operands = if (Operands.value? found "url").any Json.isNull
      then Dict.insert found "url" none else found)
    (checked : env.checkOperands .graphQL operands = .ok ())
    (configured : env.options.graphQLConnection = some connection)
    (hclient : env.options.httpClient = some client)
    (caches : env.options.caches (Operands.value? operands "useCache") true = true) :
    graphQL env ev props w = (Query.graphQL connection configured operands).run client w' := by
  have hconnection := need_of_eq_some configured .noGraphQLConnection w'
  have hneed := need_of_eq_some hclient .noHttpClient w'
  unfold graphQL cachedIf
  rw [Run.bind_of_ok evaluated, ← hoperands, Run.bind_of_ok (passes checked w'),
    Run.bind_of_ok hconnection, Run.bind_of_ok hneed, if_pos caches]
  rfl

end Asking

namespace Query

variable {env : Env}

/-! ### The parts of a key -/

/-- What stands in front of the address in a key. -/
def tag : Option HttpMethod → List Char
  | some method => method.name.toList ++ ['_']
  | none => []

/-- The first part of a key: the address, after the method of a GET or POST request. -/
def address (q : Query env) : List Char := tag q.method? ++ q.request.url.toList

/-- The second part of a key: the entries of the object in the middle. -/
def content : Query env → List (String × Json)
  | plain _ operands => Request.parametersOf operands
  | graphQL _ _ operands => ((Request.graphQLBody operands).asObject?).getD []

/-- The last part of a key: the property that is taken, or the word for none. -/
def label (q : Query env) : List Char := (q.property.getD "null").toList

/-- Where the object in the middle of a key starts: behind an underscore, with a bracket. -/
def mark : List Char := ['_', '{']

theorem toList_keyPart_object (fields : List (String × Json)) :
    (ResultCache.keyPart (.object fields)).toList = Json.render (.object fields) := by
  rw [ResultCache.keyPart, Json.compact, String.toList_ofList]
  simp

theorem toList_keyPart_property (property : Option String) :
    (ResultCache.keyPart (Json.ofOption (property.map Json.string))).toList =
      (property.getD "null").toList := by
  cases property <;> rfl

theorem url_plain (method : HttpMethod) (operands : Operands) :
    (plain method operands : Query env).request.url =
      Request.urlOf method env.options.baseEndpoint operands := by
  cases method <;> rfl

theorem url_graphQL (connection : GraphQLConnection)
    (configured : env.options.graphQLConnection = some connection) (operands : Operands) :
    (graphQL connection configured operands).request.url =
      Request.resolveEndpoint (Operands.string? operands "url") connection := rfl

/-- A key is made of its three parts. -/
theorem toList_key (q : Query env) :
    q.key.toList = q.address ++ '_' :: (Json.render (.object q.content) ++ '_' :: q.label) := by
  have hstring : ∀ s, ResultCache.keyPart (.string s) = s := fun _ => rfl
  cases q with
  | plain method operands =>
      simp [key, Request.httpKey, ResultCache.key, Text.joinStrings, hstring, toList_keyPart_object,
        toList_keyPart_property, address, tag, method?, url_plain, content, label, property]
  | graphQL connection configured operands =>
      have hbody : (ResultCache.keyPart (Request.graphQLBody operands)).toList =
          Json.render (.object (content (graphQL connection configured operands))) :=
        toList_keyPart_object _
      simp [key, Request.graphQLKey, ResultCache.key, Text.joinStrings, hstring, hbody,
        toList_keyPart_property, address, tag, method?, url_graphQL, label, property]

/-- An address that does not have the mark ends in front of the first one. -/
theorem append_mark_inj {a b s t : List Char} (ha : ¬ mark <:+: a) (hb : ¬ mark <:+: b)
    (h : a ++ '_' :: '{' :: s = b ++ '_' :: '{' :: t) : a = b ∧ '{' :: s = '{' :: t := by
  -- A text that starts where another has its mark, and goes on, has the mark itself.
  have hgoes : ∀ {c : Char} {b s t : List Char}, ¬ mark <:+: c :: b →
      '_' :: '{' :: s ≠ c :: b ++ '_' :: '{' :: t := by
    rintro c (_ | ⟨d, b⟩) s t hfree heq
    · simp at heq
    · simp only [List.cons_append, List.cons.injEq] at heq
      obtain ⟨rfl, rfl, -⟩ := heq
      exact hfree ⟨[], b, rfl⟩
  induction a generalizing b with
  | nil =>
      cases b with
      | nil => exact ⟨rfl, List.cons_inj_right _ |>.mp h⟩
      | cons c b => exact absurd h (hgoes hb)
  | cons c a ih =>
      cases b with
      | nil => exact absurd h.symm (hgoes ha)
      | cons d b =>
          obtain ⟨rfl, htail⟩ := List.cons_eq_cons.mp h
          obtain ⟨rfl, hrest⟩ := ih (fun hin => ha (List.infix_cons hin))
            (fun hin => hb (List.infix_cons hin)) htail
          exact ⟨rfl, hrest⟩

/-! ### Requests that share a key -/

/-- A request whose key can be taken apart. -/
structure Regular (q : Query env) : Prop where
  /-- The address does not have the mark of the object that follows it. -/
  address : ¬ mark <:+: q.address
  /-- The address of a GraphQL query does not start like that of a GET or POST request. -/
  method : q.method? = none → ∀ method, ¬ tag (some method) <+: q.address
  /-- The property that is taken does not have the name that stands for none. -/
  property : q.property ≠ some "null"

/-- The headers of the request itself. -/
def headers (q : Query env) : Dict String := Request.headersOf q.operands

/-- Requests that are the same as far as their own headers are, and take the same from their
responses. -/
structure Alike (q q' : Query env) : Prop where
  method : q.request.method = q'.request.method
  url : q.request.url = q'.request.url
  body : q.request.body.map Json.compact = q'.request.body.map Json.compact
  property : q.property = q'.property
  result : q.result = q'.result
  headers : q.headers = q'.headers → q.request.headers = q'.request.headers

/-- The parts of the keys of regular requests are the same where the keys are. -/
theorem parts_of_key_eq {q q' : Query env} (hq : q.Regular) (hq' : q'.Regular)
    (hkey : q.key = q'.key) : q.address = q'.address ∧
      Json.render (.object q.content) = Json.render (.object q'.content) ∧
      q.property = q'.property := by
  have htexts := congrArg String.toList hkey
  rw [toList_key, toList_key] at htexts
  obtain ⟨haddress, hrest⟩ := append_mark_inj hq.address hq'.address htexts
  obtain ⟨hcontent, hlabel⟩ := Json.render_object_append_inj hrest
  refine ⟨haddress, hcontent, ?_⟩
  have hlabels : q.property.getD "null" = q'.property.getD "null" :=
    String.toList_inj.mp ((List.cons_inj_right _).mp hlabel)
  have hproperty := hq.property
  have hproperty' := hq'.property
  cases hp : q.property <;> cases hp' : q'.property <;> simp_all [eq_comm]

/-- Which operator a request is of can be read off its address. -/
theorem method?_of_address_eq {q q' : Query env} (hq : q.Regular) (hq' : q'.Regular)
    (haddress : q.address = q'.address) : q.method? = q'.method? := by
  cases hm : q.method? with
  | none =>
      cases hm' : q'.method? with
      | none => rfl
      | some method' =>
          have hstart : tag (some method') <+: q.address := by
            rw [haddress, address, hm']
            exact List.prefix_append _ _
          exact absurd hstart (hq.method hm method')
  | some method =>
      cases hm' : q'.method? with
      | none =>
          have hstart : tag (some method) <+: q'.address := by
            rw [← haddress, address, hm]
            exact List.prefix_append _ _
          exact absurd hstart (hq'.method hm' method)
      | some method' =>
          rw [address, address, hm, hm'] at haddress
          cases method <;> cases method' <;>
            first | rfl | simp [tag, HttpMethod.name] at haddress

/-! ### What a request is made of -/

theorem method_request (q : Query env) : q.request.method = q.method?.getD .post := by
  rcases q with ⟨_ | _, _⟩ | _ <;> rfl

/-- The body that is sent is the object in the middle of the key, except that GET requests have
none. -/
theorem body_request (q : Query env) : q.request.body.map Json.compact =
    if q.method? = some .get then none
    else some (String.ofList (Json.render (.object q.content))) := by
  rcases q with ⟨_ | _, _⟩ | _ <;> rfl

/-- The headers that all requests of one operator have. -/
def commonHeaders (env : Env) (method : Option HttpMethod) : Dict String :=
  let first := match method with
    | some _ => HttpRequest.jsonHeaders
    | none => Dict.extend HttpRequest.jsonHeaders
        ((env.options.graphQLConnection.bind GraphQLConnection.headers).getD [])
  Dict.extend first (env.options.headers.getD [])

theorem headers_request (q : Query env) :
    q.request.headers = Dict.extend (commonHeaders env q.method?) q.headers := by
  rcases q with ⟨_ | _, _⟩ | ⟨connection, configured, operands⟩
  · rfl
  · rfl
  · unfold commonHeaders
    rw [configured]
    rfl

/-- **Requests that share a key are alike.** -/
theorem alike_of_key_eq {q q' : Query env} (hq : q.Regular) (hq' : q'.Regular)
    (hkey : q.key = q'.key) : q.Alike q' := by
  obtain ⟨haddress, hcontent, hproperty⟩ := parts_of_key_eq hq hq' hkey
  have hmethod := method?_of_address_eq hq hq' haddress
  exact {
    method := by rw [method_request, method_request, hmethod]
    url := by
      rw [address, address, hmethod] at haddress
      exact String.toList_inj.mp (List.append_cancel_left haddress)
    body := by rw [body_request, body_request, hmethod, hcontent]
    property := hproperty
    result := by rw [result, result, hmethod, hproperty]
    headers := fun hheaders => by rw [headers_request, headers_request, hmethod, hheaders] }

/-- A property by the name of nothing: it cannot be told from none. -/
example : Request.httpKey .get none [("url", some (.string "u"))] =
    Request.httpKey .get none
      [("url", some (.string "u")), ("returnProperty", some (.string "null"))] := by
  decide +kernel

/-- An address with the mark: what follows the mark may as well belong to the property. -/
example : Request.httpKey .get none
      [("url", some (.string "u")), ("returnProperty", some (.string "v_\x7b\x7d_w"))] =
    Request.httpKey .get none
      [("url", some (.string "u_\x7b\x7d_v")), ("returnProperty", some (.string "w"))] := by
  decide +kernel

/-- A query to an address that starts like that of a POST request. -/
example : Request.graphQLKey ⟨"", none⟩ [("url", some (.string "POST_u"))] =
    Request.httpKey .post none [("url", some (.string "u")),
      ("parameters", some (.object [("query", .string ""), ("variables", .object [])]))] := by
  decide +kernel

/-! ### Runs of requests -/

/-- The world after some requests behind the cache. -/
def runAll (client : HttpClient) (queries : List (Query env)) (w : World) : World :=
  queries.foldl (fun w q => (q.run client w).2) w

/-- Every result in the cache is what a response to a request of the list with its key comes to. -/
def Accounts (client : HttpClient) (queries : List (Query env)) (cache : ResultCache) : Prop :=
  cache.EachResult fun key v =>
    ∃ q ∈ queries, q.key = key ∧ ∃ earlier, q.answer client earlier = .ok v

section Runs

variable {client : HttpClient} {queries : List (Query env)} {q : Query env} {w : World}

/-- A request behind a cache comes to what a response to a request with its key comes to, and the
cache still accounts for its results. -/
theorem run_accounts (hq : q ∈ queries) (hw : Accounts client queries w.cache) :
    (∀ v, (q.run client w).1 = some (.ok v) →
        ∃ q' ∈ queries, q'.key = q.key ∧ ∃ earlier, q'.answer client earlier = .ok v) ∧
      Accounts client queries (q.run client w).2.cache := by
  obtain ⟨hanswer, haccounts⟩ := Asking.cached_eachResult hw (q.fetch_apply client w) rfl
    fun v hv => ⟨q, hq, rfl, _, hv⟩
  refine ⟨fun v hv => ?_, haccounts⟩
  rcases hanswer with ⟨u, hu, hfound⟩ | hfetched
  · cases hu.symm.trans hv
    exact hfound
  · exact ⟨q, hq, rfl, _, Option.some.inj (hfetched.symm.trans hv)⟩

theorem runAll_accounts (more : List (Query env)) (hsub : ∀ q ∈ more, q ∈ queries)
    (hw : Accounts client queries w.cache) :
    Accounts client queries (runAll client more w).cache := by
  induction more generalizing w with
  | nil => exact hw
  | cons q rest ih =>
      exact ih (fun q' hq' => hsub q' (List.mem_cons_of_mem q hq'))
        (run_accounts (hsub q List.mem_cons_self) hw).2

end Runs

/-- **Responses answer requests that are alike.**  Regular requests with the same key have the same
method, address and body and take the same property; if their own headers are the same, so are all
the headers they are sent with.  So after any requests behind a cache that was empty, a request is
answered with what a response to such a request comes to. -/
theorem responses_answer_alike_requests (client : HttpClient) {queries : List (Query env)}
    {q : Query env} (regular : ∀ q' ∈ q :: queries, q'.Regular) :
    (∀ q' ∈ queries, q'.key = q.key → q'.Alike q) ∧
      ∀ (w : World) (bound : Nat) (v : Json), w.cache = ResultCache.empty bound →
        (q.run client (runAll client queries w)).1 = some (.ok v) →
        ∃ q' ∈ q :: queries, q'.Alike q ∧ ∃ earlier, q'.answer client earlier = .ok v := by
  have halike : ∀ q' ∈ q :: queries, q'.key = q.key → q'.Alike q := fun q' hq' hkey =>
    alike_of_key_eq (regular q' hq') (regular q List.mem_cons_self) hkey
  refine ⟨fun q' hq' => halike q' (List.mem_cons_of_mem q hq'), fun w bound v hw hv => ?_⟩
  have hempty : Accounts client (q :: queries) w.cache := by
    rw [hw]
    exact ResultCache.eachResult_empty bound
  have haccounts := runAll_accounts queries (fun q' => List.mem_cons_of_mem q) hempty
  obtain ⟨q', hq', hkey, hanswer⟩ := (run_accounts List.mem_cons_self haccounts).1 v hv
  exact ⟨q', hq', halike q' hq' hkey, hanswer⟩

/-! ### Other headers -/

/-- The request with other headers of its own. -/
def withHeaders (q : Query env) (headers : Option Json) : Query env :=
  match q with
  | plain method operands => plain method (Dict.insert operands "headers" headers)
  | graphQL connection configured operands =>
    graphQL connection configured (Dict.insert operands "headers" headers)

/-- The headers of a request are not part of its key. -/
theorem key_withHeaders (q : Query env) (headers : Option Json) :
    (q.withHeaders headers).key = q.key := by
  have hother : ∀ (operands : Operands) (name : String), name ≠ "headers" →
      Operands.value? (Dict.insert operands "headers" headers) name =
        Operands.value? operands name := by
    intro operands name hname
    rw [Operands.value?, Operands.value?, Dict.get?_insert_of_ne _ _ hname]
  cases q with
  | plain method operands =>
      simp [withHeaders, key, Request.httpKey, Request.urlOf, Request.parametersOf,
        Operands.string?, Operands.object?, hother]
  | graphQL connection configured operands =>
      simp [withHeaders, key, Request.graphQLKey, Request.graphQLBody, Operands.string?, hother]

/-- **A response is served whatever the headers.**  After a request that was answered, the same
request with other headers is answered alike, and nothing is sent for it. -/
theorem served_under_other_headers {client : HttpClient} {q : Query env} {w : World} {v : Json}
    (hcache : w.cache.Paired) (hnew : w.cache.contains q.key = false) (place : 0 < w.cache.bound)
    (hv : q.answer client (History.requestsTo w.history client.client) = .ok v)
    (headers : Option Json) :
    ((q.withHeaders headers).run client (q.run client w).2).1 = some (.ok v) ∧
      ((q.withHeaders headers).run client (q.run client w).2).2.history =
        (q.run client w).2.history := by
  have hmiss := ResultCache.result?_eq_none hnew
  have hkept : (q.run client w).2.cache.result? (q.withHeaders headers).key = some v := by
    rw [key_withHeaders, run, Asking.cached_of_no_result hmiss (q.fetch_apply client w), hv]
    exact hcache.result?_settle_ok (ε := OperatorFault) hnew place v
  have hserved : (q.withHeaders headers).run client (q.run client w).2 =
      (some (.ok v), _) := Asking.cached_of_result hkept
  rw [hserved]
  exact ⟨rfl, rfl⟩

/-! ### One authorization and another -/

/-- A client that answers with the authorization of a request. -/
def authorizing : HttpClient :=
  ⟨0, fun _ request =>
    .ok (Json.ofOption ((Dict.get? request.headers "Authorization").map Json.string))⟩

/-- A host with that client. -/
def authorizingHost : Env := ⟨{ httpClient := some authorizing }, Registry.full⟩

/-- A request with an authorization. -/
def authorized (name : String) : Query authorizingHost :=
  plain .get [("url", some (.string "u")),
    ("headers", some (.object [("Authorization", .string name)]))]

theorem regular_authorized (name : String) : (authorized name).Regular where
  address := by
    have hurl : (authorized name).request.url = "u" := rfl
    rw [address, hurl]
    exact show ¬ mark <:+: tag (some .get) ++ "u".toList by decide
  method := nofun
  property := nofun

/-- Requests with two authorizations share a key, and are alike in all but their headers; so the
second is answered with the response to the first. -/
theorem requests_of_two_authorizations_are_alike :
    let q := authorized "a"
    let q' := authorized "b"
    let w : World := ⟨[], ResultCache.empty 10, []⟩
    (∀ r ∈ [q', q], r.Regular) ∧ q.key = q'.key ∧ q.Alike q' ∧
      w.cache = ResultCache.empty 10 ∧
      (q'.run authorizing (runAll authorizing [q] w)).1 = some (.ok (.string "a")) ∧
      ∃ r ∈ [q', q], r.Alike q' ∧ ∃ earlier, r.answer authorizing earlier = .ok (.string "a") := by
  intro q q' w
  have regular : ∀ r ∈ [q', q], r.Regular := by
    simp [q, q', regular_authorized]
  have hkey : q.key = q'.key := (key_withHeaders q' _).symm
  have hserved : (q'.run authorizing (runAll authorizing [q] w)).1 = some (.ok (.string "a")) := rfl
  obtain ⟨halike, hanswered⟩ := responses_answer_alike_requests authorizing regular
  exact ⟨regular, hkey, halike q List.mem_cons_self hkey, rfl, hserved,
    hanswered w 10 (.string "a") rfl hserved⟩

/-- Evaluation of a GET operator with an authorization. -/
def getAuthorized (name : String) : Run OperatorFault Json :=
  Asking.request authorizingHost (Evaluation.inside (eval authorizingHost 2)) .get .get
    [("url", .string "u"), ("headers", .object [("Authorization", .string name)])]

/-- Requests with two authorizations are different, but their keys are the same: evaluated on its
own, the second is sent and answered for its own authorization; evaluated after the first, it is not
sent but answered for the authorization of the first. -/
theorem response_is_served_to_other_authorization :
    let w : World := ⟨[], ResultCache.empty 10, []⟩
    (authorized "a").key = (authorized "b").key ∧
      (authorized "a").request.headers ≠ (authorized "b").request.headers ∧
      (getAuthorized "b" w).1 = some (.ok (.string "b")) ∧
      (getAuthorized "b" (getAuthorized "a" w).2).1 = some (.ok (.string "a")) ∧
      (getAuthorized "b" (getAuthorized "a" w).2).2.history = (getAuthorized "a" w).2.history :=
  ⟨(key_withHeaders (authorized "b") _).symm, by decide, rfl, rfl, rfl⟩

end Query

end JsonExpr
