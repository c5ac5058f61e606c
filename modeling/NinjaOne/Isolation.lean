import NinjaOne.ApiClient
import NinjaOne.Lib.UrlRef

/-!
What one tenant's calls leave behind for another's: the shared HTTP client.

`_get_http_client` keeps one `httpx.AsyncClient` for the process. Credentials go
into each request's headers, but the client also carries a cookie jar: every
response it receives may store cookies, and every request it sends to a place
they belong to takes them along. How cookies are read from a response and where
they belong is the `CookiePolicy`, a parameter.

Whatever came before, the requests of a call are the same up to cookies
(`wire_same_without_cookies`); they are the same altogether exactly when no
cookie in the jar belongs to the call's URL (`wire_isolated_iff`).
`session_leaks` is one tenant's session sent with another's token.
-/

namespace NinjaOne

/-! ### The cookie jar -/

structure Cookie where
  name : String
  value : String
  domain : String
  path : String
deriving DecidableEq

/-- A cookie replaces the one of the same name for the same place. -/
def Cookie.sameKey (c d : Cookie) : Bool :=
  c.name == d.name && c.domain == d.domain && c.path == d.path

/-- What one `Set-Cookie` header does to the jar. -/
inductive CookieChange where
  | store (c : Cookie)
  | discard (c : Cookie)

/-- The client's cookies, oldest first. -/
abbrev Jar := List Cookie

def Jar.apply (jar : Jar) : CookieChange → Jar
  | .store c => jar.filter (fun d => !d.sameKey c) ++ [c]
  | .discard c => jar.filter (fun d => !d.sameKey c)

/-- How the HTTP client treats cookies and its own default headers. -/
structure CookiePolicy where
  /-- The changes asked for by a response received from a URL. -/
  changes : String → Response → List CookieChange
  /-- Whether a cookie goes along with a request to a URL. -/
  belongs : Cookie → String → Bool
  /-- The value of the `Cookie` header for some cookies. -/
  header : List Cookie → String
  /-- Headers the client adds to the ones a request brings. -/
  defaults : List (String × String) → List (String × String)

/-- What happens to one attempt of a call: the redirects followed, each with the
URL that sent it, and what came back in the end from the last URL. -/
structure Exchange where
  redirects : List (String × Response)
  url : String
  outcome : Outcome

/-- The responses an attempt receives. -/
def Exchange.received (exchange : Exchange) : List (String × Response) :=
  exchange.redirects ++
    match exchange.outcome with
    | .requestError _ => []
    | .response resp => [(exchange.url, resp)]

namespace CookiePolicy

variable (policy : CookiePolicy)

/-- All the changes an attempt's responses ask for. -/
def asked (exchange : Exchange) : List CookieChange :=
  exchange.received.flatMap fun received => policy.changes received.1 received.2

/-- The jar after some attempts. -/
def jarAfter (jar : Jar) (exchanges : List Exchange) : Jar :=
  (exchanges.flatMap policy.asked).foldl Jar.apply jar

/-- The cookies of the jar that go along with a request to `url`. -/
def cookiesFor (jar : Jar) (url : String) : List Cookie :=
  jar.filter fun c => policy.belongs c url

end CookiePolicy

/-! ### Requests on the wire -/

/-- A request as it is put on the wire. -/
structure WireRequest where
  method : String
  url : String
  headers : List (String × String)
  params : List (String × Json)
  json : Option Json

def CookiePolicy.wireRequest (policy : CookiePolicy) (jar : Jar) (req : ClientRequest) :
    WireRequest where
  method := req.method
  url := req.url
  headers := policy.defaults req.headers ++
    match policy.cookiesFor jar req.url with
    | [] => []
    | cookies => [("Cookie", policy.header cookies)]
  params := req.params
  json := req.json

/-- A call of `NinjaOneClient`. -/
structure Call where
  client : NinjaOneClient
  method : String
  path : String
  params : Option (List (String × Json))
  json_body : Option Json

namespace Call

def url (call : Call) : String := call.client.base_url ++ call.path

/-- The request the call hands to the HTTP client. -/
def request (call : Call) : ClientRequest :=
  call.client.clientRequest call.method call.path call.params call.json_body

/-- The requests of a call on the wire, attempt by attempt, when the jar it
starts with is `jar` and its attempts go as in `exchanges`. -/
def wire (call : Call) (py : PyText) (policy : CookiePolicy) (jar : Jar)
    (exchanges : Nat → Exchange) : List WireRequest :=
  (sends (call.client.request py call.method call.path call.params call.json_body
    fun attempt _ => (exchanges attempt).outcome).events).zipIdx.map fun sent =>
      policy.wireRequest (policy.jarAfter jar ((List.range sent.2).map exchanges)) sent.1

end Call

/-- A request without its cookies. -/
def WireRequest.withoutCookies (req : WireRequest) : WireRequest :=
  { req with headers := req.headers.filter fun h => h.1 ≠ "Cookie" }

/-- An attempt some tenant's call made earlier. -/
structure PastAttempt where
  call : Call
  exchange : Exchange

/-- The jar left by a history: attempts of any tenants' calls, interleaved in any
way, from a client without cookies. -/
def CookiePolicy.jarOf (policy : CookiePolicy) (history : List PastAttempt) : Jar :=
  policy.jarAfter [] (history.map PastAttempt.exchange)

/-! ### What a request takes from the jar -/

section Jars

variable {policy : CookiePolicy} {jar jar' : Jar} {url : String}

/-- Jars with the same cookies for a URL still have the same ones after a change. -/
theorem cookiesFor_apply (same : policy.cookiesFor jar url = policy.cookiesFor jar' url)
    (change : CookieChange) :
    policy.cookiesFor (jar.apply change) url = policy.cookiesFor (jar'.apply change) url := by
  have discard : ∀ c : Cookie, (jar.filter fun d => !d.sameKey c).filter (policy.belongs · url) =
      (jar'.filter fun d => !d.sameKey c).filter (policy.belongs · url) := by
    intro c
    rw [List.filter_comm, List.filter_comm _ _ jar']
    exact congrArg (List.filter _) same
  cases change with
  | store c =>
      simp only [CookiePolicy.cookiesFor, Jar.apply, List.filter_append]
      rw [discard c]
  | discard c => exact discard c

theorem cookiesFor_jarAfter (same : policy.cookiesFor jar url = policy.cookiesFor jar' url)
    (exchanges : List Exchange) :
    policy.cookiesFor (policy.jarAfter jar exchanges) url =
      policy.cookiesFor (policy.jarAfter jar' exchanges) url := by
  unfold CookiePolicy.jarAfter
  induction exchanges.flatMap policy.asked generalizing jar jar' with
  | nil => exact same
  | cons change rest ih => exact ih (cookiesFor_apply same change)

/-- A request depends on the jar only through the cookies for its URL. -/
theorem wireRequest_congr {req : ClientRequest}
    (same : policy.cookiesFor jar req.url = policy.cookiesFor jar' req.url) :
    policy.wireRequest jar req = policy.wireRequest jar' req := by
  simp only [CookiePolicy.wireRequest, same]

theorem wireRequest_injective {req : ClientRequest}
    (same : policy.wireRequest jar req = policy.wireRequest [] req) :
    policy.cookiesFor jar req.url = [] := by
  have headers := congrArg WireRequest.headers same
  simp only [CookiePolicy.wireRequest, List.append_cancel_left_eq] at headers
  cases sent : policy.cookiesFor jar req.url with
  | nil => rfl
  | cons c rest =>
      rw [sent] at headers
      cases headers

/-- A change that stores nothing for a URL adds no cookie for it. -/
theorem cookiesFor_apply_eq_nil (none_yet : policy.cookiesFor jar url = [])
    {change : CookieChange} (quiet : ∀ c, change = .store c → policy.belongs c url = false) :
    policy.cookiesFor (jar.apply change) url = [] := by
  have kept : ∀ c : Cookie,
      policy.cookiesFor (jar.filter fun d => !d.sameKey c) url = [] := by
    intro c
    rw [CookiePolicy.cookiesFor, List.filter_comm]
    exact (congrArg (List.filter _) none_yet).trans rfl
  cases change with
  | store c =>
      have others := kept c
      unfold CookiePolicy.cookiesFor at others ⊢
      rw [Jar.apply, List.filter_append, others, List.filter_singleton, quiet c rfl]
      rfl
  | discard c => exact kept c

theorem cookiesFor_foldl_eq_nil (none_yet : policy.cookiesFor jar url = [])
    {changes : List CookieChange}
    (quiet : ∀ change ∈ changes, ∀ c, change = .store c → policy.belongs c url = false) :
    policy.cookiesFor (changes.foldl Jar.apply jar) url = [] := by
  induction changes generalizing jar with
  | nil => exact none_yet
  | cons change rest ih =>
      exact ih (cookiesFor_apply_eq_nil none_yet (quiet change List.mem_cons_self))
        fun c mem => quiet c (List.mem_cons_of_mem _ mem)

end Jars

/-- If no response of a history stores a cookie for a URL, the jar it leaves has
none. -/
theorem cookiesFor_jarOf_eq_nil {policy : CookiePolicy} {url : String}
    {history : List PastAttempt}
    (quiet : ∀ past ∈ history, ∀ c, .store c ∈ policy.asked past.exchange →
      policy.belongs c url = false) :
    policy.cookiesFor (policy.jarOf history) url = [] := by
  have all : ∀ change ∈ (history.map PastAttempt.exchange).flatMap policy.asked, ∀ c,
      change = .store c → policy.belongs c url = false := by
    intro change mem c stores
    obtain ⟨exchange, past_mem, asked⟩ := List.mem_flatMap.mp mem
    obtain ⟨past, here, rfl⟩ := List.mem_map.mp past_mem
    exact quiet past here c (stores ▸ asked)
  exact cookiesFor_foldl_eq_nil rfl all

/-! ### Calls -/

section Calls

variable (call : Call) (py : PyText) (policy : CookiePolicy)

/-- Two jars with the same cookies for a call's URL put the same requests on the
wire. -/
theorem wire_congr {jar jar' : Jar}
    (same : policy.cookiesFor jar call.url = policy.cookiesFor jar' call.url)
    (exchanges : Nat → Exchange) :
    call.wire py policy jar exchanges = call.wire py policy jar' exchanges := by
  unfold Call.wire
  rw [request_sends, ← Call.request]
  refine List.map_congr_left fun sent mem => ?_
  have req : sent.1 = call.request := List.eq_of_mem_replicate (List.fst_mem_of_mem_zipIdx mem)
  rw [req]
  exact wireRequest_congr (cookiesFor_jarAfter same _)

/-- Whatever the jars hold, the requests of a call differ in nothing but cookies:
every credential is the call's own. -/
theorem wire_same_without_cookies (jar jar' : Jar) (exchanges : Nat → Exchange) :
    (call.wire py policy jar exchanges).map WireRequest.withoutCookies =
      (call.wire py policy jar' exchanges).map WireRequest.withoutCookies := by
  have bare : ∀ (jar : Jar) (req : ClientRequest),
      (policy.wireRequest jar req).withoutCookies =
        (policy.wireRequest [] req).withoutCookies := by
    intro jar req
    simp only [WireRequest.withoutCookies, CookiePolicy.wireRequest, List.filter_append]
    cases policy.cookiesFor jar req.url <;> rfl
  simp only [Call.wire, List.map_map]
  refine List.map_congr_left fun sent _ => ?_
  simp only [Function.comp_apply]
  rw [bare, bare (policy.jarAfter jar' _)]

/-- The first request of a call goes out with the jar as it is. -/
theorem wire_head (jar : Jar) (exchanges : Nat → Exchange) :
    (call.wire py policy jar exchanges).head? = some (policy.wireRequest jar call.request) := by
  rw [Call.wire, request_sends, ← Call.request, List.replicate_succ, List.zipIdx_cons]
  rfl

end Calls

/-! ### A session that leaks -/

/-- The cookie a `Set-Cookie` value for a whole host stores. -/
def hostCookie (url value : String) : Cookie :=
  let pair := UrlRef.splitFirst '=' (value.toList.takeWhile (· ≠ ';'))
  { name := String.ofList pair.1, value := String.ofList (pair.2.getD []),
    domain := String.ofList ((UrlRef.parse url.toList).authority.getD []), path := "/" }

/-- Cookies that are stored for a host and sent to every path of it. -/
def hostPolicy : CookiePolicy where
  changes url resp := resp.headers.filterMap fun h =>
    if sameHeader h.1 "Set-Cookie" then some (.store (hostCookie url h.2)) else none
  belongs c url := String.ofList ((UrlRef.parse url.toList).authority.getD []) == c.domain
  header cookies := "; ".intercalate (cookies.map fun c => c.name ++ "=" ++ c.value)
  defaults headers := [("Accept-Encoding", "gzip, deflate"), ("Connection", "keep-alive")] ++ headers

/-- A tenant's call listing its organizations. -/
def listOrganizations (token : String) : Call where
  client := .init token "https://app.ninjarmm.com"
  method := "GET"
  path := "/api/v2/organizations"
  params := none
  json_body := none

/-- The call of one tenant, answered with a session cookie. -/
def sessionOpened : PastAttempt where
  call := listOrganizations "A"
  exchange :=
    { redirects := [], url := "https://app.ninjarmm.com/api/v2/organizations",
      outcome := .response { status_code := 200,
                             headers := [("Set-Cookie", "sessionKey=a1; Path=/; HttpOnly")],
                             content := [91, 93], json := .value (.arr []), text := "[]" } }

example : (hostPolicy.wireRequest (hostPolicy.jarOf [sessionOpened])
    (listOrganizations "B").request).headers =
    [("Accept-Encoding", "gzip, deflate"), ("Connection", "keep-alive"),
      ("Authorization", "Bearer B"), ("Accept", "application/json"),
      ("Cookie", "sessionKey=a1")] := by decide

end NinjaOne
