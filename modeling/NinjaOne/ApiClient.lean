import NinjaOne.Capped
import NinjaOne.Lib.Retry
import NinjaOne.PyText

/-!
`api_client.py`: one call of `NinjaOneClient`.

The network is an `Upstream`: for each attempt of a call and each request it
carries, what `client.request` does, either raising an `httpx.RequestError` or
returning a response. A response keeps the data the client reads off it: the
status, the headers, the raw content, and what `.json()` and `.text` give.

A call is `Traced`: the requests handed to the shared HTTP client and the sleeps
between them, in order, with what the call returns or raises. `request` is the
retry loop, attempt by attempt.

* `request_sends`: a call sends one and the same request
  `Retry.last + 1` times, where an attempt is retried while its outcome is a
  network error or a status in `RETRYABLE_STATUS`.
* `request_carried`: a response below 400 with JSON content is what the call
  returns.
-/

namespace NinjaOne

/-! ### Values from `httpx` -/

/-- `httpx.Response`. -/
structure Response where
  status_code : Int
  headers : List (String × String)
  content : List UInt8
  /-- What `resp.json()` does. -/
  json : Loads
  text : String

/-- `httpx.RequestError`: timeouts, connection failures, too many redirects. -/
structure RequestError where
  /-- `str(e)`. -/
  text : String

/-- The arguments of `client.request`. -/
structure ClientRequest where
  method : String
  url : String
  headers : List (String × String)
  params : List (String × Json)
  json : Option Json

inductive Outcome where
  | requestError (e : RequestError)
  | response (resp : Response)

/-- What the network does with each attempt of one call. -/
abbrev Upstream := Nat → ClientRequest → Outcome

/-! ### Errors -/

/-- `NinjaOneError`. The message is whatever `_extract_error` picked. -/
structure NinjaOneError where
  status_code : Int
  message : Json

/-- What a call or a tool may raise. -/
inductive Exn where
  | ninjaOneError (e : NinjaOneError)
  | recursionError
  | attributeError
  | typeError
  | valueError

/-- `_STATUS_TO_CODE`. -/
def STATUS_TO_CODE : List (Int × (String × Bool)) :=
  [(0, ("upstream_error", true)), (400, ("invalid_argument", false)),
    (401, ("unauthorized", false)), (403, ("unauthorized", false)),
    (404, ("not_found", false)), (422, ("invalid_argument", false)),
    (429, ("rate_limited", true))]

/-- `_classify`. -/
def classify (status_code : Int) : String × Bool :=
  match STATUS_TO_CODE.lookup status_code with
  | some entry => entry
  | none => if status_code ≥ 500 then ("upstream_error", true) else ("invalid_argument", false)

/-- `NinjaOneError.to_envelope`. -/
def NinjaOneError.toEnvelope (e : NinjaOneError) : Answer :=
  errorEnvelope (classify e.status_code).1 e.message (classify e.status_code).2

/-! ### The client -/

/-- `_RETRYABLE_STATUS`. -/
def RETRYABLE_STATUS : List Int := [429, 500, 502, 503, 504]

/-- `_MAX_RETRIES`. -/
def MAX_RETRIES : Nat := 3

/-- `_MAX_BACKOFF_SECONDS`. -/
def MAX_BACKOFF_SECONDS : FloatValue := .finite 20

/-- `s.rstrip("/")`. -/
def rstripSlash (s : String) : String :=
  String.ofList ((s.toList.reverse.dropWhile (· = '/')).reverse)

/-- `NinjaOneClient`; its base URL never ends in a slash. -/
structure NinjaOneClient where
  token : String
  base_url : String
  stripped : base_url.toList.getLast? ≠ some '/'

theorem rstripSlash_stripped (s : String) : (rstripSlash s).toList.getLast? ≠ some '/' := by
  intro last
  rw [rstripSlash, String.toList_ofList, List.getLast?_reverse] at last
  have := List.head?_dropWhile_not (fun c => decide (c = '/')) s.toList.reverse
  rw [last] at this
  simp at this

/-- `NinjaOneClient.__init__`. -/
def NinjaOneClient.init (token base_url : String) : NinjaOneClient where
  token := token
  base_url := rstripSlash base_url
  stripped := rstripSlash_stripped base_url

/-- `_extract_error`. A body that is not JSON falls back to its text. -/
def extractError (py : PyText) (resp : Response) : Except Exn Json :=
  match resp.json with
  | .value detail =>
      match detail with
      | .obj _ =>
          .ok ((detail.field "message").orElse ((detail.field "error_description").orElse
            ((detail.field "error").orElse (.str (strJson py detail)))))
      | _ => .ok (.str (strJson py detail))
  | .valueError => .ok (.str resp.text)
  | .recursionError => .error .recursionError

/-- `_clean_params`. -/
def cleanParams (params : Option (List (String × Json))) : List (String × Json) :=
  match params with
  | none => []
  | some params => params.filter fun param =>
      match param.2 with
      | .null => false
      | _ => true

/-- `_parse_body`. -/
def parseBody (resp : Response) : Except Exn Json :=
  if resp.content = [] then .ok .null
  else
    match resp.json with
    | .value data => .ok data
    | .valueError => .ok (.obj [("raw_response", .str resp.text)])
    | .recursionError => .error .recursionError

/-- `_raise_for_status`. -/
def raiseForStatus (py : PyText) (resp : Response) : Except Exn Unit :=
  if resp.status_code ≥ 400 then do
    let message ← extractError py resp
    .error (.ninjaOneError ⟨resp.status_code, message⟩)
  else .ok ()

/-- `a < b` on floats; false whenever a NaN is involved. -/
def FloatValue.lt : FloatValue → FloatValue → Bool
  | .finite p, .finite q => decide (p < q)
  | .finite _, .posInf => true
  | .negInf, .finite _ => true
  | .negInf, .posInf => true
  | _, _ => false

/-- `min(a, b)`. -/
def FloatValue.min (a b : FloatValue) : FloatValue := if b.lt a then b else a

/-- Header names compare without case. -/
def sameHeader (name name' : String) : Bool :=
  name.toList.map Char.toLower == name'.toList.map Char.toLower

/-- `resp.headers.get(name)`: repeated headers are joined. -/
def Response.header (resp : Response) (name : String) : Option String :=
  match (resp.headers.filter fun h => sameHeader h.1 name).map Prod.snd with
  | [] => none
  | values => some (", ".intercalate values)

/-- `_retry_delay`. -/
def retryDelay (py : PyText) (resp : Response) (attempt : Nat) : FloatValue :=
  let backoff := (FloatValue.finite (2 ^ attempt)).min MAX_BACKOFF_SECONDS
  match resp.header "Retry-After" with
  | none => backoff
  | some retry_after =>
      if retry_after = "" then backoff
      else
        match py.float retry_after with
        | some seconds => seconds.min MAX_BACKOFF_SECONDS
        | none => backoff

/-- What a call does on the outside, in order. -/
inductive Event where
  | send (request : ClientRequest)
  | sleep (seconds : FloatValue)

/-- A computation with the events it causes; `result` is what it returns or
raises. -/
structure Traced (α : Type) where
  events : List Event
  result : Except Exn α

/-- Events that happen before a computation. -/
def Traced.after {α : Type} (events : List Event) (call : Traced α) : Traced α :=
  { call with events := events ++ call.events }

/-- The `for attempt in range(...)` loop of `_request` over the attempts still
to make. -/
def requestLoop (py : PyText) (url : String) (req : ClientRequest) (upstream : Upstream) :
    List Nat → Option RequestError → Traced Json
  | [], last_exc =>
      -- Past the loop: only reached with no attempts at all.
      ⟨[], .error (.ninjaOneError ⟨0, .str (match last_exc with
        | some e => e.text
        | none => "request failed with no response")⟩)⟩
  | attempt :: rest, last_exc =>
      match upstream attempt req with
      | .requestError e =>
          if attempt < MAX_RETRIES then
            (requestLoop py url req upstream rest (some e)).after
              [.send req, .sleep ((FloatValue.finite (2 ^ attempt)).min MAX_BACKOFF_SECONDS)]
          else
            ⟨[.send req], .error (.ninjaOneError ⟨0, .str (e.text ++ " (url=" ++ url ++ ")")⟩)⟩
      | .response resp =>
          if resp.status_code ∈ RETRYABLE_STATUS ∧ attempt < MAX_RETRIES then
            (requestLoop py url req upstream rest last_exc).after
              [.send req, .sleep (retryDelay py resp attempt)]
          else
            ⟨[.send req], do
              raiseForStatus py resp
              parseBody resp⟩

/-- The request every attempt of a call hands to `client.request`. -/
def NinjaOneClient.clientRequest (self : NinjaOneClient) (method path : String)
    (params : Option (List (String × Json))) (json_body : Option Json) : ClientRequest where
  method := method
  url := self.base_url ++ path
  headers := [("Authorization", "Bearer " ++ self.token), ("Accept", "application/json")] ++
    (if json_body.isSome then [("Content-Type", "application/json")] else [])
  params := cleanParams params
  json := json_body

/-- `_request`. -/
def NinjaOneClient.request (py : PyText) (self : NinjaOneClient) (method path : String)
    (params : Option (List (String × Json))) (json_body : Option Json) (upstream : Upstream) :
    Traced Json :=
  requestLoop py (self.base_url ++ path) (self.clientRequest method path params json_body)
    upstream (List.range (MAX_RETRIES + 1)) none

def NinjaOneClient.get (py : PyText) (self : NinjaOneClient) (path : String)
    (params : Option (List (String × Json))) (upstream : Upstream) : Traced Json :=
  self.request py "GET" path params none upstream

def NinjaOneClient.post (py : PyText) (self : NinjaOneClient) (path : String)
    (json_body : Option Json) (params : Option (List (String × Json))) (upstream : Upstream) :
    Traced Json :=
  self.request py "POST" path params json_body upstream

def NinjaOneClient.put (py : PyText) (self : NinjaOneClient) (path : String)
    (json_body : Option Json) (params : Option (List (String × Json))) (upstream : Upstream) :
    Traced Json :=
  self.request py "PUT" path params json_body upstream

/-! ### How many requests a call sends -/

/-- The outcomes the loop retries: a network error, or a retryable status. -/
def Outcome.transient : Outcome → Bool
  | .requestError _ => true
  | .response resp => decide (resp.status_code ∈ RETRYABLE_STATUS)

theorem transient_requestError (e : RequestError) : (Outcome.requestError e).transient = true := rfl

theorem transient_response (resp : Response) :
    (Outcome.response resp).transient = decide (resp.status_code ∈ RETRYABLE_STATUS) := rfl

/-- The requests among a call's events. -/
def sends (events : List Event) : List ClientRequest :=
  events.filterMap fun event =>
    match event with
    | .send req => some req
    | .sleep _ => none

@[simp] theorem sends_append (events more : List Event) :
    sends (events ++ more) = sends events ++ sends more :=
  List.filterMap_append

@[simp] theorem sends_send_sleep (req : ClientRequest) (seconds : FloatValue) :
    sends [.send req, .sleep seconds] = [req] := rfl

section Loop

variable (py : PyText) (url : String) (req : ClientRequest) (upstream : Upstream)

/-- The loop over the attempts `attempt, …, MAX_RETRIES`: one request an attempt,
up to the last. -/
theorem requestLoop_sends (retries attempt : Nat) (last_exc : Option RequestError)
    (budget : attempt + retries = MAX_RETRIES) :
    sends (requestLoop py url req upstream (List.range' attempt (retries + 1)) last_exc).events =
      List.replicate (Retry.lastFrom (fun i => (upstream i req).transient) retries attempt + 1
        - attempt) req := by
  induction retries generalizing attempt last_exc with
  | zero =>
      have spent : ¬ attempt < MAX_RETRIES := by omega
      have one : attempt + 1 - attempt = 1 := by omega
      simp only [List.range'_succ, requestLoop, Retry.lastFrom, one, List.replicate_one]
      cases upstream attempt req with
      | requestError e => simp only [if_neg spent]; rfl
      | response resp => simp only [spent, and_false, if_false]; rfl
  | succ retries ih =>
      have more : attempt < MAX_RETRIES := by omega
      have bounds := Retry.lastFrom_bounds (fun i => (upstream i req).transient) retries
        (attempt + 1)
      have count : ∀ n, attempt + 1 ≤ n → n + 1 - attempt = (n + 1 - (attempt + 1)) + 1 := by
        intro n _
        omega
      have one : attempt + 1 - attempt = 1 := by omega
      rw [List.range'_succ]
      unfold requestLoop Retry.lastFrom
      cases out : upstream attempt req with
      | requestError e =>
          simp only [transient_requestError, if_pos more, if_true, Traced.after, sends_append,
            sends_send_sleep, ih (attempt + 1) _ (by omega)]
          rw [count _ bounds.1, List.replicate_succ, List.singleton_append]
      | response resp =>
          by_cases busy : resp.status_code ∈ RETRYABLE_STATUS
          · simp only [transient_response, busy, more, and_self, if_true, decide_true,
              Traced.after, sends_append, sends_send_sleep, ih (attempt + 1) _ (by omega)]
            rw [count _ bounds.1, List.replicate_succ, List.singleton_append]
          · simp only [transient_response, busy, false_and, if_false, decide_false,
              Bool.false_eq_true, one, List.replicate_one]
            rfl

end Loop

/-- The attempt that ends a call: the first whose outcome is not transient, or
the last one allowed. -/
def lastAttempt (upstream : Upstream) (req : ClientRequest) : Nat :=
  Retry.last (fun i => (upstream i req).transient) MAX_RETRIES

/-- A call sends one and the same request, once for each attempt up to the last. -/
theorem request_sends (py : PyText) (client : NinjaOneClient) (method path : String)
    (params : Option (List (String × Json))) (json_body : Option Json) (upstream : Upstream) :
    sends (client.request py method path params json_body upstream).events =
      List.replicate
        (lastAttempt upstream (client.clientRequest method path params json_body) + 1)
        (client.clientRequest method path params json_body) := by
  unfold NinjaOneClient.request lastAttempt Retry.last
  rw [List.range_eq_range', requestLoop_sends py _ _ _ MAX_RETRIES 0 none (Nat.zero_add _)]
  rfl

/-! ### Successful calls -/

/-- A successful JSON response carrying `data`. -/
def Response.Carries (resp : Response) (data : Json) : Prop :=
  resp.status_code < 400 ∧ resp.content ≠ [] ∧ resp.json = .value data

/-- The upstream answers every request at once, with what `serve` gives for it. -/
def Serves (upstream : Upstream) (serve : ClientRequest → Json) : Prop :=
  ∀ attempt req, ∃ resp, upstream attempt req = .response resp ∧ resp.Carries (serve req)

/-- The upstream that answers every attempt with status 200. -/
def answering (serve : ClientRequest → Json) : Upstream := fun _ req =>
  .response { status_code := 200, headers := [], content := [91], json := .value (serve req),
              text := compact (serve req) }

theorem serves_answering (serve : ClientRequest → Json) : Serves (answering serve) serve := by
  intro attempt req
  have below : (200 : Int) < 400 := by decide
  exact ⟨_, rfl, below, List.cons_ne_nil _ _, rfl⟩

/-- Against such an upstream a call returns what its request is served. -/
theorem request_carried (py : PyText) (client : NinjaOneClient) (method path : String)
    (params : Option (List (String × Json))) (json_body : Option Json) {upstream : Upstream}
    {serve : ClientRequest → Json} (serves : Serves upstream serve) :
    (client.request py method path params json_body upstream).result =
      .ok (serve (client.clientRequest method path params json_body)) := by
  obtain ⟨resp, out, below, content, json⟩ :=
    serves 0 (client.clientRequest method path params json_body)
  have settled : resp.status_code ∉ RETRYABLE_STATUS := by
    simp only [RETRYABLE_STATUS, List.mem_cons, List.not_mem_nil, or_false]
    omega
  have ok : ¬ resp.status_code ≥ 400 := by omega
  have first : List.range (MAX_RETRIES + 1) = 0 :: [1, 2, 3] := rfl
  unfold NinjaOneClient.request
  rw [first, requestLoop, out]
  simp only [settled, false_and, if_false, raiseForStatus, if_neg ok, parseBody, if_neg content,
    json]
  rfl

end NinjaOne
