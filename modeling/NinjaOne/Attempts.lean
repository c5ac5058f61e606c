import NinjaOne.ApiClient

/-!
What a call makes of its attempts.

The loop of `_request` ends with one outcome and forgets the others: the result
is `conclude` of it (`request_result`), and the statements after the loop are
never reached (`requestLoop_append`).

* `exactly_retried_iff`: the call does what a plain reading of the loop says,
  except where reading the last response raises `RecursionError`.
* `labels_agree_iff`: what an error says about retrying agrees with the loop,
  except for the 5xx statuses that the loop does not retry.
-/

namespace NinjaOne

/-- What the outcome of the last attempt makes of a call. -/
def conclude (py : PyText) (url : String) : Outcome → Except Exn Json
  | .requestError e => .error (.ninjaOneError ⟨0, .str (e.text ++ " (url=" ++ url ++ ")")⟩)
  | .response resp => do
      raiseForStatus py resp
      parseBody resp

section Loop

variable (py : PyText) (url : String) (req : ClientRequest) (upstream : Upstream)

/-- The loop over the attempts `attempt, …, MAX_RETRIES` ends with the outcome of
the last one made. -/
theorem requestLoop_result (retries attempt : Nat) (last_exc : Option RequestError)
    (budget : attempt + retries = MAX_RETRIES) :
    (requestLoop py url req upstream (List.range' attempt (retries + 1)) last_exc).result =
      conclude py url
        (upstream (Retry.lastFrom (fun i => (upstream i req).transient) retries attempt) req) := by
  induction retries generalizing attempt last_exc with
  | zero =>
      have spent : ¬ attempt < MAX_RETRIES := by omega
      rw [List.range'_succ]
      unfold requestLoop Retry.lastFrom
      cases upstream attempt req with
      | requestError e => simp only [if_neg spent, conclude]
      | response resp => simp only [spent, and_false, if_false, conclude]
  | succ retries ih =>
      have more : attempt < MAX_RETRIES := by omega
      rw [List.range'_succ]
      unfold requestLoop Retry.lastFrom
      cases out : upstream attempt req with
      | requestError e =>
          simp only [transient_requestError, if_pos more, if_true, Traced.after,
            ih (attempt + 1) _ (by omega)]
      | response resp =>
          by_cases busy : resp.status_code ∈ RETRYABLE_STATUS
          · simp only [transient_response, busy, more, and_self, if_true, decide_true,
              Traced.after, ih (attempt + 1) _ (by omega)]
          · simp only [transient_response, busy, false_and, if_false, decide_false,
              Bool.false_eq_true, out, conclude]

/-- Whatever came after the last attempt allowed would not be reached. -/
theorem requestLoop_append (retries attempt : Nat) (last_exc : Option RequestError)
    (budget : attempt + retries = MAX_RETRIES) (more : List Nat) :
    requestLoop py url req upstream (List.range' attempt (retries + 1) ++ more) last_exc =
      requestLoop py url req upstream (List.range' attempt (retries + 1)) last_exc := by
  induction retries generalizing attempt last_exc with
  | zero =>
      have spent : ¬ attempt < MAX_RETRIES := by omega
      rw [List.range'_succ, List.cons_append]
      unfold requestLoop
      cases upstream attempt req with
      | requestError e => simp only [if_neg spent]
      | response resp => simp only [spent, and_false, if_false]
  | succ retries ih =>
      rw [List.range'_succ, List.cons_append]
      unfold requestLoop
      simp only [ih (attempt + 1) _ (by omega)]

end Loop

section Call

variable (py : PyText) (client : NinjaOneClient) (method path : String)
  (params : Option (List (String × Json))) (json_body : Option Json) (upstream : Upstream)

/-- **The result of a call is made of its last outcome alone.** -/
theorem request_result :
    (client.request py method path params json_body upstream).result =
      conclude py (client.base_url ++ path)
        (upstream (lastAttempt upstream (client.clientRequest method path params json_body))
          (client.clientRequest method path params json_body)) := by
  unfold NinjaOneClient.request lastAttempt Retry.last
  rw [List.range_eq_range', requestLoop_result py _ _ _ MAX_RETRIES 0 none (Nat.zero_add _)]

/-- The statements after the loop are never reached. -/
theorem request_append (more : List Nat) :
    requestLoop py (client.base_url ++ path)
      (client.clientRequest method path params json_body) upstream
      (List.range (MAX_RETRIES + 1) ++ more) none =
        client.request py method path params json_body upstream := by
  unfold NinjaOneClient.request
  rw [List.range_eq_range', requestLoop_append py _ _ _ MAX_RETRIES 0 none (Nat.zero_add _)]

end Call

/-! ### Reading a response -/

theorem parseBody_ok_iff (resp : Response) :
    (∃ data, parseBody resp = .ok data) ↔ resp.content = [] ∨ resp.json ≠ .recursionError := by
  unfold parseBody
  by_cases empty : resp.content = []
  · rw [if_pos empty]
    exact iff_of_true ⟨_, rfl⟩ (Or.inl empty)
  · rw [if_neg empty, or_iff_right empty]
    cases resp.json with
    | recursionError => exact iff_of_false (fun ⟨_, raised⟩ => by cases raised) fun spared => spared rfl
    | _ => exact iff_of_true ⟨_, rfl⟩ nofun

theorem parseBody_error {resp : Response} {x : Exn} (raises : parseBody resp = .error x) :
    x = .recursionError := by
  unfold parseBody at raises
  split at raises
  · cases raises
  · split at raises
    · cases raises
    · cases raises
    · cases raises
      rfl

theorem extractError_ok_iff (py : PyText) (resp : Response) :
    (∃ message, extractError py resp = .ok message) ↔ resp.json ≠ .recursionError := by
  unfold extractError
  cases resp.json with
  | value detail =>
      refine iff_of_true ?_ nofun
      cases detail <;> exact ⟨_, rfl⟩
  | valueError => exact iff_of_true ⟨_, rfl⟩ nofun
  | recursionError => exact iff_of_false (fun ⟨_, raised⟩ => by cases raised) fun spared => spared rfl

theorem extractError_error {py : PyText} {resp : Response} {x : Exn}
    (raises : extractError py resp = .error x) : x = .recursionError := by
  unfold extractError at raises
  split at raises
  · split at raises <;> cases raises
  · cases raises
  · cases raises
    rfl

section Conclude

variable (py : PyText) (url : String) {resp : Response}

theorem conclude_below (below : resp.status_code < 400) :
    conclude py url (.response resp) = parseBody resp := by
  rw [conclude, raiseForStatus, if_neg (not_le.mpr below)]
  rfl

theorem conclude_above (above : 400 ≤ resp.status_code) :
    conclude py url (.response resp) = (do
      let message ← extractError py resp
      .error (.ninjaOneError ⟨resp.status_code, message⟩)) := by
  rw [conclude, raiseForStatus, if_pos above]
  cases extractError py resp <;> rfl

theorem conclude_ninjaOneError_iff {e : NinjaOneError} :
    conclude py url (.response resp) = .error (.ninjaOneError e) ↔
      400 ≤ resp.status_code ∧ ∃ message, extractError py resp = .ok message ∧
        e = ⟨resp.status_code, message⟩ := by
  by_cases above : 400 ≤ resp.status_code
  · rw [conclude_above py url above, and_iff_right above]
    cases extracted : extractError py resp with
    | ok message =>
        constructor
        · intro raised
          cases raised
          exact ⟨message, rfl, rfl⟩
        · rintro ⟨message', same, rfl⟩
          cases same
          rfl
    | error x =>
        obtain rfl := extractError_error extracted
        refine iff_of_false nofun ?_
        rintro ⟨_, ok, _⟩
        cases ok
  · rw [conclude_below py url (not_le.mp above)]
    refine iff_of_false ?_ fun both => above both.1
    intro raised
    cases parseBody_error raised

end Conclude

/-! ### The plain reading of the loop -/

/-- The result a call has to have by its last outcome: the parsed body below 400,
the status and the response's message above, status 0 for a network error. -/
def Answers (py : PyText) (url : String) (result : Except Exn Json) : Outcome → Prop
  | .requestError e =>
      result = .error (.ninjaOneError ⟨0, .str (e.text ++ " (url=" ++ url ++ ")")⟩)
  | .response resp =>
      if resp.status_code < 400 then ∃ data, parseBody resp = .ok data ∧ result = .ok data
      else ∃ message, extractError py resp = .ok message ∧
        result = .error (.ninjaOneError ⟨resp.status_code, message⟩)

/-- The outcome can be read without `RecursionError`. -/
def Outcome.Readable : Outcome → Prop
  | .requestError _ => True
  | .response resp => resp.status_code < 400 ∧ resp.content = [] ∨ resp.json ≠ .recursionError

theorem conclude_answers_iff (py : PyText) (url : String) (out : Outcome) :
    Answers py url (conclude py url out) out ↔ out.Readable := by
  cases out with
  | requestError e => exact iff_of_true rfl trivial
  | response resp =>
      simp only [Answers, Outcome.Readable]
      by_cases below : resp.status_code < 400
      · rw [if_pos below, conclude_below py url below, and_iff_right below, ← parseBody_ok_iff]
        exact exists_congr fun data => and_iff_left_of_imp id
      · have above : 400 ≤ resp.status_code := not_lt.mp below
        have unread : ¬ (resp.status_code < 400 ∧ resp.content = []) := fun both => below both.1
        rw [if_neg below, conclude_above py url above, or_iff_right unread,
          ← extractError_ok_iff py resp]
        refine exists_congr fun message => and_iff_left_of_imp ?_
        intro extracted
        rw [extracted]
        rfl

/-- What the loop is meant to be: the same request up to the first response with
a status that is not retried, or up to the fourth attempt; the result as that
attempt's outcome has it; and nothing after the loop. -/
def ExactlyRetried (py : PyText) (client : NinjaOneClient) (method path : String)
    (params : Option (List (String × Json))) (json_body : Option Json) (upstream : Upstream) : Prop :=
  let req := client.clientRequest method path params json_body
  let call := client.request py method path params json_body upstream
  ∃ k, (IsLeast {i | i ≤ MAX_RETRIES ∧
        ∃ resp, upstream i req = .response resp ∧ resp.status_code ∉ RETRYABLE_STATUS} k ∨
      k = MAX_RETRIES ∧ ∀ i ≤ MAX_RETRIES,
        ¬ ∃ resp, upstream i req = .response resp ∧ resp.status_code ∉ RETRYABLE_STATUS) ∧
    sends call.events = List.replicate (k + 1) req ∧
    Answers py (client.base_url ++ path) call.result (upstream k req) ∧
    ∀ more, requestLoop py (client.base_url ++ path) req upstream
      (List.range (MAX_RETRIES + 1) ++ more) none = call

theorem transient_eq_false_iff {out : Outcome} :
    out.transient = false ↔ ∃ resp, out = .response resp ∧ resp.status_code ∉ RETRYABLE_STATUS := by
  cases out with
  | requestError e => exact iff_of_false nofun fun ⟨_, same, _⟩ => by cases same
  | response resp =>
      rw [transient_response, decide_eq_false_iff_not]
      constructor
      · intro settled
        exact ⟨resp, rfl, settled⟩
      · rintro ⟨resp', same, settled⟩
        cases same
        exact settled

section Call

variable (py : PyText) (client : NinjaOneClient) (method path : String)
  (params : Option (List (String × Json))) (json_body : Option Json) (upstream : Upstream)

/-- **The retry loop is exactly its plain reading** when the outcome of the last
attempt can be read without `RecursionError`, and only then. -/
theorem exactly_retried_iff :
    ExactlyRetried py client method path params json_body upstream ↔
      (upstream (lastAttempt upstream (client.clientRequest method path params json_body))
        (client.clientRequest method path params json_body)).Readable := by
  have sent := request_sends py client method path params json_body upstream
  have result := request_result py client method path params json_body upstream
  have unreached := request_append py client method path params json_body upstream
  unfold ExactlyRetried
  generalize client.clientRequest method path params json_body = req at sent result unreached ⊢
  have least := Retry.last_isLeast (fun i => (upstream i req).transient) MAX_RETRIES
  rw [← lastAttempt] at least
  simp only [← Bool.not_eq_false, transient_eq_false_iff] at least
  constructor
  · rintro ⟨k, _, sent_k, answers, _⟩
    have same : k = lastAttempt upstream req := by
      rw [sent, List.replicate_left_inj] at sent_k
      omega
    rw [← conclude_answers_iff py (client.base_url ++ path), ← result, ← same]
    exact answers
  · intro readable
    refine ⟨_, least, sent, ?_, ?_⟩
    · rw [result]
      exact (conclude_answers_iff py _ _).mpr readable
    · exact unreached

end Call

/-- A response nested too deeply is neither parsed nor reported. -/
theorem deepResponse_raises : ¬ ∀ (py : PyText) (client : NinjaOneClient) (method path : String)
    (params : Option (List (String × Json))) (json_body : Option Json) (upstream : Upstream),
    ExactlyRetried py client method path params json_body upstream := by
  intro all
  have exactly := all .ascii (.init "t" "https://app.ninjarmm.com") "GET" "/api/v2/organizations"
    none none fun _ _ => .response ⟨200, [], [0x5B], .recursionError, "["⟩
  obtain ⟨k, _, _, answers, _⟩ := exactly
  rw [request_result, conclude_answers_iff] at answers
  rcases answers with empty | readable
  · cases empty.2
  · exact readable rfl

/-! ### What an error says about retrying -/

/-- The envelope has `"retryable": true`. -/
def Answer.SaysRetryable (answer : Answer) : Prop :=
  (answer.value.field "error").field "retryable" = .bool true

theorem toEnvelope_saysRetryable (e : NinjaOneError) :
    e.toEnvelope.SaysRetryable ↔ (classify e.status_code).2 = true := by
  have shown : (e.toEnvelope.value.field "error").field "retryable" =
      .bool (classify e.status_code).2 := rfl
  rw [Answer.SaysRetryable, shown, Json.bool.injEq]

/-- `_classify` calls a status retryable by a table and a range. -/
theorem classify_retryable_iff (status_code : Int) :
    (classify status_code).2 = true ↔
      status_code = 0 ∨ status_code = 429 ∨ 500 ≤ status_code := by
  by_cases listed : status_code ∈ STATUS_TO_CODE.map Prod.fst
  · simp only [STATUS_TO_CODE, List.map_cons, List.map_nil, List.mem_cons, List.not_mem_nil,
      or_false] at listed
    rcases listed with rfl | rfl | rfl | rfl | rfl | rfl | rfl <;> decide
  · have missing : STATUS_TO_CODE.lookup status_code = none := by
      rw [List.lookup_eq_none_iff]
      intro entry mem
      rw [bne_iff_ne]
      rintro rfl
      exact listed (List.mem_map_of_mem mem)
    have other : status_code ≠ 0 ∧ status_code ≠ 429 := by
      constructor <;> rintro rfl <;> exact listed (by decide)
    rw [classify, missing, or_iff_right other.1, or_iff_right other.2]
    by_cases high : status_code ≥ 500
    · simp only [if_pos high]
      exact iff_of_true trivial high
    · simp only [if_neg high]
      exact iff_of_false Bool.false_ne_true high

/-- On an error status the label and the loop's list part ways only from 500 on. -/
theorem label_eq_retried_iff {status_code : Int} (above : 400 ≤ status_code) :
    ((classify status_code).2 = true ↔ status_code ∈ RETRYABLE_STATUS) ↔
      ¬ (500 ≤ status_code ∧ status_code ∉ RETRYABLE_STATUS) := by
  rw [classify_retryable_iff]
  constructor
  · rintro agree ⟨high, settled⟩
    exact settled (agree.mp (Or.inr (Or.inr high)))
  · intro labelled
    constructor
    · rintro (zero | busy | high)
      · omega
      · rw [busy]
        decide
      · by_contra settled
        exact labelled ⟨high, settled⟩
    · intro listed
      simp only [RETRYABLE_STATUS, List.mem_cons, List.not_mem_nil, or_false] at listed
      omega

/-- Whenever a call raises a `NinjaOneError`, its envelope says retryable exactly if
the loop treats the last outcome as transient, and then every attempt was used. -/
def LabelsAgree (py : PyText) (client : NinjaOneClient) (method path : String)
    (params : Option (List (String × Json))) (json_body : Option Json) (upstream : Upstream) : Prop :=
  let req := client.clientRequest method path params json_body
  let call := client.request py method path params json_body upstream
  ∀ e, call.result = .error (.ninjaOneError e) →
    (e.toEnvelope.SaysRetryable ↔ (upstream (lastAttempt upstream req) req).transient = true) ∧
    (e.toEnvelope.SaysRetryable → (sends call.events).length = MAX_RETRIES + 1)

/-- A status the envelope calls retryable and the loop does not retry. -/
def Mislabelled (resp : Response) : Prop :=
  500 ≤ resp.status_code ∧ resp.status_code ∉ RETRYABLE_STATUS ∧ resp.json ≠ .recursionError

section Call

variable (py : PyText) (client : NinjaOneClient) (method path : String)
  (params : Option (List (String × Json))) (json_body : Option Json) (upstream : Upstream)

/-- **The label agrees with the loop** unless the last outcome has a status of 500
or more that the loop does not retry. -/
theorem labels_agree_iff :
    LabelsAgree py client method path params json_body upstream ↔
      ¬ ∃ resp, upstream (lastAttempt upstream
          (client.clientRequest method path params json_body))
          (client.clientRequest method path params json_body) = .response resp ∧
        Mislabelled resp := by
  have sent := request_sends py client method path params json_body upstream
  have result := request_result py client method path params json_body upstream
  unfold LabelsAgree
  generalize client.clientRequest method path params json_body = req at sent result ⊢
  have stops := Retry.last_stops (fun i => (upstream i req).transient) MAX_RETRIES
  rw [← lastAttempt] at stops
  simp only [result, sent, List.length_replicate, toEnvelope_saysRetryable, add_left_inj]
  generalize lastAttempt upstream req = k at stops ⊢
  cases out : upstream k req with
  | requestError e =>
      refine iff_of_true ?_ (fun ⟨_, same, _⟩ => by cases same)
      intro raised eq
      cases eq
      have spent : k = MAX_RETRIES := by
        rw [out] at stops
        exact stops.resolve_left nofun
      exact ⟨iff_of_true rfl rfl, fun _ => spent⟩
  | response resp =>
      rw [out, transient_response] at stops
      simp only [conclude_ninjaOneError_iff, transient_response, decide_eq_true_eq,
        Outcome.response.injEq, exists_eq_left', Mislabelled]
      constructor
      · rintro agree ⟨high, settled, readable⟩
        obtain ⟨message, extracted⟩ := (extractError_ok_iff py resp).mpr readable
        have above : 400 ≤ resp.status_code := by omega
        have label := (agree ⟨resp.status_code, message⟩ ⟨above, message, extracted, rfl⟩).1
        exact (label_eq_retried_iff above).mp label ⟨high, settled⟩
      · rintro labelled e ⟨above, message, extracted, rfl⟩
        have readable := (extractError_ok_iff py resp).mp ⟨message, extracted⟩
        have agree := (label_eq_retried_iff above).mpr fun both =>
          labelled ⟨both.1, both.2, readable⟩
        refine ⟨agree, fun label => ?_⟩
        rw [agree] at label
        exact stops.resolve_left fun settled => of_decide_eq_false settled label

end Call

/-- A 501 ends the call at once and is labelled retryable. -/
theorem notImplemented_mislabelled : ¬ ∀ (py : PyText) (client : NinjaOneClient)
    (method path : String) (params : Option (List (String × Json))) (json_body : Option Json)
    (upstream : Upstream), LabelsAgree py client method path params json_body upstream := by
  intro all
  have agree := all .ascii (.init "t" "https://app.ninjarmm.com") "GET" "/api/v2/organizations"
    none none fun _ _ => .response ⟨501, [], [], .valueError, ""⟩
  obtain ⟨label, _⟩ := agree ⟨501, .str ""⟩ rfl
  rw [toEnvelope_saysRetryable, classify_retryable_iff] at label
  have transient := label.mp (Or.inr (Or.inr (by decide)))
  rw [transient_response, decide_eq_true_iff] at transient
  exact absurd transient (by decide)

end NinjaOne
