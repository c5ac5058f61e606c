import NinjaOne.ApiTool
import NinjaOne.Attempts

/-!
What a caller gets of an error response.

`_extract_error` goes through three fields of the body and takes the first with
a truth value, whatever it is; the envelope is written without the size cap of
the other answers. `tool_error_wellFormed_iff` says for which responses a tool
still answers with a proper envelope: the message found is a string, and short
enough for the frame around it.
-/

namespace NinjaOne

/-! ### The message -/

/-- The fields `_extract_error` looks at, in its order. -/
def messageKeys : List String := ["message", "error_description", "error"]

/-- `text` is what a response has to say: the first of the three fields that holds
anything, else the whole body as text. -/
def Response.Reports (py : PyText) (resp : Response) (text : String) : Prop :=
  match resp.json with
  | .value detail =>
      match (messageKeys.map detail.field).find? Json.truthy with
      | some message => message = .str text
      | none => text = strJson py detail
  | .valueError => text = resp.text
  | .recursionError => False

/-- A chain of `or` takes the first value with a truth value, else the last. -/
theorem orElse_foldr (values : List Json) (last : Json) :
    values.foldr Json.orElse last = (values.find? Json.truthy).getD last := by
  induction values with
  | nil => rfl
  | cons value rest ih =>
      rw [List.foldr_cons, ih, Json.orElse]
      cases holds : value.truthy with
      | true => rw [List.find?_cons_of_pos holds, if_pos rfl, Option.getD_some]
      | false =>
          rw [List.find?_cons_of_neg (Bool.not_eq_true _ ▸ holds), if_neg Bool.false_ne_true]

theorem extractError_value (py : PyText) {resp : Response} {detail : Json}
    (json : resp.json = .value detail) :
    extractError py resp = .ok (((messageKeys.map detail.field).find? Json.truthy).getD
      (.str (strJson py detail))) := by
  rw [← orElse_foldr, extractError, json]
  cases detail <;> rfl

/-- The message is a string exactly when the response reports one. -/
theorem extractError_str_iff (py : PyText) (resp : Response) (text : String) :
    extractError py resp = .ok (.str text) ↔ resp.Reports py text := by
  unfold Response.Reports
  cases json : resp.json with
  | value detail =>
      rw [extractError_value py json, Except.ok.injEq]
      dsimp only
      cases (messageKeys.map detail.field).find? Json.truthy with
      | some message => exact Iff.rfl
      | none =>
          rw [Option.getD_none, Json.str.injEq]
          exact eq_comm
  | valueError =>
      simp only [extractError, json, Except.ok.injEq, Json.str.injEq]
      exact eq_comm
  | recursionError =>
      simp only [extractError, json, reduceCtorEq]

/-! ### The envelope -/

/-- The length of what an envelope has around its message. -/
def envelopeFrame (status_code : Int) : Nat :=
  43 + (quote (classify status_code).1).length + size (.bool (classify status_code).2)

theorem toEnvelope_length (e : NinjaOneError) :
    e.toEnvelope.text.length = envelopeFrame e.status_code + size e.message := by
  have keys : (quote "error").length = 7 ∧ (quote "code").length = 6 ∧
      (quote "message").length = 9 ∧ (quote "retryable").length = 11 := by decide
  have code : size (.str (classify e.status_code).1) = (quote (classify e.status_code).1).length :=
    rfl
  change size e.toEnvelope.value = _
  simp only [NinjaOneError.toEnvelope, errorEnvelope, size_obj, List.map_cons, List.map_nil,
    memberSize, keys, List.sum_cons, List.sum_nil, List.length_cons, List.length_nil,
    envelopeFrame, code]
  omega

/-- An error as every answer should be: a code, a message that is a string and a
flag, within the cap. -/
def Answer.WellFormedError (answer : Answer) : Prop :=
  (∃ code message retryable, answer.value = .obj [("error", .obj [("code", .str code),
    ("message", .str message), ("retryable", .bool retryable)])]) ∧
  answer.text.length ≤ MAX_CHARS

theorem toEnvelope_wellFormed_iff (e : NinjaOneError) :
    e.toEnvelope.WellFormedError ↔
      ∃ text, e.message = .str text ∧
        envelopeFrame e.status_code + (quote text).length ≤ MAX_CHARS := by
  rw [Answer.WellFormedError, toEnvelope_length]
  constructor
  · rintro ⟨⟨code, text, retryable, same⟩, fits⟩
    have message : e.message = .str text := by
      simp only [NinjaOneError.toEnvelope, errorEnvelope, Json.obj.injEq, List.cons.injEq,
        Prod.mk.injEq] at same
      exact same.1.2.2.1.2
    rw [message] at fits
    exact ⟨text, message, fits⟩
  · rintro ⟨text, message, fits⟩
    refine ⟨⟨(classify e.status_code).1, text, (classify e.status_code).2, ?_⟩, ?_⟩
    · rw [NinjaOneError.toEnvelope, message]
      rfl
    · rw [message]
      exact fits

/-- The response reports a text that fits into the frame. -/
def Response.ReportFits (py : PyText) (resp : Response) : Prop :=
  ∃ text, resp.Reports py text ∧
    envelopeFrame resp.status_code + (quote text).length ≤ MAX_CHARS

section Call

variable (py : PyText) (client : NinjaOneClient) (method path : String)
  (params : Option (List (String × Json))) (json_body : Option Json) {upstream : Upstream}
  {resp : Response} (answer : Json → Except Exn Answer)

/-- A call that ends with an error response answers with that error's envelope, if
it can read the response. -/
theorem answering_error_iff
    (out : upstream (lastAttempt upstream (client.clientRequest method path params json_body))
      (client.clientRequest method path params json_body) = .response resp)
    (above : 400 ≤ resp.status_code) {envelope : Answer} :
    ((client.request py method path params json_body upstream).answering answer).result =
        .ok envelope ↔
      ∃ message, extractError py resp = .ok message ∧
        envelope = (NinjaOneError.mk resp.status_code message).toEnvelope := by
  simp only [Traced.answering, request_result, out, conclude_above py _ above]
  cases extracted : extractError py resp with
  | ok message =>
      constructor
      · intro answered
        cases answered
        exact ⟨message, rfl, rfl⟩
      · rintro ⟨_, same, rfl⟩
        cases same
        rfl
  | error x =>
      rw [extractError_error extracted]
      constructor
      · intro answered
        cases answered
      · rintro ⟨_, same, _⟩
        cases same

/-- An error response becomes a proper envelope exactly when it reports a string
that fits into the frame. -/
theorem answering_wellFormed_iff
    (out : upstream (lastAttempt upstream (client.clientRequest method path params json_body))
      (client.clientRequest method path params json_body) = .response resp)
    (above : 400 ≤ resp.status_code) :
    (∃ envelope, ((client.request py method path params json_body upstream).answering
        answer).result = .ok envelope ∧ envelope.WellFormedError) ↔ resp.ReportFits py := by
  simp only [answering_error_iff py client method path params json_body answer out above,
    Response.ReportFits, ← extractError_str_iff]
  constructor
  · rintro ⟨_, ⟨message, extracted, rfl⟩, wellFormed⟩
    obtain ⟨text, rfl, fits⟩ := (toEnvelope_wellFormed_iff _).mp wellFormed
    exact ⟨text, extracted, fits⟩
  · rintro ⟨text, extracted, fits⟩
    exact ⟨_, ⟨_, extracted, rfl⟩, (toEnvelope_wellFormed_iff _).mpr ⟨text, rfl, fits⟩⟩

end Call

/-- The tool's call sends this one request, however often, and its last attempt
gets this response. -/
def ApiTool.EndsWith (tool : ApiTool) (py : PyText) (client : NinjaOneClient) (upstream : Upstream)
    (resp : Response) : Prop :=
  ∃ req, sends (tool.run py (some client) upstream).events =
      List.replicate (lastAttempt upstream req + 1) req ∧
    upstream (lastAttempt upstream req) req = .response resp

/-- **A tool answers an error response with a proper envelope** exactly when the
response reports a string that fits into the frame. -/
theorem tool_error_wellFormed_iff (tool : ApiTool) (py : PyText) (client : NinjaOneClient)
    {upstream : Upstream} {resp : Response} (ends : tool.EndsWith py client upstream resp)
    (above : 400 ≤ resp.status_code) :
    (∃ envelope, (tool.run py (some client) upstream).result = .ok envelope ∧
      envelope.WellFormedError) ↔ resp.ReportFits py := by
  obtain ⟨method, path, params, json_body, answer, run⟩ := tool.run_eq py client
  obtain ⟨req, sent, out⟩ := ends
  rw [run, Traced.answering, request_sends] at sent
  have same : client.clientRequest method path params json_body = req := by
    have mem : req ∈ List.replicate (lastAttempt upstream req + 1) req :=
      List.mem_replicate.mpr ⟨Nat.succ_ne_zero _, rfl⟩
    exact (List.eq_of_mem_replicate (sent ▸ mem)).symm
  rw [run]
  subst same
  exact answering_wellFormed_iff py client method path params json_body answer out above

/-- A body with a message. -/
theorem missingDevice_wellFormed : ∃ envelope, ((ApiTool.getDevice 5).run .ascii
      (some (.init "t" "https://app.ninjarmm.com")) fun _ _ => .response ⟨404, [], [0x7B],
        .value (.obj [("message", .str "no such device")]), ""⟩).result = .ok envelope ∧
    envelope.WellFormedError := by
  refine (tool_error_wellFormed_iff (.getDevice 5) .ascii (.init "t" "https://app.ninjarmm.com")
    ⟨_, request_sends .ascii _ _ _ _ _ _, rfl⟩ (by decide)).mpr ⟨"no such device", ?_, ?_⟩
  · exact rfl
  · decide

/-- An error reported as an object becomes the message as it is. -/
theorem nestedError_illFormed : ¬ ∀ (tool : ApiTool) (py : PyText) (client : NinjaOneClient)
    (upstream : Upstream) (resp : Response), tool.EndsWith py client upstream resp →
    400 ≤ resp.status_code →
    ∃ envelope, (tool.run py (some client) upstream).result = .ok envelope ∧
      envelope.WellFormedError := by
  intro all
  obtain ⟨envelope, answered, ⟨code, message, retryable, same⟩, _⟩ :=
    all (.getDevice 5) .ascii (.init "t" "https://app.ninjarmm.com")
      (fun _ _ => .response ⟨404, [], [0x7B],
        .value (.obj [("error", .obj [("code", .int 7)])]), ""⟩) _
      ⟨_, request_sends .ascii _ _ _ _ _ _, rfl⟩ (by decide)
  cases answered
  cases same

end NinjaOne
