import NinjaOne.Attempts
import NinjaOne.ApiRequest
import NinjaOne.Lib.Runs

/-!
A tool call on its way, one attempt at a time.

While a call awaits a response or sleeps, the event loop runs other tasks. A
`Flight` is such a call between two attempts, with the locals of the loop of
`_request`; an attempt is a step.

* `Flight.rest_run`: the steps of a flight, put together, are the call.
-/

namespace NinjaOne

structure Flight where
  /-- The task that runs the tool. -/
  task : Nat
  tool : ApiTool
  client : NinjaOneClient
  attempt : Nat
  last_exc : Option RequestError
  /-- What the tool has returned or raised. -/
  result : Option (Except Exn Answer)

namespace Flight

/-- A call that has its client. -/
def start (task : Nat) (tool : ApiTool) (client : NinjaOneClient) : Flight :=
  ⟨task, tool, client, 0, none, none⟩

def request (flight : Flight) : ClientRequest := flight.tool.request flight.client

def url (flight : Flight) : String := flight.client.base_url ++ flight.tool.path

/-- A tool's answer to what its call returns or raises. -/
def answering (py : PyText) (flight : Flight) (call : Traced Json) : ToolRun :=
  call.answering (flight.tool.answer py)

end Flight

/-- What the loop sleeps before it tries again. -/
def Outcome.pause (py : PyText) (attempt : Nat) : Outcome → FloatValue
  | .requestError _ => (FloatValue.finite (2 ^ attempt)).min MAX_BACKOFF_SECONDS
  | .response resp => retryDelay py resp attempt

/-- `last_exc` after an attempt. -/
def Outcome.lastExc (last_exc : Option RequestError) : Outcome → Option RequestError
  | .requestError e => some e
  | .response _ => last_exc

namespace Flight

/-- A round of the loop of `_request`. -/
def step (py : PyText) (flight : Flight) (out : Outcome) : Option (Flight × List Event) :=
  match flight.result with
  | some _ => none
  | none =>
      if out.transient = true ∧ flight.attempt < MAX_RETRIES then
        some ({ flight with
                attempt := flight.attempt + 1, last_exc := out.lastExc flight.last_exc },
          [.send flight.request, .sleep (out.pause py flight.attempt)])
      else
        some ({ flight with
                result := some (flight.answering py ⟨[], conclude py flight.url out⟩).result },
          [.send flight.request])

/-- What is left of the call, against an upstream. -/
def rest (py : PyText) (flight : Flight) (upstream : Upstream) : ToolRun :=
  match flight.result with
  | some result => ⟨[], result⟩
  | none =>
      flight.answering py (requestLoop py flight.url flight.request upstream
        (List.range' flight.attempt (MAX_RETRIES + 1 - flight.attempt)) flight.last_exc)

theorem rest_start (py : PyText) (task : Nat) (tool : ApiTool) (client : NinjaOneClient)
    (upstream : Upstream) :
    (start task tool client).rest py upstream = tool.run py (some client) upstream := by
  rw [ApiTool.run_request, NinjaOneClient.request, List.range_eq_range']
  rfl

section Steps

variable {py : PyText} {flight flight' : Flight} {out : Outcome} {events : List Event}

/-- What a step does: the loop goes on, or the call ends. -/
theorem step_cases (taken : flight.step py out = some (flight', events)) :
    flight.result = none ∧
      ((out.transient = true ∧ flight.attempt < MAX_RETRIES ∧
        flight' = { flight with attempt := flight.attempt + 1,
                                last_exc := out.lastExc flight.last_exc } ∧
        events = [.send flight.request, .sleep (out.pause py flight.attempt)]) ∨
      (¬ (out.transient = true ∧ flight.attempt < MAX_RETRIES) ∧
        flight' = { flight with
          result := some (flight.answering py ⟨[], conclude py flight.url out⟩).result } ∧
        events = [.send flight.request])) := by
  unfold step at taken
  cases held : flight.result with
  | some result =>
      rw [held] at taken
      cases taken
  | none =>
      simp only [held] at taken
      refine ⟨rfl, ?_⟩
      split at taken
      · rename_i again
        obtain ⟨rfl, rfl⟩ := Prod.mk.inj (Option.some.inj taken)
        exact Or.inl ⟨again.1, again.2, rfl, rfl⟩
      · rename_i ends
        obtain ⟨rfl, rfl⟩ := Prod.mk.inj (Option.some.inj taken)
        exact Or.inr ⟨ends, rfl, rfl⟩

/-- What a call keeps. -/
structure Same (flight flight' : Flight) : Prop where
  task : flight.task = flight'.task
  tool : flight.tool = flight'.tool
  client : flight.client = flight'.client

theorem same_step (taken : flight.step py out = some (flight', events)) : Same flight flight' := by
  obtain ⟨_, ⟨_, _, rfl, _⟩ | ⟨_, rfl, _⟩⟩ := step_cases taken <;> exact ⟨rfl, rfl, rfl⟩

/-- An attempt sends the one request of its call. -/
theorem sends_step (taken : flight.step py out = some (flight', events)) :
    sends events = [flight.request] := by
  obtain ⟨_, ⟨_, _, _, rfl⟩ | ⟨_, _, rfl⟩⟩ := step_cases taken <;> rfl

/-- An attempt takes its events off what is left. -/
theorem rest_step (taken : flight.step py out = some (flight', events))
    (bound : flight.attempt ≤ MAX_RETRIES) {upstream : Upstream}
    (sees : upstream flight.attempt flight.request = out) :
    flight.rest py upstream = (flight'.rest py upstream).after events := by
  have head : List.range' flight.attempt (MAX_RETRIES + 1 - flight.attempt) =
      flight.attempt ::
        List.range' (flight.attempt + 1) (MAX_RETRIES + 1 - (flight.attempt + 1)) := by
    have one : MAX_RETRIES + 1 - flight.attempt =
        (MAX_RETRIES + 1 - (flight.attempt + 1)) + 1 := by omega
    rw [one, List.range'_succ]
  obtain ⟨open_, ⟨transient, more, rfl, rfl⟩ | ⟨ends, rfl, rfl⟩⟩ := step_cases taken
  · unfold rest
    simp only [open_, head, requestLoop, sees]
    cases out with
    | requestError e => simp only [if_pos more]; rfl
    | response resp =>
        have busy : resp.status_code ∈ RETRYABLE_STATUS := by
          rw [transient_response, decide_eq_true_iff] at transient
          exact transient
        simp only [busy, more, and_self, if_true]
        rfl
  · unfold rest
    simp only [open_, head, requestLoop, sees]
    cases out with
    | requestError e =>
        rw [transient_requestError] at ends
        have spent : ¬ flight.attempt < MAX_RETRIES := fun more => ends ⟨rfl, more⟩
        simp only [if_neg spent]
        rfl
    | response resp =>
        rw [transient_response, decide_eq_true_iff] at ends
        simp only [if_neg ends]
        rfl

theorem attempt_step (taken : flight.step py out = some (flight', events))
    (bound : flight.attempt ≤ MAX_RETRIES) :
    flight'.attempt ≤ MAX_RETRIES ∧
      (flight'.result = none → flight'.attempt = flight.attempt + 1) ∧
      flight'.request = flight.request := by
  obtain ⟨_, ⟨_, more, rfl, _⟩ | ⟨_, rfl, _⟩⟩ := step_cases taken
  · exact ⟨more, fun _ => rfl, rfl⟩
  · exact ⟨bound, nofun, rfl⟩

end Steps

theorem same_run {py : PyText} {flight flight' : Flight} {trace : List (Outcome × List Event)}
    (run : Run (step py) flight trace flight') : Same flight flight' := by
  induction run with
  | nil => exact ⟨rfl, rfl, rfl⟩
  | cons taken _ ih =>
      have first := same_step taken
      exact ⟨first.task.trans ih.task, first.tool.trans ih.tool, first.client.trans ih.client⟩

theorem sends_run {py : PyText} {flight flight' : Flight} {trace : List (Outcome × List Event)}
    (run : Run (step py) flight trace flight') :
    ∀ entry ∈ trace, ∀ req ∈ sends entry.2, req = flight'.request := by
  induction run with
  | nil => exact fun _ mem => absurd mem List.not_mem_nil
  | @cons flight₁ flight₂ flight₃ out events rest taken after ih =>
      intro entry mem req sent
      rcases List.mem_cons.mp mem with rfl | later
      · have same := same_run (.cons taken after)
        rw [sends_step taken, List.mem_singleton] at sent
        rw [sent, request, request, same.tool, same.client]
      · exact ih entry later req sent

/-- **The steps of a flight, put together, are the call**: against an upstream
that does what was seen of it, what was left before them is what they did,
followed by what is left now. -/
theorem rest_run {py : PyText} {flight flight' : Flight} {trace : List (Outcome × List Event)}
    (run : Run (step py) flight trace flight') (bound : flight.attempt ≤ MAX_RETRIES)
    {upstream : Upstream} (sees : ∀ i out, (trace.map Prod.fst)[i]? = some out →
      upstream (flight.attempt + i) flight.request = out) :
    flight.rest py upstream = (flight'.rest py upstream).after (trace.flatMap Prod.snd) := by
  induction run with
  | nil => rfl
  | @cons flight flight₁ flight₂ out events more taken after ih =>
      obtain ⟨bound₁, next, same⟩ := attempt_step taken bound
      rw [rest_step taken bound (sees 0 out rfl), List.flatMap_cons]
      have later : flight₁.rest py upstream =
          (flight₂.rest py upstream).after (more.flatMap Prod.snd) := by
        refine ih bound₁ fun i out' found => ?_
        cases ended : flight₁.result with
        | none =>
            rw [next ended, same, Nat.add_assoc, Nat.add_comm 1 i]
            exact sees (i + 1) out' found
        | some result =>
            -- A call that has ended takes no step.
            cases after with
            | nil => cases found
            | cons taken' _ =>
                have going := (step_cases taken').1
                rw [ended] at going
                cases going
      rw [later, Traced.after, Traced.after, Traced.after, List.append_assoc]

end Flight

end NinjaOne
