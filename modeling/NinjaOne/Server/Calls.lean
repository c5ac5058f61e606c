import NinjaOne.Server

/-!
The calls of a running server, in any interleaving of connections, tasks and
attempts: on whose behalf they are made, and that each runs as if it ran alone.

* `sent_for_own_headers`: a request carries the token and goes to the host of the
  headers that the task's own connection came with.
* `called_with_token`: nothing is called for a connection without a token.
* `runs_as_if_alone`: what a call causes and answers is what the tool does in a
  run by itself against the upstream the call has seen.
-/

namespace NinjaOne

namespace Server

variable {d : Deployment} {server server' : Server}

/-! ### On whose behalf -/

/-- A call acts for the connection of its task: its client is made of that
connection's headers. -/
structure ActsFor (py : PyText) (gate : Gate) (flight : Flight) (scope : Scope)
    (creds : GatewayCreds) : Prop where
  works : gate.scopeOf flight.task = some scope
  headers : scope.creds = some creds
  client : flight.client = creds.client py

structure Sound (d : Deployment) (server : Server) : Prop where
  gate : server.gate.Sound
  flights : ∀ (f : Nat) flight, server.flights[f]? = some flight →
    ∃ scope creds, ActsFor d.py server.gate flight scope creds

theorem sound_empty : Sound d .empty where
  gate := Gate.Sound.empty
  flights _ _ found := by cases found

/-- A task that may call tools finds the credentials of its own connection. -/
theorem creds_of_runsTools (guarded : d.Guarded) (sound : server.gate.Sound) {t : Nat}
    (runs : server.runsTools d t = true) :
    ∃ scope creds, server.gate.scopeOf t = some scope ∧ scope.creds = some creds ∧
      server.clientIn d t = some (creds.client d.py) := by
  rw [runsTools, Bool.and_eq_true] at runs
  cases found : server.gate.tasks[t]? with
  | none =>
      rw [Gate.runsApp, found] at runs
      cases runs.1
  | some task =>
      obtain ⟨conn, owned, held, served⟩ := sound.runsApp found runs.1
      have scope := scopeOf_of_found found owned
      rw [scope, Option.any_some] at runs
      obtain ⟨creds, headers, shown⟩ := sound.shown_of_guarded owned served (guarded _ runs.2)
      refine ⟨conn.scope, creds, scope, headers, ?_⟩
      rw [clientIn, found, Option.bind_some, held, shown, getClientFromContext, Option.map_some]

theorem sound_step (guarded : d.Guarded) (sound : server.Sound d)
    {entry : ServerEvent × ServerReply} (change : Change d server entry server') :
    server'.Sound d := by
  cases change with
  | idle => exact sound
  | gate _ _ stepped =>
      refine ⟨sound.gate.step stepped, fun f flight found => ?_⟩
      obtain ⟨scope, creds, acts⟩ := sound.flights f flight found
      exact ⟨scope, creds, scopeOf_step stepped acts.works, acts.headers, acts.client⟩
  | store => exact ⟨sound.gate, sound.flights⟩
  | start _ _ starts =>
      refine ⟨sound.gate, fun f flight found => ?_⟩
      rcases getElem?_snoc found with old | ⟨_, rfl⟩
      · exact sound.flights f flight old
      · obtain ⟨scope, creds, works, headers, given⟩ :=
          creds_of_runsTools guarded sound.gate starts.runs
        rw [starts.client, Option.some.injEq] at given
        exact ⟨scope, creds, works, headers, given⟩
  | @attempt f out flight next events found stepped =>
      refine ⟨sound.gate, fun f' flight' found' => ?_⟩
      rw [List.getElem?_set] at found'
      split at found'
      · rename_i same
        split at found'
        · cases found'
          obtain ⟨scope, creds, acts⟩ := sound.flights f flight found
          have kept := Flight.same_step stepped
          exact ⟨scope, creds, kept.task ▸ acts.works, acts.headers, kept.client ▸ acts.client⟩
        · cases found'
      · exact sound.flights f' flight' found'

theorem sound_run (guarded : d.Guarded) {trace : List (ServerEvent × ServerReply)}
    (run : Run (step d) .empty trace server) : server.Sound d :=
  Run.induction (P := fun _ server => server.Sound d) sound_empty
    (fun _ _ _ _ _ _ sound taken => sound_step guarded sound (step_change taken)) run

/-! ### A deployment that only reads -/

/-- A deployment without script execution, whose MCP app answers at `/mcp`. -/
def readerDeployment : Deployment where
  settings := ⟨false, ""⟩
  py := .ascii
  loads := fun _ => .valueError
  endpoint := fun scope => scope.type == "http" && scope.path == "/mcp"

theorem readerDeployment_guarded : readerDeployment.Guarded := by
  intro scope
  simp only [readerDeployment, Scope.guarded, Bool.and_eq_true, beq_iff_eq]
  rintro ⟨type, path⟩
  rw [type, path]
  decide

def euScope : Scope :=
  ⟨"http", "POST", "/mcp", [("x-ninja-token", "t"), ("x-ninja-region", "eu")]⟩

def euCreds : GatewayCreds := ⟨"t", "eu", ""⟩

def boardsFlight : Flight := .start 0 .getTicketBoards (euCreds.client .ascii)

def timeout : Outcome := .requestError ⟨"timeout"⟩

def noBoards : Outcome := .response ⟨200, [], [0x5B, 0x5D], .value (.arr []), "[]"⟩

/-- A call of `ninjaone_get_ticket_boards` whose first attempt times out. -/
def boardsTrace : List (ServerEvent × ServerReply) :=
  [(.connect euScope none [] 0, .done), (.enter 0, .done), (.call 0 .getTicketBoards, .done),
    (.attempt 0 timeout,
      .caused [.send boardsFlight.request, .sleep (timeout.pause .ascii 0)]),
    (.attempt 0 noBoards, .caused [.send boardsFlight.request])]

/-- The answer: no boards. -/
def boardsAnswer : Except Exn Answer := .ok (dumpJsonCapped (.obj [("boards", .arr [])]))

def boardsServer : Server where
  gate := ⟨[⟨euScope, 0, none, .inside none⟩], [⟨0, some euCreds⟩]⟩
  service := .empty
  flights := [{ boardsFlight with
    attempt := 1, last_exc := some ⟨"timeout"⟩, result := some boardsAnswer }]

theorem boards_run : Run (step readerDeployment) .empty boardsTrace boardsServer :=
  .cons rfl (.cons rfl (.cons rfl (.cons rfl (.cons rfl (.nil _)))))

/-! ### The requests and the calls -/

/-- **Every request goes out on behalf of its own connection**: it carries the
token and goes to the host that the headers of that connection name, however the
connections, tasks and attempts interleave. -/
theorem sent_for_own_headers (guarded : d.Guarded) {trace : List (ServerEvent × ServerReply)}
    (run : Run (step d) .empty trace server) {f : Nat} {out : Outcome} {events : List Event}
    (made : (ServerEvent.attempt f out, ServerReply.caused events) ∈ trace) :
    ∃ flight scope creds, server.flights[f]? = some flight ∧
      server.gate.scopeOf flight.task = some scope ∧ scope.creds = some creds ∧
      ∀ req ∈ sends events, req.headers.lookup "Authorization" = some ("Bearer " ++ creds.token) ∧
        urlHost req.url = urlHost (resolveBaseUrl d.py creds.base_url creds.region) := by
  obtain ⟨flight, found⟩ := flight_of_attempt run made
  obtain ⟨scope, creds, acts⟩ := (sound_run guarded run).flights f flight found
  refine ⟨flight, scope, creds, found, acts.works, acts.headers, fun req mem => ?_⟩
  rw [sent_by_flight run found made req mem, Flight.request, request_host, acts.client]
  refine ⟨rfl, ?_⟩
  rw [GatewayCreds.client, init_resolveBaseUrl]

theorem boards_sent : ∃ flight scope creds, boardsServer.flights[0]? = some flight ∧
    boardsServer.gate.scopeOf flight.task = some scope ∧ scope.creds = some creds ∧
    ∀ req ∈ sends [.send boardsFlight.request],
      req.headers.lookup "Authorization" = some ("Bearer " ++ creds.token) ∧
        urlHost req.url = urlHost (resolveBaseUrl .ascii creds.base_url creds.region) :=
  @sent_for_own_headers readerDeployment boardsServer readerDeployment_guarded _ boards_run 0
    noBoards _ (by simp [boardsTrace])

theorem scopeOf_change {entry : ServerEvent × ServerReply} (change : Change d server entry server')
    {t : Nat} {scope : Scope} (works : server.gate.scopeOf t = some scope) :
    server'.gate.scopeOf t = some scope := by
  cases change with
  | gate _ _ stepped => exact scopeOf_step stepped works
  | _ => exact works

/-- The task that calls a tool. -/
def caller : ServerEvent → Option Nat
  | .call task _ => some task
  | .callbackCall task _ => some task
  | _ => none

theorem runsTools_of_caller {event : ServerEvent} {reply : ServerReply}
    (taken : server.step d event = some (server', reply)) {t : Nat}
    (calls : caller event = some t) : server.runsTools d t = true := by
  cases event with
  | call task tool =>
      cases calls
      exact (call_cases taken).1
  | callbackCall task tool =>
      cases calls
      exact (callbackCall_cases taken).1
  | _ => cases calls

theorem answered_call {event : ServerEvent} {answer : Answer}
    (taken : server.step d event = some (server', .answered answer)) :
    (answer = NO_TOKEN ∧ ∃ t, caller event = some t ∧ server.clientIn d t = none) ∨
      answer = NOT_CONFIGURED := by
  cases event with
  | call task tool =>
      obtain ⟨_, _, ⟨without, _, same⟩ | ⟨_, _, _, same⟩⟩ := call_cases taken
      · cases same
        exact Or.inl ⟨rfl, task, rfl, without⟩
      · cases same
  | callbackCall task tool =>
      obtain ⟨_, _, ⟨_, _, same⟩ | ⟨_, _, operated⟩⟩ := callbackCall_cases taken
      · cases same
        exact Or.inr rfl
      · obtain ⟨_, _, _, _, same⟩ := operate_cases operated
        cases same
  | connect scope initial body now =>
      rcases connect_cases taken with ⟨_, _, same⟩ | ⟨_, _, operated⟩ | ⟨_, moved⟩
      · cases same
      · obtain ⟨_, _, _, _, same⟩ := operate_cases operated
        cases same
      · obtain ⟨_, _, _, same⟩ := moveGate_cases moved
        cases same
  | attempt f out =>
      obtain ⟨_, _, _, _, _, _, same⟩ := attempt_cases taken
      cases same
  | waitEnd wait readings timed_out =>
      obtain ⟨_, _, _, _, same⟩ := operate_cases taken
      cases same
  | enter i =>
      obtain ⟨_, _, _, same⟩ := moveGate_cases taken
      cases same
  | spawn t =>
      obtain ⟨_, _, _, same⟩ := moveGate_cases taken
      cases same
  | leave i =>
      obtain ⟨_, _, _, same⟩ := moveGate_cases taken
      cases same

/-- A task that calls a tool works for a connection with credentials. -/
theorem callers_authorized (guarded : d.Guarded) {trace : List (ServerEvent × ServerReply)}
    (run : Run (step d) .empty trace server) : ∀ entry ∈ trace, ∀ t ∈ caller entry.1,
      ∃ scope creds, server.gate.scopeOf t = some scope ∧ scope.creds = some creds := by
  refine Run.induction (P := fun trace server => ∀ entry ∈ trace, ∀ t ∈ caller entry.1,
    ∃ scope creds, server.gate.scopeOf t = some scope ∧ scope.creds = some creds)
    (fun _ mem => absurd mem List.not_mem_nil) ?_ run
  intro trace server event reply server' before ih taken entry mem t calls
  have change := step_change taken
  rcases List.mem_append.mp mem with old | new
  · obtain ⟨scope, creds, works, headers⟩ := ih entry old t calls
    exact ⟨scope, creds, scopeOf_change change works, headers⟩
  · rw [List.mem_singleton.mp new] at calls
    obtain ⟨scope, creds, works, headers, _⟩ := creds_of_runsTools guarded
      (sound_run guarded before).gate (runsTools_of_caller taken calls)
    exact ⟨scope, creds, scopeOf_change change works, headers⟩

/-- **Nothing is called for a connection without a token**, and no tool ever
answers that there are no credentials. -/
theorem called_with_token (guarded : d.Guarded) {trace : List (ServerEvent × ServerReply)}
    (run : Run (step d) .empty trace server) :
    ∀ entry ∈ trace, entry.2 ≠ .answered NO_TOKEN ∧ ∀ t ∈ caller entry.1,
      ∃ scope creds, server.gate.scopeOf t = some scope ∧ scope.creds = some creds := by
  intro entry mem
  refine ⟨fun same => ?_, callers_authorized guarded run entry mem⟩
  obtain ⟨event, reply⟩ := entry
  obtain ⟨before, after, rfl⟩ := List.append_of_mem mem
  obtain ⟨middle, first, rest⟩ := run.split
  change reply = _ at same
  subst same
  cases rest with
  | cons taken _ =>
      have apart : NO_TOKEN ≠ NOT_CONFIGURED := by
        simp [NO_TOKEN, NOT_CONFIGURED, errorEnvelope]
      rcases answered_call taken with ⟨_, t, calls, without⟩ | other
      · obtain ⟨_, _, _, _, given⟩ := creds_of_runsTools guarded (sound_run guarded first).gate
          (runsTools_of_caller taken calls)
        rw [without] at given
        cases given
      · exact apart other

theorem boards_called : ∀ entry ∈ boardsTrace, entry.2 ≠ .answered NO_TOKEN ∧
    ∀ t ∈ caller entry.1,
      ∃ scope creds, boardsServer.gate.scopeOf t = some scope ∧ scope.creds = some creds :=
  called_with_token readerDeployment_guarded boards_run

/-! ### Alone -/

/-- **Every call runs as if it ran alone**: whatever else the server does in
between, what it causes and answers is what the tool does by itself against any
upstream that does what the call has seen. While it is on its way, that much of
it has happened. -/
theorem runs_as_if_alone {trace : List (ServerEvent × ServerReply)}
    (run : Run (step d) .empty trace server) {f : Nat} {flight : Flight}
    (found : server.flights[f]? = some flight) {upstream : Upstream}
    (sees : ∀ i out, ((trace.filterMap (ownAt ownAttempt f)).map Prod.fst)[i]? = some out →
      upstream i flight.request = out) :
    let caused := (trace.filterMap (ownAt ownAttempt f)).flatMap Prod.snd
    let alone := flight.tool.run d.py (some flight.client) upstream
    (∀ result, flight.result = some result → alone = ⟨caused, result⟩) ∧
      ∃ more, alone.events = caused ++ more := by
  obtain ⟨first, starts, own⟩ := flight_run run found
  have same := Flight.same_run own
  have fresh : first.attempt = 0 := by rw [starts]; rfl
  have whole := Flight.rest_run own (by rw [fresh]; exact Nat.zero_le _) fun i out seen => by
    rw [fresh, Nat.zero_add, Flight.request, same.tool, same.client]
    exact sees i out seen
  rw [starts, Flight.rest_start, same.tool, same.client] at whole
  refine ⟨fun result ended => ?_, _, congrArg Traced.events whole⟩
  rw [whole, Flight.rest, ended, Traced.after, List.append_nil]

/-- The upstream that the call has seen. -/
def flaky : Upstream := fun attempt _ => if attempt = 0 then timeout else noBoards

theorem boards_alone :
    let caused := [.send boardsFlight.request, .sleep (timeout.pause .ascii 0),
      .send boardsFlight.request]
    let alone := ApiTool.getTicketBoards.run .ascii (some (euCreds.client .ascii)) flaky
    (∀ result, some boardsAnswer = some result → alone = ⟨caused, result⟩) ∧
      ∃ more, alone.events = caused ++ more :=
  @runs_as_if_alone _ _ _ boards_run 0 _ rfl flaky fun i out
      (seen : [timeout, noBoards][i]? = some out) => by
    rcases i with _ | _ | i
    · exact Option.some.inj seen
    · exact Option.some.inj seen
    · cases seen

end Server

end NinjaOne
