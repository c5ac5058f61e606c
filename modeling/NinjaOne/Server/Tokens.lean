import NinjaOne.Server.Calls

/-!
What a server does with the tokens it is handed: it keeps them while it answers
their own connection, it sends them on, and nothing else depends on them.

`hidden` writes a mark in the place of every token. The steps of the server
commute with it, so no reply, no pair of the store and no answer of a tool can
tell one token from another.

* `creds_kept`: the variable is left as it was found, and no task ever holds the
  credentials of another connection.
* `tokens_unseen`: the runs with other tokens are the same runs.
-/

namespace NinjaOne

/-! ### Hiding tokens -/

/-- A token, as no more than given or not. -/
def hide (token : String) : String := if token = "" then "" else "*"

@[simp] theorem hide_eq_nil (token : String) : hide token = "" ↔ token = "" := by
  unfold hide
  split
  · simpa
  · rename_i given
    simp [given]

def hideHeader (header : String × String) : String × String :=
  if header.1 = "x-ninja-token" then (header.1, hide header.2) else header

namespace Scope

def hidden (scope : Scope) : Scope := { scope with headers := scope.headers.map hideHeader }

theorem lookup_hideHeader (headers : List (String × String)) (name : String) :
    (headers.map hideHeader).lookup name =
      if name = "x-ninja-token" then (headers.lookup name).map hide else headers.lookup name := by
  induction headers with
  | nil => simp
  | cons header rest ih =>
      obtain ⟨key, value⟩ := header
      rw [List.map_cons, hideHeader]
      split
      · rename_i token
        change key = "x-ninja-token" at token
        rw [Dict.lookup_cons_if, Dict.lookup_cons_if, ih, token]
        by_cases here : name = "x-ninja-token" <;> simp [here]
      · rename_i other
        change ¬ key = "x-ninja-token" at other
        rw [Dict.lookup_cons_if, Dict.lookup_cons_if, ih]
        by_cases here : name = key <;> simp [here, other]

theorem header_token (scope : Scope) :
    scope.hidden.header "x-ninja-token" = (scope.header "x-ninja-token").map hide := by
  rw [header, hidden, lookup_hideHeader, if_pos rfl, header]

theorem header_hidden (scope : Scope) {name : String} (other : name ≠ "x-ninja-token") :
    scope.hidden.header name = scope.header name := by
  rw [header, hidden, lookup_hideHeader, if_neg other, header]

end Scope

def GatewayCreds.hidden (creds : GatewayCreds) : GatewayCreds :=
  { creds with token := hide creds.token }

theorem Scope.creds_hidden (scope : Scope) :
    scope.hidden.creds = scope.creds.map GatewayCreds.hidden := by
  have region := scope.header_hidden (by decide : "x-ninja-region" ≠ "x-ninja-token")
  have base_url := scope.header_hidden (by decide : "x-ninja-base-url" ≠ "x-ninja-token")
  rw [creds, header_token, region, base_url, creds]
  cases scope.header "x-ninja-token" with
  | none => rfl
  | some token =>
      simp only [Option.map_some, hide_eq_nil]
      split <;> rfl

def Admission.hidden : Admission → Admission
  | .set creds => .set creds.hidden
  | admission => admission

theorem gatewayTokenMiddleware_hidden (scope : Scope) :
    gatewayTokenMiddleware scope.hidden = (gatewayTokenMiddleware scope).hidden := by
  have guarded : scope.hidden.guarded = scope.guarded := rfl
  rw [gatewayTokenMiddleware, guarded, scope.creds_hidden, gatewayTokenMiddleware]
  split
  · cases scope.creds <;> rfl
  · rfl

/-! ### The gate -/

def Phase.hidden : Phase → Phase
  | .inside old => .inside (old.map GatewayCreds.hidden)
  | phase => phase

def Connection.hidden (conn : Connection) : Connection :=
  { conn with
    scope := conn.scope.hidden
    initial := conn.initial.map GatewayCreds.hidden
    phase := conn.phase.hidden }

@[simp] theorem Connection.hidden_scope (conn : Connection) :
    conn.hidden.scope = conn.scope.hidden := rfl

@[simp] theorem Connection.hidden_task (conn : Connection) : conn.hidden.task = conn.task := rfl

@[simp] theorem Connection.hidden_phase (conn : Connection) :
    conn.hidden.phase = conn.phase.hidden := rfl

@[simp] theorem Phase.hidden_awaits (phase : Phase) : phase.hidden.awaits = phase.awaits := by
  cases phase <;> rfl

@[simp] theorem Phase.hidden_eq_waiting (phase : Phase) :
    phase.hidden = .waiting ↔ phase = .waiting := by
  cases phase <;> simp [Phase.hidden]

def Task.hidden (task : Task) : Task :=
  { task with creds := task.creds.map GatewayCreds.hidden }

@[simp] theorem Task.hidden_connection (task : Task) :
    task.hidden.connection = task.connection := rfl

namespace Gate

def hidden (gate : Gate) : Gate :=
  ⟨gate.connections.map Connection.hidden, gate.tasks.map Task.hidden⟩

theorem tasks_hidden (gate : Gate) (t : Nat) :
    gate.hidden.tasks[t]? = (gate.tasks[t]?).map Task.hidden := List.getElem?_map

theorem connections_hidden (gate : Gate) (i : Nat) :
    gate.hidden.connections[i]? = (gate.connections[i]?).map Connection.hidden :=
  List.getElem?_map

theorem runsApp_hidden (gate : Gate) (t : Nat) : gate.hidden.runsApp t = gate.runsApp t := by
  rw [runsApp, tasks_hidden, runsApp]
  cases gate.tasks[t]? with
  | none => rfl
  | some task =>
      simp only [Option.map_some, Task.hidden_connection, connections_hidden]
      cases gate.connections[task.connection]? with
      | none => rfl
      | some conn =>
          simp only [Option.map_some, Connection.hidden_task, Connection.hidden_phase,
            Phase.hidden_awaits]

theorem rootOf_hidden (gate : Gate) (i : Nat) :
    gate.hidden.rootOf i = (gate.rootOf i).map fun root => (root.1.hidden, root.2.hidden) := by
  rw [rootOf, connections_hidden, rootOf]
  cases gate.connections[i]? with
  | none => rfl
  | some conn =>
      simp only [Option.map_some, Connection.hidden_task, tasks_hidden, Option.map_map]
      rfl

theorem move_hidden (gate : Gate) (i : Nat) (conn : Connection) (task : Task) (phase : Phase)
    (creds : Option GatewayCreds) :
    gate.hidden.move i conn.hidden task.hidden phase.hidden (creds.map GatewayCreds.hidden) =
      (gate.move i conn task phase creds).hidden := by
  rw [move, hidden, hidden, move, List.map_set, List.map_set]
  rfl

end Gate

def GateEvent.hidden : GateEvent → GateEvent
  | .accept scope initial => .accept scope.hidden (initial.map GatewayCreds.hidden)
  | event => event

theorem Gate.step_hidden (gate : Gate) (event : GateEvent) :
    gate.hidden.step event.hidden = (gate.step event).map Gate.hidden := by
  cases event with
  | accept scope initial =>
      simp only [GateEvent.hidden, step, Option.map_some, hidden, List.map_append, List.length_map]
      rfl
  | enter i =>
      simp only [GateEvent.hidden, step, rootOf_hidden]
      cases gate.rootOf i with
      | none => rfl
      | some root =>
          obtain ⟨conn, task⟩ := root
          simp only [Option.map_some, Connection.hidden_phase, Connection.hidden_scope, ne_eq,
            Phase.hidden_eq_waiting, gatewayTokenMiddleware_hidden]
          split
          · rfl
          · cases gatewayTokenMiddleware conn.scope with
            | through => exact congrArg some (gate.move_hidden i conn task .through task.creds)
            | unauthorized => exact congrArg some (gate.move_hidden i conn task .refused task.creds)
            | set creds =>
                exact congrArg some
                  (gate.move_hidden i conn task (.inside task.creds) (some creds))
  | spawn t =>
      simp only [GateEvent.hidden, step, tasks_hidden, runsApp_hidden]
      cases gate.tasks[t]? with
      | none => rfl
      | some task =>
          simp only [Option.map_some]
          split
          · simp only [Option.map_some, hidden, List.map_append, List.map_cons, List.map_nil]
          · rfl
  | leave i =>
      simp only [GateEvent.hidden, step, rootOf_hidden]
      cases gate.rootOf i with
      | none => rfl
      | some root =>
          obtain ⟨conn, task⟩ := root
          simp only [Option.map_some, Connection.hidden_phase]
          cases conn.phase with
          | through => exact congrArg some (gate.move_hidden i conn task .finished task.creds)
          | inside old => exact congrArg some (gate.move_hidden i conn task .finished old)
          | _ => rfl

theorem Gate.scopeOf_hidden (gate : Gate) (t : Nat) :
    gate.hidden.scopeOf t = (gate.scopeOf t).map Scope.hidden := by
  have owners : gate.hidden.tasks.map Task.connection = gate.tasks.map Task.connection :=
    List.map_map
  have scopes : gate.hidden.connections.map Connection.scope =
      (gate.connections.map Connection.scope).map Scope.hidden := by
    rw [hidden, List.map_map, List.map_map]
    rfl
  rw [scopeOf, owners, scopes, scopeOf, Option.map_bind]
  refine congrArg _ (funext fun i => ?_)
  rw [List.getElem?_map]
  rfl

/-! ### Calls -/

def NinjaOneClient.hidden (client : NinjaOneClient) : NinjaOneClient :=
  { client with token := hide client.token }

/-- `Bearer …`, without the token. -/
def hideBearer (header : String × String) : String × String :=
  if header.1 = "Authorization" then
    (header.1, "Bearer " ++ hide (String.ofList (header.2.toList.drop "Bearer ".length)))
  else header

def ClientRequest.hidden (req : ClientRequest) : ClientRequest :=
  { req with headers := req.headers.map hideBearer }

def Event.hidden : Event → Event
  | .send req => .send req.hidden
  | .sleep seconds => .sleep seconds

theorem hideBearer_authorization (token : String) :
    hideBearer ("Authorization", "Bearer " ++ token) = ("Authorization", "Bearer " ++ hide token) := by
  have length : "Bearer ".length = "Bearer ".toList.length := rfl
  rw [hideBearer, if_pos rfl, String.toList_append, length, List.drop_left, String.ofList_toList]

theorem clientRequest_hidden (client : NinjaOneClient) (method path : String)
    (params : Option (List (String × Json))) (json_body : Option Json) :
    client.hidden.clientRequest method path params json_body =
      (client.clientRequest method path params json_body).hidden := by
  have accept : hideBearer ("Accept", "application/json") = ("Accept", "application/json") := by
    decide
  have content_type : hideBearer ("Content-Type", "application/json") =
      ("Content-Type", "application/json") := by decide
  rw [ClientRequest.hidden, NinjaOneClient.clientRequest, NinjaOneClient.clientRequest,
    NinjaOneClient.hidden]
  simp only [List.map_append, List.map_cons, List.map_nil, hideBearer_authorization, accept]
  split <;> simp [content_type]

namespace Flight

def hidden (flight : Flight) : Flight := { flight with client := flight.client.hidden }

theorem request_hidden (flight : Flight) : flight.hidden.request = flight.request.hidden :=
  clientRequest_hidden flight.client flight.tool.method flight.tool.path flight.tool.params
    (flight.tool.body.map .obj)

theorem step_hidden (py : PyText) (flight : Flight) (out : Outcome) :
    flight.hidden.step py out =
      (flight.step py out).map fun next => (next.1.hidden, next.2.map Event.hidden) := by
  have result : flight.hidden.result = flight.result := rfl
  have attempt : flight.hidden.attempt = flight.attempt := rfl
  rw [step, step, result, request_hidden]
  cases flight.result with
  | some => rfl
  | none =>
      simp only [attempt]
      split <;> rfl

end Flight

/-! ### The server -/

def ServerEvent.hidden : ServerEvent → ServerEvent
  | .connect scope initial body now =>
      .connect scope.hidden (initial.map GatewayCreds.hidden) body now
  | event => event

def ServerReply.hidden : ServerReply → ServerReply
  | .caused events => .caused (events.map Event.hidden)
  | reply => reply

/-- The MCP app does not look at the token either. -/
def Deployment.Blind (d : Deployment) : Prop :=
  ∀ scope, d.endpoint scope.hidden = d.endpoint scope

theorem route_hidden (settings : Settings) (scope : Scope) (body : List UInt8) :
    route settings scope.hidden body = route settings scope body := by
  have content_type := scope.header_hidden (by decide : "content-type" ≠ "x-ninja-token")
  have request : callbackRequest scope.hidden body = callbackRequest scope body := by
    simp only [callbackRequest, content_type]
    rfl
  rw [route, request]
  rfl

namespace Server

def hidden (server : Server) : Server :=
  ⟨server.gate.hidden, server.service, server.flights.map Flight.hidden⟩

variable {d : Deployment}

theorem runsTools_hidden (blind : d.Blind) (server : Server) (t : Nat) :
    server.hidden.runsTools d t = server.runsTools d t := by
  rw [runsTools, hidden, Gate.runsApp_hidden, Gate.scopeOf_hidden, runsTools]
  cases server.gate.scopeOf t with
  | none => rfl
  | some scope => rw [Option.map_some, Option.any_some, blind, Option.any_some]

theorem clientIn_hidden (server : Server) (t : Nat) :
    server.hidden.clientIn d t = (server.clientIn d t).map NinjaOneClient.hidden := by
  rw [clientIn, hidden, Gate.tasks_hidden, clientIn]
  cases server.gate.tasks[t]? with
  | none => rfl
  | some task =>
      rw [Option.map_some, Option.bind_some, Option.bind_some, Task.hidden]
      cases task.creds <;> rfl

theorem moveGate_hidden (server : Server) (event : GateEvent) :
    server.hidden.moveGate event.hidden =
      (server.moveGate event).map fun done => (done.1.hidden, done.2.hidden) := by
  rw [moveGate, hidden, Gate.step_hidden, moveGate, Option.map_map, Option.map_map]
  rfl

theorem operate_hidden (server : Server) (op : Op) :
    server.hidden.operate d op =
      (server.operate d op).map fun done => (done.1.hidden, done.2.hidden) := by
  rw [operate, operate, Option.map_map]
  rfl

/-- The server works the same without the tokens. -/
theorem step_hidden (blind : d.Blind) (server : Server) (event : ServerEvent) :
    server.hidden.step d event.hidden =
      (server.step d event).map fun done => (done.1.hidden, done.2.hidden) := by
  cases event with
  | connect scope initial body now =>
      simp only [ServerEvent.hidden, step, route_hidden]
      split
      · rfl
      · exact server.operate_hidden _
      · exact server.moveGate_hidden (.accept scope initial)
  | enter i => exact server.moveGate_hidden (.enter i)
  | spawn t => exact server.moveGate_hidden (.spawn t)
  | leave i => exact server.moveGate_hidden (.leave i)
  | call task tool =>
      simp only [ServerEvent.hidden, step, runsTools_hidden blind, clientIn_hidden]
      split
      · cases server.clientIn d task with
        | none => rfl
        | some client =>
            simp only [Option.map_some, hidden, List.map_append]
            rfl
      · rfl
  | attempt f out =>
      have flights : server.hidden.flights[f]? = (server.flights[f]?).map Flight.hidden :=
        List.getElem?_map
      simp only [ServerEvent.hidden, step, flights]
      cases server.flights[f]? with
      | none => rfl
      | some flight =>
          simp only [Option.map_some, Flight.step_hidden, Option.map_map]
          refine congrArg (fun f => Option.map f _) (funext fun next => ?_)
          simp only [Function.comp_apply, hidden, List.map_set]
          rfl
  | callbackCall task tool =>
      simp only [ServerEvent.hidden, step, runsTools_hidden blind]
      split
      · cases tool.op d.settings with
        | none => rfl
        | some op => exact server.operate_hidden op
      · rfl
  | waitEnd wait readings timed_out => exact server.operate_hidden _

/-- **Nothing depends on a token**: any run of the server is a run with any other
tokens in the place of its own, in which every reply is the same but for the bearer
in `Authorization`, the store holds the same, and every tool answers the same. -/
theorem tokens_unseen (blind : d.Blind) {trace : List (ServerEvent × ServerReply)}
    {server : Server} (run : Run (step d) .empty trace server) {events : List ServerEvent}
    (same : events.map ServerEvent.hidden = trace.map fun entry => entry.1.hidden) :
    ∃ trace' server', Run (step d) .empty trace' server' ∧ trace'.map Prod.fst = events ∧
      trace'.map (fun entry => entry.2.hidden) = trace.map (fun entry => entry.2.hidden) ∧
      server'.service = server.service ∧
      server'.flights.map Flight.result = server.flights.map Flight.result := by
  obtain ⟨trace', server', run', ops, replies, states⟩ := Run.hides (step_hidden blind) run same
  have service := congrArg Server.service states
  have results := congrArg (fun server => server.flights.map Flight.result) states
  simp only [hidden, List.map_map] at results
  exact ⟨trace', server', run', ops, replies, service, results⟩

/-- The same calls for a connection with another token. -/
theorem boards_unseen :
    ∃ trace' server', Run (step readerDeployment) .empty trace' server' ∧
      trace'.map Prod.fst = .connect
        ⟨"http", "POST", "/mcp", [("x-ninja-token", "u"), ("x-ninja-region", "eu")]⟩ none [] 0 ::
          (boardsTrace.map Prod.fst).tail ∧
      trace'.map (fun entry => entry.2.hidden) = boardsTrace.map (fun entry => entry.2.hidden) ∧
      server'.service = boardsServer.service ∧
      server'.flights.map Flight.result = boardsServer.flights.map Flight.result :=
  tokens_unseen (fun _ => rfl) boards_run rfl

/-! ### Where tokens are kept -/

theorem gate_run {trace : List (ServerEvent × ServerReply)} {server : Server}
    (run : Run (step d) .empty trace server) : server.gate.Sound := by
  refine Run.induction (P := fun _ server => server.gate.Sound) Gate.Sound.empty ?_ run
  intro _ server event reply server' _ sound taken
  cases step_change taken with
  | gate _ _ stepped => exact sound.step stepped
  | _ => exact sound

/-- What is shown to the app is what the context held, or the credentials in the
headers of a connection that the middleware guards. -/
theorem shown_cases (conn : Connection) : conn.shown = conn.initial ∨
    conn.scope.guarded = true ∧ conn.shown = conn.scope.creds := by
  unfold Connection.shown gatewayTokenMiddleware
  by_cases guarded : conn.scope.guarded = true
  · rw [if_pos guarded]
    cases headers : conn.scope.creds with
    | none => exact Or.inl rfl
    | some creds => exact Or.inr ⟨guarded, rfl⟩
  · rw [if_neg guarded]
    exact Or.inl rfl

/-- **No credentials are left behind**: as long as the app is not awaited for a
connection, and again afterwards, its task holds what it held when it was made; and
no task ever holds anything but this or the credentials of its own connection. -/
theorem creds_kept {trace : List (ServerEvent × ServerReply)} {server : Server}
    (run : Run (step d) .empty trace server) :
    (∀ (i : Nat) conn, server.gate.connections[i]? = some conn → conn.phase.awaits = false →
      server.gate.tasks[conn.task]? = some ⟨i, conn.initial⟩) ∧
    ∀ (t : Nat) task, server.gate.tasks[t]? = some task →
      ∃ conn, server.gate.connections[task.connection]? = some conn ∧
        (task.creds = conn.initial ∨
          conn.scope.guarded = true ∧ task.creds = conn.scope.creds) := by
  have sound := gate_run run
  constructor
  · intro i conn found idle
    have root := sound.root i conn found
    rw [Connection.held, idle, if_neg Bool.false_ne_true] at root
    exact root
  · intro t task found
    obtain ⟨conn, owned, shown⟩ := sound.own t task found
    refine ⟨conn, owned, ?_⟩
    by_cases root : conn.task = t
    · have own := sound.root _ conn owned
      rw [root, found, Option.some.injEq] at own
      rw [own]
      unfold Connection.held
      split
      · exact shown_cases conn
      · exact Or.inl rfl
    · rw [(shown root).1]
      exact shown_cases conn

theorem boards_kept :
    (∀ (i : Nat) conn, boardsServer.gate.connections[i]? = some conn → conn.phase.awaits = false →
      boardsServer.gate.tasks[conn.task]? = some ⟨i, conn.initial⟩) ∧
    ∀ (t : Nat) task, boardsServer.gate.tasks[t]? = some task →
      ∃ conn, boardsServer.gate.connections[task.connection]? = some conn ∧
        (task.creds = conn.initial ∨
          conn.scope.guarded = true ∧ task.creds = conn.scope.creds) :=
  creds_kept boards_run

end Server

end NinjaOne
