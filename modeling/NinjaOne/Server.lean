import NinjaOne.Callbacks.Route
import NinjaOne.Flight
import NinjaOne.Gateway
import NinjaOne.Tools.Callbacks

/-!
The whole server: `_build_http_app` and `create_mcp_server`.

Connections arrive, the outer router takes some of them to the callback store
and the others to the gateway middleware, tasks of the MCP app call tools, and
calls make their attempts. All of this interleaves in any order; one step is what
happens between two points where a task may be suspended.
-/

namespace NinjaOne

/-! ### Routes -/

/-- `request.method`. -/
def Method.ofName (name : String) : Method :=
  if name = "GET" then .get
  else if name = "HEAD" then .head
  else if name = "POST" then .post
  else .other name

/-- What `/cb/{token}` matches: one segment, and not an empty one. -/
def callbackToken (path : String) : Option String :=
  if "/cb/".toList.isPrefixOf path.toList then
    let token := path.toList.drop 4
    if token = [] ∨ '/' ∈ token then none else some (String.ofList token)
  else none

/-- The request that `callback` gets for a connection, if the route takes it. A
HEAD has no body. -/
def callbackRequest (scope : Scope) (body : List UInt8) : Option CallbackRequest :=
  match callbackToken scope.path with
  | none => none
  | some token =>
      if taken : scope.type = "http" ∧ Method.ofName scope.method ∈ routeMethods [.get, .post] then
        some
          { method := Method.ofName scope.method
            token := token
            body := if Method.ofName scope.method = .head then [] else body
            content_type := scope.header "content-type"
            accepted := taken.2
            bodiless := fun head => if_pos head }
      else none

/-- Where the outer router takes a connection. -/
inductive Target where
  | health
  | callback (request : CallbackRequest)
  | mounted

/-- The routes of `_build_http_app`: the first that takes the connection, and the
mounted app takes every one. -/
def route (settings : Settings) (scope : Scope) (body : List UInt8) : Target :=
  if scope.type = "http" ∧ scope.path = "/health" ∧
      Method.ofName scope.method ∈ routeMethods [.get] then .health
  else if settings.enable_script_execution then
    match callbackRequest scope body with
    | some request => .callback request
    | none => .mounted
  else .mounted

/-- The operation that `callback` makes. -/
def CallbackRequest.op (request : CallbackRequest) (now : Time) : Op :=
  if request.method = .get then .getBody now request.token
  else .receive now request.token request.body request.content_type

/-- The response that `callback` makes of its operation. -/
def Reply.response : Reply → Option CallbackResponse
  | .body (some text) => some (plainText text)
  | .receive (.returned true) => some okResponse
  | .receive .recursionError => none
  | _ => some notFound

/-- `callback` is its one operation and the response to it. -/
theorem callback_eq (loads : String → Loads) (service : Service) (now : Time)
    (request : CallbackRequest) :
    ∃ reply, step loads service (request.op now) =
        some ({ service with store := (callback loads service.store now request).1 }, reply) ∧
      (callback loads service.store now request).2 = reply.response := by
  unfold callback CallbackRequest.op
  split
  · cases found : service.store.getBody now request.token with
    | none => exact ⟨_, by rw [step, found], rfl⟩
    | some text => exact ⟨_, by rw [step, found], rfl⟩
  · refine ⟨_, rfl, ?_⟩
    generalize service.store.receive loads now request.token request.body request.content_type =
      done
    obtain ⟨store, reply⟩ := done
    cases reply with
    | returned ok => cases ok <;> rfl
    | recursionError => rfl

/-! ### Tools -/

/-- Whether `create_mcp_server` registers a tool. -/
def ApiTool.registered (settings : Settings) : ApiTool → Bool
  | runScriptOnDevice .. => settings.enable_script_execution
  | _ => true

/-- `NOT_CONFIGURED`. -/
def NOT_CONFIGURED : Answer :=
  errorEnvelope "not_configured"
    (.str ("Callback URLs are not available in this deployment " ++
      "(CALLBACK_PUBLIC_BASE_URL is not set)."))
    false

/-- A call of a tool of `tools/callbacks.py`, with the readings it makes and the
strings it draws up to where it may be suspended. -/
inductive CallbackTool where
  | createPair (purged created : Time) (drawn : Drawn) (body : String) (ttl_seconds : Int)
  | wait (purged now : Time) (pair_ids : List String) (wait_seconds : Int)
  | expire (now : Time) (pair_ids : List String)

/-- The operation it makes; without a public base URL no pair is created. -/
def CallbackTool.op (settings : Settings) : CallbackTool → Option Op
  | createPair purged created drawn body ttl_seconds =>
      if settings.callback_public_base_url = "" then none
      else some (.create purged created drawn body ttl_seconds)
  | wait purged now pair_ids wait_seconds => some (waitCall purged now pair_ids wait_seconds)
  | expire now pair_ids => some (.expire now pair_ids)

/-! ### The machine -/

/-- What a deployment depends on. -/
structure Deployment where
  settings : Settings
  py : PyText
  loads : String → Loads
  /-- The connections for which the MCP app runs tools. -/
  endpoint : Scope → Bool

/-- The MCP app runs tools only below the path that the middleware guards. -/
def Deployment.Guarded (d : Deployment) : Prop :=
  ∀ scope, d.endpoint scope = true → scope.guarded = true

structure Server where
  gate : Gate
  service : Service
  flights : List Flight

def Server.empty : Server := ⟨.empty, .empty, []⟩

inductive ServerEvent where
  /-- A connection arrives; if it is for `callback`, its body has been read. -/
  | connect (scope : Scope) (initial : Option GatewayCreds) (body : List UInt8) (now : Time)
  | enter (connection : Nat)
  | spawn (task : Nat)
  | leave (connection : Nat)
  /-- A task calls a tool that calls the API. -/
  | call (task : Nat) (tool : ApiTool)
  /-- A call makes an attempt, with this outcome. -/
  | attempt (flight : Nat) (out : Outcome)
  /-- A task calls a tool of `tools/callbacks.py`. -/
  | callbackCall (task : Nat) (tool : CallbackTool)
  | waitEnd (wait : Nat) (readings : List Time) (timed_out : Bool)

inductive ServerReply where
  | done
  /-- The store has made an operation. -/
  | stored (reply : Reply)
  /-- A tool has answered at once. -/
  | answered (answer : Answer)
  /-- A call has made an attempt. -/
  | caused (events : List Event)

namespace Server

variable (d : Deployment)

/-- Whether a task may call tools. -/
def runsTools (server : Server) (t : Nat) : Bool :=
  server.gate.runsApp t && (server.gate.scopeOf t).any d.endpoint

/-- `client_factory()` in a task. -/
def clientIn (server : Server) (t : Nat) : Option NinjaOneClient :=
  getClientFromContext d.py ((server.gate.tasks[t]?).bind Task.creds)

def moveGate (server : Server) (event : GateEvent) : Option (Server × ServerReply) :=
  (server.gate.step event).map fun gate => ({ server with gate := gate }, .done)

def operate (server : Server) (op : Op) : Option (Server × ServerReply) :=
  (NinjaOne.step d.loads server.service op).map fun done =>
    ({ server with service := done.1 }, .stored done.2)

def step (server : Server) : ServerEvent → Option (Server × ServerReply)
  | .connect scope initial body now =>
      match route d.settings scope body with
      | .health => some (server, .done)
      | .callback request => server.operate d (request.op now)
      | .mounted => server.moveGate (.accept scope initial)
  | .enter connection => server.moveGate (.enter connection)
  | .spawn task => server.moveGate (.spawn task)
  | .leave connection => server.moveGate (.leave connection)
  | .call task tool =>
      if server.runsTools d task && tool.registered d.settings then
        match server.clientIn d task with
        | none => some (server, .answered NO_TOKEN)
        | some client =>
            some ({ server with flights := server.flights ++ [.start task tool client] }, .done)
      else none
  | .attempt f out =>
      match server.flights[f]? with
      | none => none
      | some flight => (flight.step d.py out).map fun next =>
          ({ server with flights := server.flights.set f next.1 }, .caused next.2)
  | .callbackCall task tool =>
      if server.runsTools d task && d.settings.enable_script_execution then
        match tool.op d.settings with
        | none => some (server, .answered NOT_CONFIGURED)
        | some op => server.operate d op
      else none
  | .waitEnd wait readings timed_out => server.operate d (.waitEnd wait readings timed_out)

/-! ### What a step does to each part -/

/-- The operation that an event is on the store. -/
def ownOp (settings : Settings) : ServerEvent × ServerReply → Option (Op × Reply)
  | (.connect scope _ body now, .stored reply) =>
      match route settings scope body with
      | .callback request => some (request.op now, reply)
      | _ => none
  | (.callbackCall _ tool, .stored reply) => (tool.op settings).map fun op => (op, reply)
  | (.waitEnd wait readings timed_out, .stored reply) =>
      some (.waitEnd wait readings timed_out, reply)
  | _ => none

/-- The call that an event is an attempt of. -/
def ownAttempt : ServerEvent × ServerReply → Option (Nat × Outcome × List Event)
  | (.attempt f out, .caused events) => some (f, out, events)
  | _ => none

/-- How a call starts: in a task that may call tools, with the client its context
gives, and the tool is registered. -/
structure Starts (server : Server) (flight : Flight) : Prop where
  runs : server.runsTools d flight.task = true
  registered : flight.tool.registered d.settings = true
  client : server.clientIn d flight.task = some flight.client
  fresh : flight = .start flight.task flight.tool flight.client

variable {d} {server server' : Server} {event : ServerEvent} {reply : ServerReply}

theorem moveGate_cases {moved : GateEvent}
    (taken : server.moveGate moved = some (server', reply)) :
    ∃ gate, server.gate.step moved = some gate ∧ server' = { server with gate := gate } ∧
      reply = .done := by
  obtain ⟨gate, stepped, same⟩ := Option.map_eq_some_iff.mp taken
  obtain ⟨rfl, rfl⟩ := Prod.mk.inj same
  exact ⟨gate, stepped, rfl, rfl⟩

theorem operate_cases {op : Op} (taken : server.operate d op = some (server', reply)) :
    ∃ service stored, NinjaOne.step d.loads server.service op = some (service, stored) ∧
      server' = { server with service := service } ∧ reply = .stored stored := by
  obtain ⟨⟨service, stored⟩, stepped, same⟩ := Option.map_eq_some_iff.mp taken
  obtain ⟨rfl, rfl⟩ := Prod.mk.inj same
  exact ⟨service, stored, stepped, rfl, rfl⟩

theorem call_cases {task : Nat} {tool : ApiTool}
    (taken : server.step d (.call task tool) = some (server', reply)) :
    server.runsTools d task = true ∧ tool.registered d.settings = true ∧
      ((server.clientIn d task = none ∧ server' = server ∧ reply = .answered NO_TOKEN) ∨
      ∃ client, server.clientIn d task = some client ∧
        server' = { server with flights := server.flights ++ [.start task tool client] } ∧
        reply = .done) := by
  simp only [step] at taken
  split at taken
  · rename_i allowed
    rw [Bool.and_eq_true] at allowed
    refine ⟨allowed.1, allowed.2, ?_⟩
    split at taken
    · rename_i without
      obtain ⟨rfl, rfl⟩ := Prod.mk.inj (Option.some.inj taken)
      exact Or.inl ⟨without, rfl, rfl⟩
    · rename_i client given
      obtain ⟨rfl, rfl⟩ := Prod.mk.inj (Option.some.inj taken)
      exact Or.inr ⟨client, given, rfl, rfl⟩
  · cases taken

theorem attempt_cases {f : Nat} {out : Outcome}
    (taken : server.step d (.attempt f out) = some (server', reply)) :
    ∃ flight next events, server.flights[f]? = some flight ∧
      flight.step d.py out = some (next, events) ∧
      server' = { server with flights := server.flights.set f next } ∧ reply = .caused events := by
  simp only [step] at taken
  split at taken
  · cases taken
  · rename_i flight found
    obtain ⟨⟨next, events⟩, stepped, same⟩ := Option.map_eq_some_iff.mp taken
    obtain ⟨rfl, rfl⟩ := Prod.mk.inj same
    exact ⟨flight, next, events, found, stepped, rfl, rfl⟩

theorem callbackCall_cases {task : Nat} {tool : CallbackTool}
    (taken : server.step d (.callbackCall task tool) = some (server', reply)) :
    server.runsTools d task = true ∧ d.settings.enable_script_execution = true ∧
      ((tool.op d.settings = none ∧ server' = server ∧ reply = .answered NOT_CONFIGURED) ∨
      ∃ op, tool.op d.settings = some op ∧ server.operate d op = some (server', reply)) := by
  simp only [step] at taken
  split at taken
  · rename_i allowed
    rw [Bool.and_eq_true] at allowed
    refine ⟨allowed.1, allowed.2, ?_⟩
    split at taken
    · rename_i without
      obtain ⟨rfl, rfl⟩ := Prod.mk.inj (Option.some.inj taken)
      exact Or.inl ⟨without, rfl, rfl⟩
    · rename_i op given
      exact Or.inr ⟨op, given, taken⟩
  · cases taken

theorem connect_cases {scope : Scope} {initial : Option GatewayCreds} {body : List UInt8}
    {now : Time} (taken : server.step d (.connect scope initial body now) = some (server', reply)) :
    (route d.settings scope body = .health ∧ server' = server ∧ reply = .done) ∨
      (∃ request, route d.settings scope body = .callback request ∧
        server.operate d (request.op now) = some (server', reply)) ∨
      (route d.settings scope body = .mounted ∧
        server.moveGate (.accept scope initial) = some (server', reply)) := by
  simp only [step] at taken
  split at taken
  · rename_i routed
    obtain ⟨rfl, rfl⟩ := Prod.mk.inj (Option.some.inj taken)
    exact Or.inl ⟨routed, rfl, rfl⟩
  · rename_i request routed
    exact Or.inr (Or.inl ⟨request, routed, taken⟩)
  · rename_i routed
    exact Or.inr (Or.inr ⟨routed, taken⟩)

/-- What a step may do to the parts of the server. -/
inductive Change (d : Deployment) (server : Server) :
    ServerEvent × ServerReply → Server → Prop where
  | idle {entry : ServerEvent × ServerReply} (no_op : ownOp d.settings entry = none)
      (no_attempt : ownAttempt entry = none) : Change d server entry server
  | gate {entry : ServerEvent × ServerReply} (no_op : ownOp d.settings entry = none)
      (no_attempt : ownAttempt entry = none) {moved : GateEvent} {gate : Gate}
      (stepped : server.gate.step moved = some gate) :
      Change d server entry { server with gate := gate }
  | store {entry : ServerEvent × ServerReply} {op : Op} {stored : Reply}
      (own : ownOp d.settings entry = some (op, stored)) (no_attempt : ownAttempt entry = none)
      {service : Service}
      (stepped : NinjaOne.step d.loads server.service op = some (service, stored)) :
      Change d server entry { server with service := service }
  | start {entry : ServerEvent × ServerReply} (no_op : ownOp d.settings entry = none)
      (no_attempt : ownAttempt entry = none) {flight : Flight} (starts : server.Starts d flight) :
      Change d server entry { server with flights := server.flights ++ [flight] }
  | attempt {f : Nat} {out : Outcome} {flight next : Flight} {events : List Event}
      (found : server.flights[f]? = some flight)
      (stepped : flight.step d.py out = some (next, events)) :
      Change d server (.attempt f out, .caused events)
        { server with flights := server.flights.set f next }

theorem Change.of_moveGate {moved : GateEvent}
    (taken : server.moveGate moved = some (server', reply))
    (no_op : ownOp d.settings (event, .done) = none)
    (no_attempt : ownAttempt (event, .done) = none) : Change d server (event, reply) server' := by
  obtain ⟨gate, stepped, rfl, rfl⟩ := moveGate_cases taken
  exact .gate no_op no_attempt stepped

theorem Change.of_operate {op : Op} (taken : server.operate d op = some (server', reply))
    (own : ∀ stored, ownOp d.settings (event, .stored stored) = some (op, stored))
    (no_attempt : ∀ stored, ownAttempt (event, .stored stored) = none) :
    Change d server (event, reply) server' := by
  obtain ⟨service, stored, stepped, rfl, rfl⟩ := operate_cases taken
  exact .store (own stored) (no_attempt stored) stepped

theorem step_change (taken : server.step d event = some (server', reply)) :
    Change d server (event, reply) server' := by
  cases event with
  | connect scope initial body now =>
      rcases connect_cases taken with ⟨_, rfl, rfl⟩ | ⟨request, routed, taken⟩ | ⟨_, taken⟩
      · exact .idle rfl rfl
      · exact .of_operate taken (fun _ => by rw [ownOp, routed]) fun _ => rfl
      · exact .of_moveGate taken rfl rfl
  | enter i => exact .of_moveGate taken rfl rfl
  | spawn t => exact .of_moveGate taken rfl rfl
  | leave i => exact .of_moveGate taken rfl rfl
  | call task tool =>
      obtain ⟨runs, registered, ⟨_, rfl, rfl⟩ | ⟨client, given, rfl, rfl⟩⟩ := call_cases taken
      · exact .idle rfl rfl
      · exact .start rfl rfl ⟨runs, registered, given, rfl⟩
  | attempt f out =>
      obtain ⟨flight, next, events, found, stepped, rfl, rfl⟩ := attempt_cases taken
      exact .attempt found stepped
  | callbackCall task tool =>
      obtain ⟨_, _, ⟨_, rfl, rfl⟩ | ⟨op, given, taken⟩⟩ := callbackCall_cases taken
      · exact .idle rfl rfl
      · exact .of_operate taken (fun _ => by rw [ownOp, given]; rfl) fun _ => rfl
  | waitEnd wait readings timed_out => exact .of_operate taken (fun _ => rfl) fun _ => rfl

/-! ### The parts of a run -/

/-- A call that has made no attempt. -/
def AtStart (flight : Flight) : Prop := flight = .start flight.task flight.tool flight.client

theorem pool_step (taken : server.step d event = some (server', reply)) :
    PoolStep (Flight.step d.py) AtStart server.flights (ownAttempt (event, reply))
      server'.flights := by
  cases step_change taken with
  | idle _ no_attempt => rw [no_attempt]; exact .idle
  | gate _ no_attempt => rw [no_attempt]; exact .idle
  | store _ no_attempt => rw [no_attempt]; exact .idle
  | start _ no_attempt starts => rw [no_attempt]; exact .start starts.fresh
  | attempt here stepped => exact .act here stepped

/-- What a run of the server has done of a call is a run of the call's own. -/
theorem flight_run {trace : List (ServerEvent × ServerReply)}
    (run : Run (step d) .empty trace server) {f : Nat} {flight : Flight}
    (found : server.flights[f]? = some flight) :
    ∃ first, AtStart first ∧
      Run (Flight.step d.py) first (trace.filterMap (ownAt ownAttempt f)) flight :=
  Run.project_pool Server.flights ownAttempt AtStart (fun _ _ _ _ taken => pool_step taken) rfl run
    found

/-- A call that has made attempts is there. -/
theorem flight_of_attempt {trace : List (ServerEvent × ServerReply)}
    (run : Run (step d) .empty trace server) {f : Nat} {out : Outcome} {events : List Event}
    (made : (ServerEvent.attempt f out, ServerReply.caused events) ∈ trace) :
    ∃ flight, server.flights[f]? = some flight := by
  cases found : server.flights[f]? with
  | some flight => exact ⟨flight, rfl⟩
  | none =>
      have silent := Run.project_pool_none Server.flights ownAttempt AtStart
        (fun _ _ _ _ taken => pool_step taken) rfl run found
      have own : (out, events) ∈ trace.filterMap (ownAt ownAttempt f) :=
        List.mem_filterMap.mpr ⟨_, made, if_pos rfl⟩
      rw [silent] at own
      cases own

/-- Every attempt of a call sends the call's request. -/
theorem sent_by_flight {trace : List (ServerEvent × ServerReply)}
    (run : Run (step d) .empty trace server) {f : Nat} {flight : Flight}
    (found : server.flights[f]? = some flight) {out : Outcome} {events : List Event}
    (made : (ServerEvent.attempt f out, ServerReply.caused events) ∈ trace) :
    ∀ req ∈ sends events, req = flight.request := by
  obtain ⟨_, _, own⟩ := flight_run run found
  exact Flight.sends_run own (out, events) (List.mem_filterMap.mpr ⟨_, made, if_pos rfl⟩)

/-- The store sees a run of its own. -/
theorem service_run {trace : List (ServerEvent × ServerReply)}
    (run : Run (step d) .empty trace server) :
    Run (NinjaOne.step d.loads) .empty (trace.filterMap (ownOp d.settings)) server.service := by
  refine Run.project Server.service (ownOp d.settings) (fun s op reply s₂ taken idle => ?_)
    (fun s op reply s₂ op' reply' taken active => ?_) run
  · cases step_change taken with
    | store own =>
        rw [own] at idle
        cases idle
    | _ => rfl
  · cases step_change taken with
    | store own _ stepped =>
        rw [own] at active
        cases active
        exact stepped
    | attempt => cases active
    | idle no_op => rw [no_op] at active; cases active
    | gate no_op => rw [no_op] at active; cases active
    | start no_op => rw [no_op] at active; cases active

end Server

end NinjaOne
