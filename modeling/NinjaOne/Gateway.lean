import NinjaOne.ApiRequest
import NinjaOne.Config
import NinjaOne.Lib.Pool

/-!
`server.py`: whose credentials a request of this server carries.

The gateway sends a token and perhaps a region or a base URL with each HTTP
request. `GatewayTokenMiddleware` keeps them in a context variable while the
request is answered, and every tool makes its client from that variable.

* `run_host`: whatever its arguments, a tool sends its requests to the host of
  its client's base URL.
* `Gate.Sound.shown_of_guarded`: the client of a task is made of the headers that
  the task's own connection came with, however the connections interleave.
-/

namespace NinjaOne

/-! ### Headers -/

/-- An ASGI connection scope. Header names come in lower case. -/
structure Scope where
  type : String
  /-- Of an HTTP request. -/
  method : String
  path : String
  headers : List (String × String)

/-- `request.headers.get(name)`, for a lower-case name: the first of them. -/
def Scope.header (scope : Scope) (name : String) : Option String := scope.headers.lookup name

/-- `_GatewayCreds`. -/
structure GatewayCreds where
  token : String
  region : String
  base_url : String
deriving DecidableEq

/-- The client of `get_client_from_context` for some credentials. -/
def GatewayCreds.client (py : PyText) (creds : GatewayCreds) : NinjaOneClient :=
  .init creds.token (resolveBaseUrl py creds.base_url creds.region)

/-- `get_client_from_context`, for a value of the context variable. -/
def getClientFromContext (py : PyText) (creds : Option GatewayCreds) : Option NinjaOneClient :=
  creds.map (GatewayCreds.client py)

/-- Whether the middleware looks at a connection at all. -/
def Scope.guarded (scope : Scope) : Bool :=
  scope.type == "http" && "/mcp".toList.isPrefixOf scope.path.toList

/-- The credentials in the headers, if there is a token. -/
def Scope.creds (scope : Scope) : Option GatewayCreds :=
  match scope.header "x-ninja-token" with
  | none => none
  | some token =>
      if token = "" then none
      else some ⟨token, (scope.header "x-ninja-region").getD "",
        (scope.header "x-ninja-base-url").getD ""⟩

/-- The content of the 401 response to a request without a token. -/
def missingCredentials : Json :=
  .obj [("error", .str "Missing credentials"),
    ("message", .str ("This server requires the X-Ninja-Token header (an " ++
      "already-exchanged OAuth2 bearer access token)")),
    ("required_headers", .arr [.str "X-Ninja-Token"]),
    ("optional_headers", .arr [.str "X-Ninja-Base-Url", .str "X-Ninja-Region"])]

/-- What `GatewayTokenMiddleware` does with a connection before it awaits the app:
it lets it through, answers 401, or sets the credentials. -/
inductive Admission where
  | through
  | unauthorized (content : Json)
  | set (creds : GatewayCreds)

def gatewayTokenMiddleware (scope : Scope) : Admission :=
  if scope.guarded then
    match scope.creds with
    | none => .unauthorized missingCredentials
    | some creds => .set creds
  else .through

/-! ### Hosts -/

/-- The scheme and the authority of a URL. -/
def urlHost (url : String) : Option (List Char) × Option (List Char) := UrlRef.host url.toList

theorem ApiTool.path_rooted (tool : ApiTool) :
    ∃ more, tool.path.toList = '/' :: 'a' :: more := by
  have api : ∃ rest, tool.names = "api" :: rest := by
    cases tool <;> exact ⟨_, rfl⟩
  obtain ⟨rest, names⟩ := api
  exact ⟨_, by rw [path_names, names]; rfl⟩

theorem request_host (tool : ApiTool) (client : NinjaOneClient) :
    urlHost (tool.request client).url = urlHost client.base_url := by
  obtain ⟨more, path⟩ := tool.path_rooted
  have first : 'a' ≠ '/' ∧ 'a' ≠ '?' ∧ 'a' ≠ '#' := by decide
  change UrlRef.host (client.base_url ++ tool.path).toList = _
  rw [String.toList_append, path]
  exact UrlRef.host_append client.stripped first more

/-- **A tool cannot be made to talk to another host**: whatever its arguments and
the upstream, its requests go to the host of its client's base URL. -/
theorem run_host (tool : ApiTool) (py : PyText) (client : NinjaOneClient) (upstream : Upstream) :
    ∀ req ∈ sends (tool.run py (some client) upstream).events,
      urlHost req.url = urlHost client.base_url := by
  intro req mem
  rw [ApiTool.run_sends] at mem
  rw [List.eq_of_mem_replicate mem]
  exact request_host tool client

/-! ### Connections and their tasks -/

/-- Where the middleware is with a connection. -/
inductive Phase where
  | waiting
  /-- The app is awaited, the variable is left alone. -/
  | through
  /-- The app is awaited with the variable set; `old` is what `reset` brings back. -/
  | inside (old : Option GatewayCreds)
  | refused
  | finished
deriving DecidableEq

structure Connection where
  scope : Scope
  /-- The task that runs the middleware. -/
  task : Nat
  /-- What the variable held in the context that task was made in. -/
  initial : Option GatewayCreds
  phase : Phase

/-- A task has a copy of the context it was made in; `creds` is the value of
`_gateway_creds_var` there. -/
structure Task where
  connection : Nat
  creds : Option GatewayCreds

structure Gate where
  connections : List Connection
  tasks : List Task

def Gate.empty : Gate := ⟨[], []⟩

inductive GateEvent where
  /-- The HTTP server makes a task for a connection, in some context. -/
  | accept (scope : Scope) (initial : Option GatewayCreds)
  /-- The middleware runs up to where it awaits the app. -/
  | enter (connection : Nat)
  /-- The app makes a task in one of its own. -/
  | spawn (task : Nat)
  /-- The app returns or raises. -/
  | leave (connection : Nat)

/-- Whether the app is awaited. -/
def Phase.awaits : Phase → Bool
  | .through => true
  | .inside _ => true
  | _ => false

/-- Whether a task runs code of the app: it is one that the app made, or the app
is awaited in it. -/
def Gate.runsApp (gate : Gate) (t : Nat) : Bool :=
  match gate.tasks[t]? with
  | none => false
  | some task =>
      match gate.connections[task.connection]? with
      | none => false
      | some conn => conn.task != t || conn.phase.awaits

/-- A connection and the task that runs the middleware for it. -/
def Gate.rootOf (gate : Gate) (i : Nat) : Option (Connection × Task) :=
  match gate.connections[i]? with
  | none => none
  | some conn => (gate.tasks[conn.task]?).map fun task => (conn, task)

/-- The connection gets to another phase, where its task holds `creds`. -/
def Gate.move (gate : Gate) (i : Nat) (conn : Connection) (task : Task) (phase : Phase)
    (creds : Option GatewayCreds) : Gate where
  connections := gate.connections.set i { conn with phase := phase }
  tasks := gate.tasks.set conn.task { task with creds := creds }

def Gate.step (gate : Gate) : GateEvent → Option Gate
  | .accept scope initial => some
      { connections := gate.connections ++ [⟨scope, gate.tasks.length, initial, .waiting⟩]
        tasks := gate.tasks ++ [⟨gate.connections.length, initial⟩] }
  | .enter i =>
      match gate.rootOf i with
      | none => none
      | some (conn, task) =>
          if conn.phase ≠ .waiting then none
          else
            match gatewayTokenMiddleware conn.scope with
            | .through => some (gate.move i conn task .through task.creds)
            | .unauthorized _ => some (gate.move i conn task .refused task.creds)
            | .set creds => some (gate.move i conn task (.inside task.creds) (some creds))
  | .spawn t =>
      match gate.tasks[t]? with
      | none => none
      | some task =>
          if gate.runsApp t then some { gate with tasks := gate.tasks ++ [task] } else none
  | .leave i =>
      match gate.rootOf i with
      | none => none
      | some (conn, task) =>
          match conn.phase with
          | .through => some (gate.move i conn task .finished task.creds)
          | .inside old => some (gate.move i conn task .finished old)
          | _ => none

/-! ### What a task finds in the variable -/

/-- What the app's code for a connection finds in the variable. -/
def Connection.shown (conn : Connection) : Option GatewayCreds :=
  match gatewayTokenMiddleware conn.scope with
  | .set creds => some creds
  | _ => conn.initial

/-- The phases a connection can be in. -/
def Connection.phases (conn : Connection) : List Phase :=
  match gatewayTokenMiddleware conn.scope with
  | .through => [.waiting, .through, .finished]
  | .unauthorized _ => [.waiting, .refused]
  | .set _ => [.waiting, .inside conn.initial, .finished]

/-- What the variable holds in the task that runs the middleware. -/
def Connection.held (conn : Connection) : Option GatewayCreds :=
  if conn.phase.awaits then conn.shown else conn.initial

/-- Whether the app has been called for a connection. -/
def Connection.served (conn : Connection) : Bool :=
  conn.phase.awaits || conn.phase == .finished

namespace Connection

variable {conn : Connection}

/-- A connection whose app is awaited can finish. -/
theorem finished_mem {phase : Phase} (listed : phase ∈ conn.phases)
    (awaits : phase.awaits = true) : .finished ∈ conn.phases := by
  unfold phases at listed ⊢
  split at listed
  · decide
  · rcases List.mem_pair.mp listed with rfl | rfl <;> cases awaits
  · simp

theorem shown_of_through (listed : .through ∈ conn.phases) : conn.shown = conn.initial := by
  unfold phases at listed
  unfold shown
  split at listed
  · rename_i decision
    rw [decision]
  · simp at listed
  · simp at listed

theorem old_of_inside {old : Option GatewayCreds} (listed : .inside old ∈ conn.phases) :
    old = conn.initial := by
  unfold phases at listed
  split at listed <;> simp at listed
  exact listed

end Connection

/-- The correlation between connections and tasks: every connection has its own
task, with the variable as the middleware has it, and the tasks of the app hold
what was shown to them. -/
structure Gate.Sound (gate : Gate) : Prop where
  phase : ∀ (i : Nat) conn, gate.connections[i]? = some conn → conn.phase ∈ conn.phases
  root : ∀ (i : Nat) conn, gate.connections[i]? = some conn →
    gate.tasks[conn.task]? = some ⟨i, conn.held⟩
  own : ∀ (t : Nat) task, gate.tasks[t]? = some task →
    ∃ conn, gate.connections[task.connection]? = some conn ∧
      (conn.task ≠ t → task.creds = conn.shown ∧ conn.served = true)

namespace Gate.Sound

theorem empty : Gate.empty.Sound where
  phase _ _ found := by cases found
  root _ _ found := by cases found
  own _ _ found := by cases found

variable {gate gate' : Gate}

theorem rootOf_eq (sound : gate.Sound) {i : Nat} {conn : Connection} {task : Task}
    (root : gate.rootOf i = some (conn, task)) :
    gate.connections[i]? = some conn ∧ task = ⟨i, conn.held⟩ := by
  unfold Gate.rootOf at root
  cases found : gate.connections[i]? with
  | none =>
      rw [found] at root
      cases root
  | some conn' =>
      simp only [found, sound.root i conn' found, Option.map_some, Option.some.injEq,
        Prod.mk.injEq] at root
      obtain ⟨rfl, rfl⟩ := root
      exact ⟨rfl, rfl⟩

/-- A connection may get to a phase it can be in, but not back out of the app's
hands, as long as its task holds what it has to. -/
theorem move (sound : gate.Sound) {i : Nat} {conn : Connection} {phase : Phase}
    {creds : Option GatewayCreds} (found : gate.connections[i]? = some conn)
    (listed : phase ∈ conn.phases)
    (kept : conn.served = true → Connection.served { conn with phase := phase } = true)
    (holds : creds = Connection.held { conn with phase := phase }) :
    (gate.move i conn ⟨i, conn.held⟩ phase creds).Sound := by
  subst holds
  have lt : i < gate.connections.length := (List.getElem?_eq_some_iff.mp found).1
  have task := sound.root i conn found
  have task_lt : conn.task < gate.tasks.length := (List.getElem?_eq_some_iff.mp task).1
  refine ⟨fun j other here => ?_, fun j other here => ?_, fun t held here => ?_⟩
  · rw [Gate.move, List.getElem?_set] at here
    split at here
    · rw [Option.some.injEq] at here
      rw [← here]
      exact listed
    · exact sound.phase j other here
  · simp only [Gate.move, List.getElem?_set] at here ⊢
    split at here
    · rename_i same
      rw [Option.some.injEq] at here
      rw [← here, ← same, if_pos rfl, if_pos task_lt]
    · rename_i apart
      have old := sound.root j other here
      have different : conn.task ≠ other.task := by
        intro same
        rw [← same, task, Option.some.injEq] at old
        exact apart (congrArg Task.connection old)
      rw [if_neg different]
      exact old
  · simp only [Gate.move, List.getElem?_set] at here ⊢
    split at here
    · rename_i same
      rw [Option.some.injEq] at here
      subst here
      rw [if_pos rfl, if_pos lt]
      exact ⟨_, rfl, fun apart => absurd same apart⟩
    · rename_i apart
      obtain ⟨owner, owned, shown⟩ := sound.own t held here
      by_cases mine : i = held.connection
      · rw [if_pos mine, if_pos lt]
        rw [← mine, found, Option.some.injEq] at owned
        subst owned
        exact ⟨_, rfl, fun apart => ⟨(shown apart).1, kept (shown apart).2⟩⟩
      · rw [if_neg mine]
        exact ⟨owner, owned, shown⟩

theorem accept (sound : gate.Sound) (scope : Scope) (initial : Option GatewayCreds) :
    Gate.Sound
      { connections := gate.connections ++ [⟨scope, gate.tasks.length, initial, .waiting⟩]
        tasks := gate.tasks ++ [⟨gate.connections.length, initial⟩] } := by
  have waits : ∀ conn : Connection, .waiting ∈ conn.phases := by
    intro conn
    unfold Connection.phases
    split <;> exact List.mem_cons_self
  refine ⟨fun j conn here => ?_, fun j conn here => ?_, fun t task here => ?_⟩
  · rcases getElem?_snoc here with old | ⟨rfl, rfl⟩
    · exact sound.phase j conn old
    · exact waits _
  · rcases getElem?_snoc here with old | ⟨rfl, rfl⟩
    · have task := sound.root j conn old
      rw [List.getElem?_append_left (List.getElem?_eq_some_iff.mp task).1]
      exact task
    · exact List.getElem?_concat_length
  · rcases getElem?_snoc here with old | ⟨rfl, rfl⟩
    · obtain ⟨conn, found, shown⟩ := sound.own t task old
      refine ⟨conn, ?_, shown⟩
      rw [List.getElem?_append_left (List.getElem?_eq_some_iff.mp found).1]
      exact found
    · exact ⟨_, List.getElem?_concat_length, fun apart => absurd rfl apart⟩

/-- A task that runs code of the app finds what is shown to it, and the app has
been called for its connection. -/
theorem runsApp (sound : gate.Sound) {t : Nat} {task : Task} (found : gate.tasks[t]? = some task)
    (runs : gate.runsApp t = true) :
    ∃ conn, gate.connections[task.connection]? = some conn ∧ task.creds = conn.shown ∧
      conn.served = true := by
  obtain ⟨conn, owned, shown⟩ := sound.own t task found
  refine ⟨conn, owned, ?_⟩
  simp only [Gate.runsApp, found, owned, Bool.or_eq_true, bne_iff_ne, ne_eq] at runs
  by_cases root : conn.task = t
  · have awaits := runs.resolve_left (not_not.mpr root)
    have held := sound.root _ conn owned
    rw [root, found, Option.some.injEq] at held
    rw [held]
    refine ⟨if_pos awaits, ?_⟩
    rw [Connection.served, awaits, Bool.true_or]
  · exact shown root

theorem spawn (sound : gate.Sound) {t : Nat} {task : Task} (found : gate.tasks[t]? = some task)
    (runs : gate.runsApp t = true) :
    Gate.Sound { gate with tasks := gate.tasks ++ [task] } := by
  refine ⟨sound.phase, fun i conn here => ?_, fun t' held here => ?_⟩
  · have root := sound.root i conn here
    rw [List.getElem?_append_left (List.getElem?_eq_some_iff.mp root).1]
    exact root
  · rcases getElem?_snoc here with old | ⟨rfl, rfl⟩
    · exact sound.own t' held old
    · obtain ⟨conn, owned, shown⟩ := sound.runsApp found runs
      exact ⟨conn, owned, fun _ => shown⟩

/-- Every step keeps the correlation. -/
theorem step (sound : gate.Sound) {event : GateEvent} (taken : gate.step event = some gate') :
    gate'.Sound := by
  cases event with
  | accept scope initial =>
      cases taken
      exact sound.accept scope initial
  | enter i =>
      simp only [Gate.step] at taken
      split at taken
      · cases taken
      · rename_i conn task root
        obtain ⟨found, rfl⟩ := sound.rootOf_eq root
        split at taken
        · cases taken
        · rename_i waiting
          rw [not_not] at waiting
          have held : conn.held = conn.initial := by rw [Connection.held, waiting]; rfl
          have unserved : conn.served ≠ true := by rw [Connection.served, waiting]; decide
          split at taken
          · rename_i decision
            cases taken
            refine sound.move found ?_ (fun served => absurd served unserved) ?_
            · simp [Connection.phases, decision]
            · rw [held]
              simp only [Connection.held, Phase.awaits, Connection.shown, decision, if_true]
          · rename_i decision
            cases taken
            refine sound.move found ?_ (fun served => absurd served unserved) held
            simp [Connection.phases, decision]
          · rename_i creds decision
            cases taken
            refine sound.move found ?_ (fun served => absurd served unserved) ?_
            · simp [Connection.phases, decision, held]
            · simp only [Connection.held, Phase.awaits, Connection.shown, decision, if_true]
  | spawn t =>
      simp only [Gate.step] at taken
      split at taken
      · cases taken
      · rename_i task found
        split at taken
        · rename_i runs
          cases taken
          exact sound.spawn found runs
        · cases taken
  | leave i =>
      simp only [Gate.step] at taken
      split at taken
      · cases taken
      · rename_i conn task root
        obtain ⟨found, rfl⟩ := sound.rootOf_eq root
        have listed := sound.phase i conn found
        split at taken
        · rename_i phase
          rw [phase] at listed
          cases taken
          refine sound.move found (Connection.finished_mem listed rfl) (fun _ => ?_) ?_
          · rfl
          · rw [Connection.held, phase]
            exact Connection.shown_of_through listed
        · rename_i old phase
          rw [phase] at listed
          cases taken
          refine sound.move found (Connection.finished_mem listed rfl) (fun _ => ?_) ?_
          · rfl
          · exact Connection.old_of_inside listed
        · cases taken

/-- Where the middleware guards the app, what is shown are the credentials in the
headers, and they are there. -/
theorem shown_of_guarded (sound : gate.Sound) {i : Nat} {conn : Connection}
    (found : gate.connections[i]? = some conn) (served : conn.served = true)
    (guarded : conn.scope.guarded = true) :
    ∃ creds, conn.scope.creds = some creds ∧ conn.shown = some creds := by
  have listed := sound.phase i conn found
  unfold Connection.phases at listed
  unfold Connection.shown
  cases headers : conn.scope.creds with
  | some creds =>
      refine ⟨creds, rfl, ?_⟩
      rw [gatewayTokenMiddleware, if_pos guarded, headers]
  | none =>
      have decision : gatewayTokenMiddleware conn.scope = .unauthorized missingCredentials := by
        rw [gatewayTokenMiddleware, if_pos guarded, headers]
      rw [decision] at listed
      unfold Connection.served at served
      rcases List.mem_pair.mp listed with phase | phase
      · rw [phase] at served
        cases served
      · rw [phase] at served
        cases served

end Gate.Sound

/-! ### The connection of a task -/

/-- The headers and the path of the connection a task works for. -/
def Gate.scopeOf (gate : Gate) (t : Nat) : Option Scope :=
  ((gate.tasks.map Task.connection)[t]?).bind fun i =>
    (gate.connections.map Connection.scope)[i]?

section Scopes

variable {gate gate' : Gate} {t : Nat}

theorem scopeOf_of_found {task : Task} {conn : Connection} (found : gate.tasks[t]? = some task)
    (owned : gate.connections[task.connection]? = some conn) :
    gate.scopeOf t = some conn.scope := by
  simp only [Gate.scopeOf, List.getElem?_map, found, Option.map_some, Option.bind_some, owned]

theorem scopeOf_append {scope : Scope} (connections : List Connection) (tasks : List Task)
    (works : gate.scopeOf t = some scope) :
    Gate.scopeOf ⟨gate.connections ++ connections, gate.tasks ++ tasks⟩ t = some scope := by
  obtain ⟨i, found, owned⟩ := Option.bind_eq_some_iff.mp works
  exact Option.bind_eq_some_iff.mpr ⟨i, getElem?_map_append found, getElem?_map_append owned⟩

theorem scopeOf_move {i : Nat} {conn : Connection} {task : Task}
    (root : gate.rootOf i = some (conn, task)) (phase : Phase) (creds : Option GatewayCreds) :
    (gate.move i conn task phase creds).scopeOf t = gate.scopeOf t := by
  unfold Gate.rootOf at root
  cases held : gate.connections[i]? with
  | none =>
      rw [held] at root
      cases root
  | some conn' =>
      simp only [held, Option.map_eq_some_iff, Prod.mk.injEq] at root
      obtain ⟨task', found, rfl, rfl⟩ := root
      have scopes : (gate.connections.set i { conn' with phase := phase }).map Connection.scope =
          gate.connections.map Connection.scope := map_set_eq held rfl
      have owners : (gate.tasks.set conn'.task { task' with creds := creds }).map Task.connection =
          gate.tasks.map Task.connection := map_set_eq found rfl
      rw [Gate.scopeOf, Gate.move, scopes, owners]
      rfl

/-- A task keeps working for the connection it was made for. -/
theorem scopeOf_step {event : GateEvent} (taken : gate.step event = some gate') {scope : Scope}
    (works : gate.scopeOf t = some scope) : gate'.scopeOf t = some scope := by
  cases event with
  | accept scope' initial =>
      cases taken
      exact scopeOf_append _ _ works
  | enter i =>
      simp only [Gate.step] at taken
      split at taken
      · cases taken
      · rename_i conn task root
        split at taken
        · cases taken
        · split at taken <;> cases taken <;> rw [scopeOf_move root] <;> exact works
  | spawn t' =>
      simp only [Gate.step] at taken
      split at taken
      · cases taken
      · rename_i task found
        split at taken
        · cases taken
          have more := scopeOf_append [] [task] works
          rw [List.append_nil] at more
          exact more
        · cases taken
  | leave i =>
      simp only [Gate.step] at taken
      split at taken
      · cases taken
      · rename_i conn task root
        split at taken
        · cases taken
          rw [scopeOf_move root]
          exact works
        · cases taken
          rw [scopeOf_move root]
          exact works
        · cases taken

end Scopes

end NinjaOne
