import NinjaOne.ApiTool
import NinjaOne.Endpoint

/-!
The request a tool makes, as data.

`run_eq` finds that every tool makes one call; here is which one: method, path,
query and body of each tool, and what it makes of the result (`run_request`). What a
request tells of the call behind it is `readCall`, a reader of requests.

* `requests_reach`: with an ordinary argument each tool reaches its own endpoint.
* `readOnly_iff`: the tools announced as read-only are those that only ever ask.
* `readCall_request`: the request carries the whole call but what the tool keeps
  to itself, the filters it applies to the answer, and what it replaces by
  defaults.
-/

namespace NinjaOne

/-- The URL leads, below the base URL, down these names and nowhere else. -/
def Reaches (base_url url : String) (names : List String) : Prop :=
  ((UrlRef.parse url.toList).query = none ∧ (UrlRef.parse url.toList).fragment = none) ∧
    (UrlRef.parse url.toList).resolved =
      (UrlRef.parse base_url.toList).resolved ++ names.map String.toList

namespace ApiTool

/-! ### The request -/

def method : ApiTool → String
  | resetAlert .. => "POST"
  | runScriptOnDevice .. => "POST"
  | rebootDevice .. => "POST"
  | createOrganization .. => "POST"
  | getTickets .. => "POST"
  | createTicket .. => "POST"
  | updateTicket .. => "PUT"
  | _ => "GET"

def path : ApiTool → String
  | getAlerts .. => "/api/v2/alerts"
  | resetAlert alert_uid _ => "/api/v2/alert/" ++ alert_uid ++ "/reset"
  | getAutomationScripts .. => "/api/v2/automation/scripts"
  | getDeviceScriptingOptions device_id _ =>
      "/api/v2/device/" ++ toString device_id ++ "/scripting/options"
  | runScriptOnDevice device_id .. => "/api/v2/device/" ++ toString device_id ++ "/script/run"
  | getActiveJobs .. => "/api/v2/jobs"
  | getDeviceActiveJobs device_id => "/api/v2/device/" ++ toString device_id ++ "/jobs"
  | getDevices .. => "/api/v2/devices"
  | getDevice device_id => "/api/v2/device/" ++ toString device_id
  | getDeviceAlerts device_id => "/api/v2/device/" ++ toString device_id ++ "/alerts"
  | getDeviceActivities device_id .. => "/api/v2/device/" ++ toString device_id ++ "/activities"
  | getDeviceServices device_id .. =>
      "/api/v2/device/" ++ toString device_id ++ "/windows-services"
  | rebootDevice device_id mode _ => "/api/v2/device/" ++ toString device_id ++ "/reboot/" ++ mode
  | getOrganizations .. => "/api/v2/organizations"
  | getOrganization organization_id => "/api/v2/organization/" ++ toString organization_id
  | createOrganization .. => "/api/v2/organizations"
  | getOrganizationLocations organization_id =>
      "/api/v2/organization/" ++ toString organization_id ++ "/locations"
  | getOrganizationCustomFields organization_id =>
      "/api/v2/organization/" ++ toString organization_id ++ "/custom-fields"
  | getOrganizationDevices organization_id .. =>
      "/api/v2/organization/" ++ toString organization_id ++ "/devices"
  | getTicketBoards => "/api/v2/ticketing/trigger/boards"
  | getTickets board_id .. => "/api/v2/ticketing/trigger/board/" ++ toString board_id ++ "/run"
  | createTicket .. => "/api/v2/ticketing/ticket"
  | updateTicket ticket_id .. => "/api/v2/ticketing/ticket/" ++ toString ticket_id
  | getTicketLogEntries ticket_id _ =>
      "/api/v2/ticketing/ticket/" ++ toString ticket_id ++ "/log-entry"

/-- The query parameters, before the omitted ones are dropped. -/
def params : ApiTool → Option (List (String × Json))
  | getAlerts source_type df => some [("sourceType", .ofStr? source_type), ("df", .ofStr? df)]
  | getAutomationScripts _ limit after =>
      if limit.isSome ∨ after.isSome then
        some [("pageSize", .ofInt? (limit.map fun n => min n MAX_PAGE_SIZE)),
          ("after", .ofInt? after)]
      else none
  | getActiveJobs job_type df => some [("jobType", .ofStr? job_type), ("df", .ofStr? df)]
  | getDevices df limit after =>
      some [("df", .ofStr? df), ("pageSize", .int (pageSize limit)), ("after", .ofInt? after)]
  | getDeviceActivities _ activity_type status older_than newer_than limit =>
      some [("activityType", .ofStr? activity_type), ("status", .ofStr? status),
        ("olderThan", .ofInt? older_than), ("newerThan", .ofInt? newer_than),
        ("pageSize", .int (activitiesPageSize limit))]
  | getDeviceServices _ name state => some [("name", .ofStr? name), ("state", .ofStr? state)]
  | getOrganizations limit after =>
      some [("pageSize", .int (pageSize limit)), ("after", .ofInt? after)]
  | createOrganization _ _ _ _ template_organization_id =>
      some [("templateOrganizationId", .ofInt? template_organization_id)]
  | getOrganizationDevices _ limit after =>
      some [("pageSize", .int (pageSize limit)), ("after", .ofInt? after)]
  | getTicketLogEntries _ entry_type => some [("type", .ofStr? entry_type)]
  | _ => none

/-- A text that may be seen by the customer, in a ticket. -/
def visibleText (shown : Bool) : Option String → Json
  | none => .null
  | some text => .obj [("public", .bool shown), ("body", .str text)]

def optTags : Option (List String) → Json
  | none => .null
  | some tags => .arr (tags.map .str)

/-- The JSON body. -/
def body : ApiTool → Option (List (String × Json))
  | resetAlert _ activity_note => some (optField "note" (.ofStr? activity_note))
  | runScriptOnDevice _ type script_id action_uid parameters run_as =>
      some ([("type", .str type)] ++ optField "id" (.ofInt? script_id) ++
        optField "uid" (.ofStr? action_uid) ++ optField "parameters" (.ofStr? parameters) ++
        optField "runAs" (.ofStr? run_as))
  | rebootDevice _ _ reason => some (optField "reason" (.ofStr? reason))
  | createOrganization name description node_approval_mode tags _ =>
      some ([("name", .str name)] ++ optField "description" (.ofStr? description) ++
        optField "nodeApprovalMode" (.ofStr? node_approval_mode) ++
        optField "tags" (optTags tags))
  | getTickets _ _ _ _ limit cursor =>
      some ([("pageSize", .int (pageSize limit))] ++ optField "lastCursorId" (.ofInt? cursor))
  | createTicket summary organization_id description device_id location_id ticket_form_id status
      priority severity type =>
      some ([("summary", .str summary), ("clientId", .int organization_id)] ++
        optField "description" (visibleText true description) ++
        optField "nodeId" (.ofInt? device_id) ++ optField "locationId" (.ofInt? location_id) ++
        optField "ticketFormId" (.ofInt? ticket_form_id) ++ optField "status" (.ofStr? status) ++
        optField "priority" (.ofStr? priority) ++ optField "severity" (.ofStr? severity) ++
        optField "type" (.ofStr? type))
  | updateTicket _ summary status priority assignee_id comment comment_public =>
      let ticket_body :=
        optField "summary" (.ofStr? summary) ++ optField "status" (.ofStr? status) ++
          optField "priority" (.ofStr? priority) ++
          optField "assignedAppUserId" (.ofInt? assignee_id)
      some ((if ticket_body = [] then [] else [("ticket", .obj ticket_body)]) ++
        optField "comment" (visibleText (comment_public.getD true) comment))
  | _ => none

/-- What a tool makes of the result of its call. -/
def answer (py : PyText) : ApiTool → Json → Except Exn Answer
  | getAlerts .., result => .ok (dumpJsonCapped (.obj [("alerts", result)]))
  | resetAlert .., result => successAnswer result
  | getAutomationScripts name_filter _ _, result => do
      let result ← filterByName py result name_filter
      .ok (dumpJsonCapped (.obj [("scripts", result)]))
  | getDeviceScriptingOptions _ name_filter, result => do
      let result ← filterNamedLists py result name_filter
      .ok (dumpJsonCapped result)
  | runScriptOnDevice .., result => successAnswer result
  | getActiveJobs .., result => .ok (dumpJsonCapped (.obj [("jobs", result)]))
  | getDeviceActiveJobs .., result => .ok (dumpJsonCapped (.obj [("jobs", result)]))
  | getDevices .., result => .ok (dumpJsonCapped (.obj [("devices", result)]))
  | getDevice .., result => .ok (dumpJsonCapped result)
  | getDeviceAlerts .., result => .ok (dumpJsonCapped (.obj [("alerts", result)]))
  | getDeviceActivities .., result => .ok (dumpJsonCapped (.obj [("activities", result)]))
  | getDeviceServices .., result => .ok (dumpJsonCapped (.obj [("services", result)]))
  | rebootDevice .., result => successAnswer result
  | getOrganizations .., result => .ok (dumpJsonCapped (.obj [("organizations", result)]))
  | getOrganization .., result => .ok (dumpJsonCapped result)
  | createOrganization .., result => .ok (dumpJsonCapped result)
  | getOrganizationLocations .., result => .ok (dumpJsonCapped (.obj [("locations", result)]))
  | getOrganizationCustomFields .., result =>
      let fields :=
        match result with
        | .obj fields => fields
        | _ => []
      if fields.isEmpty then
        .ok (dumpJsonCapped (.obj [("fields", .obj []),
          ("note", .str "no custom fields configured for this organization")]))
      else .ok (dumpJsonCapped (.obj [("fields", .obj fields)]))
  | getOrganizationDevices .., result => .ok (dumpJsonCapped (.obj [("devices", result)]))
  | getTicketBoards, result => .ok (dumpJsonCapped (.obj [("boards", result)]))
  | getTickets _ status organization_id device_id limit _, result =>
      ticketsAnswer py status organization_id device_id (pageSize limit) result
  | createTicket .., result => .ok (dumpJsonCapped result)
  | updateTicket .., result => .ok (dumpJsonCapped result)
  | getTicketLogEntries .., result => .ok (dumpJsonCapped (.obj [("entries", result)]))

/-- **A tool's call**: with any client it is the call of its own method, path,
query and body, and an answer made of its result. -/
theorem run_request (tool : ApiTool) (py : PyText) (client : NinjaOneClient)
    (upstream : Upstream) : tool.run py (some client) upstream =
      (client.request py tool.method tool.path tool.params (tool.body.map .obj)
        upstream).answering (tool.answer py) := by
  cases tool with
  | createOrganization name description node_approval_mode tags => cases tags <;> rfl
  | createTicket summary organization_id description => cases description <;> rfl
  | updateTicket ticket_id summary status priority assignee_id comment => cases comment <;> rfl
  | _ => rfl

/-- The request of a tool's call. -/
def request (tool : ApiTool) (client : NinjaOneClient) : ClientRequest :=
  client.clientRequest tool.method tool.path tool.params (tool.body.map .obj)

theorem run_sends (tool : ApiTool) (py : PyText) (client : NinjaOneClient) (upstream : Upstream) :
    sends (tool.run py (some client) upstream).events =
      List.replicate (lastAttempt upstream (tool.request client) + 1) (tool.request client) := by
  rw [run_request]
  exact request_sends py client _ _ _ _ upstream

/-! ### Paths -/

/-- The names on a tool's path, one below the other. -/
def names : ApiTool → List String
  | getAlerts .. => ["api", "v2", "alerts"]
  | resetAlert alert_uid _ => ["api", "v2", "alert", alert_uid, "reset"]
  | getAutomationScripts .. => ["api", "v2", "automation", "scripts"]
  | getDeviceScriptingOptions device_id _ =>
      ["api", "v2", "device", toString device_id, "scripting", "options"]
  | runScriptOnDevice device_id .. => ["api", "v2", "device", toString device_id, "script", "run"]
  | getActiveJobs .. => ["api", "v2", "jobs"]
  | getDeviceActiveJobs device_id => ["api", "v2", "device", toString device_id, "jobs"]
  | getDevices .. => ["api", "v2", "devices"]
  | getDevice device_id => ["api", "v2", "device", toString device_id]
  | getDeviceAlerts device_id => ["api", "v2", "device", toString device_id, "alerts"]
  | getDeviceActivities device_id .. => ["api", "v2", "device", toString device_id, "activities"]
  | getDeviceServices device_id .. =>
      ["api", "v2", "device", toString device_id, "windows-services"]
  | rebootDevice device_id mode _ => ["api", "v2", "device", toString device_id, "reboot", mode]
  | getOrganizations .. => ["api", "v2", "organizations"]
  | getOrganization organization_id => ["api", "v2", "organization", toString organization_id]
  | createOrganization .. => ["api", "v2", "organizations"]
  | getOrganizationLocations organization_id =>
      ["api", "v2", "organization", toString organization_id, "locations"]
  | getOrganizationCustomFields organization_id =>
      ["api", "v2", "organization", toString organization_id, "custom-fields"]
  | getOrganizationDevices organization_id .. =>
      ["api", "v2", "organization", toString organization_id, "devices"]
  | getTicketBoards => ["api", "v2", "ticketing", "trigger", "boards"]
  | getTickets board_id .. =>
      ["api", "v2", "ticketing", "trigger", "board", toString board_id, "run"]
  | createTicket .. => ["api", "v2", "ticketing", "ticket"]
  | updateTicket ticket_id .. => ["api", "v2", "ticketing", "ticket", toString ticket_id]
  | getTicketLogEntries ticket_id _ =>
      ["api", "v2", "ticketing", "ticket", toString ticket_id, "log-entry"]

theorem path_names (tool : ApiTool) :
    tool.path.toList = UrlRef.rooted (tool.names.map String.toList) := by
  cases tool <;> delta path names <;> simp [UrlRef.rooted]

/-- The argument a tool writes into its path as text. -/
def pathArgument : ApiTool → Option String
  | resetAlert alert_uid _ => some alert_uid
  | rebootDevice _ mode _ => some mode
  | _ => none

/-- The words a tool's path is made of. -/
def words : List String :=
  ["api", "v2", "alerts", "alert", "reset", "automation", "scripts", "device", "scripting",
    "options", "script", "run", "jobs", "devices", "activities", "windows-services", "reboot",
    "organizations", "organization", "locations", "custom-fields", "ticketing", "trigger",
    "boards", "board", "ticket", "log-entry"]

theorem words_ordinary : ∀ word ∈ words, UrlRef.Ordinary word.toList := by decide +kernel

/-- Every name on the path is a word, an id or that argument. -/
theorem names_cases (tool : ApiTool) : ∀ name ∈ tool.names,
    name ∈ words ∨ (∃ id : Int, name = toString id) ∨ name ∈ tool.pathArgument := by
  cases tool <;> simp [names, words, pathArgument]

/-- With an ordinary argument all names on the path are ordinary. -/
theorem names_ordinary (tool : ApiTool)
    (argument : ∀ arg ∈ tool.pathArgument, UrlRef.Ordinary arg.toList) :
    ∀ name ∈ tool.names.map String.toList, UrlRef.Ordinary name := by
  intro name mem
  obtain ⟨written, listed, rfl⟩ := List.mem_map.mp mem
  rcases tool.names_cases written listed with word | ⟨id, rfl⟩ | arg
  · exact words_ordinary written word
  · exact ordinary_toString id
  · exact argument written arg

theorem reaches_names {tool : ApiTool} {client : NinjaOneClient}
    (base : UrlRef.Plain client.base_url.toList)
    (argument : ∀ arg ∈ tool.pathArgument, UrlRef.Ordinary arg.toList) :
    Reaches client.base_url (tool.request client).url tool.names := by
  have ordinary := tool.names_ordinary argument
  have url : (tool.request client).url.toList =
      client.base_url.toList ++ UrlRef.rooted (tool.names.map String.toList) := by
    rw [← path_names, ← String.toList_append]
    rfl
  have plain : UrlRef.Plain
      (client.base_url.toList ++ UrlRef.rooted (tool.names.map String.toList)) :=
    UrlRef.plain_append.mpr
      ⟨base, UrlRef.plain_rooted.mpr fun name mem => (ordinary name mem).2.2.2.2⟩
  obtain ⟨first, rest, split⟩ : ∃ first rest, tool.names.map String.toList = first :: rest := by
    cases tool <;> exact ⟨_, _, rfl⟩
  rw [Reaches, url]
  refine ⟨(UrlRef.parse_plain_iff _).mpr plain, ?_⟩
  rw [split] at plain ordinary ⊢
  rw [UrlRef.resolved_rooted client.stripped (ordinary first List.mem_cons_self) plain,
    UrlRef.flatMap_splitOn_ordinary ordinary, UrlRef.resolveFrom_ordinary ordinary]

/-- **Every tool reaches its own endpoint**: with a plain base URL and an ordinary
text argument, if it takes one, all its requests lead to its own path. -/
theorem requests_reach (tool : ApiTool) (py : PyText) (client : NinjaOneClient)
    (base : UrlRef.Plain client.base_url.toList)
    (argument : ∀ arg ∈ tool.pathArgument, UrlRef.Ordinary arg.toList) (upstream : Upstream) :
    ∀ req ∈ sends (tool.run py (some client) upstream).events,
      req.method = tool.method ∧ Reaches client.base_url req.url tool.names := by
  intro req mem
  rw [run_sends] at mem
  rw [List.eq_of_mem_replicate mem]
  exact ⟨rfl, reaches_names base argument⟩

theorem reboot_reaches : ∀ req ∈ sends ((rebootDevice 5 "NORMAL" none).run .ascii
    (some (.init "t" "https://app.ninjarmm.com")) (answering fun _ => .null)).events,
    req.method = "POST" ∧ Reaches "https://app.ninjarmm.com" req.url
      ["api", "v2", "device", "5", "reboot", "NORMAL"] :=
  requests_reach (rebootDevice 5 "NORMAL" none) .ascii (.init "t" "https://app.ninjarmm.com")
    (by decide) (by decide) _

/-! ### Asking and doing -/

/-- `ToolAnnotations(readOnlyHint=True)`. -/
def readOnlyHint : ApiTool → Bool
  | resetAlert .. => false
  | runScriptOnDevice .. => false
  | rebootDevice .. => false
  | createOrganization .. => false
  | createTicket .. => false
  | updateTicket .. => false
  | _ => true

end ApiTool

/-- A request that asks for something: a GET, or the POST that runs a board. -/
def ClientRequest.Asks (req : ClientRequest) (base_url : String) : Prop :=
  req.method = "GET" ∨ req.method = "POST" ∧ ∃ board_id : Int,
    req.url = base_url ++ ("/api/v2/ticketing/trigger/board/" ++ toString board_id ++ "/run")

namespace ApiTool

/-- The tools that change something use none of the paths a board is run by. -/
theorem path_ne_board {tool : ApiTool} (changes : tool.readOnlyHint = false) (board_id : Int) :
    tool.path ≠ "/api/v2/ticketing/trigger/board/" ++ toString board_id ++ "/run" := by
  intro same
  have chars := congrArg String.toList same
  rw [path_names] at chars
  cases tool <;> simp [names, UrlRef.rooted, readOnlyHint] at chars changes

theorem method_of_changes {tool : ApiTool} (changes : tool.readOnlyHint = false) :
    tool.method ≠ "GET" := by
  have post : "POST" ≠ "GET" := by decide
  cases tool
  case resetAlert => exact post
  case runScriptOnDevice => exact post
  case rebootDevice => exact post
  case createOrganization => exact post
  case createTicket => exact post
  case updateTicket => exact (by decide : "PUT" ≠ "GET")
  all_goals cases changes

theorem asks_of_readOnly {tool : ApiTool} (reads : tool.readOnlyHint = true)
    (client : NinjaOneClient) : (tool.request client).Asks client.base_url := by
  cases tool
  case getTickets board_id _ _ _ _ _ => exact Or.inr ⟨rfl, board_id, rfl⟩
  all_goals first
    | exact Or.inl rfl
    | exact absurd reads Bool.false_ne_true

/-- **The tools announced as read-only are those that only ask**: whatever their
arguments, the client and the upstream, each request they send asks for something. -/
theorem readOnly_iff (tool : ApiTool) (py : PyText) :
    tool.readOnlyHint = true ↔ ∀ (client : NinjaOneClient) (upstream : Upstream),
      ∀ req ∈ sends (tool.run py (some client) upstream).events, req.Asks client.base_url := by
  constructor
  · intro reads client upstream req mem
    rw [run_sends] at mem
    rw [List.eq_of_mem_replicate mem]
    exact asks_of_readOnly reads client
  · intro asks
    by_contra changes
    rw [Bool.not_eq_true] at changes
    have sent := asks (.init "" "") (answering fun _ => .null) (tool.request (.init "" "")) (by
      rw [run_sends]
      exact List.mem_replicate.mpr ⟨Nat.succ_ne_zero _, rfl⟩)
    rcases sent with get | ⟨_, board_id, url⟩
    · exact method_of_changes changes get
    · exact path_ne_board changes board_id (String.append_right_inj _ |>.mp url)

end ApiTool

end NinjaOne
