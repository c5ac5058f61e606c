import NinjaOne.ApiRequest
import NinjaOne.Lib.Decimal

/-!
What a request tells of the call behind it.

`readCall` reads a request of this server the way the API has to: the tool from
method and path, its arguments from path, query and body. `readCall_request`:
nothing of a call is lost on the way but what is never sent (`ApiTool.asSent`):
filters applied to the answer, the limit before it is clamped, and how a comment
that is not written would be shown. Two calls send the same request exactly when
they differ in nothing else (`request_eq_iff`).
-/

namespace NinjaOne

/-! ### Reading values -/

def Json.str? : Json → Option String
  | .str s => some s
  | _ => none

def Json.int? : Json → Option Int
  | .int n => some n
  | _ => none

def Json.bool? : Json → Option Bool
  | .bool b => some b
  | _ => none

def Json.strs? : Json → Option (List String)
  | .arr items => some (items.filterMap Json.str?)
  | _ => none

@[simp] theorem str?_str (s : String) : (Json.str s).str? = some s := rfl

@[simp] theorem int?_int (n : Int) : (Json.int n).int? = some n := rfl

@[simp] theorem ofInt?_some (n : Int) : Json.ofInt? (some n) = .int n := rfl

@[simp] theorem int?_null : Json.null.int? = none := rfl

@[simp] theorem str?_ofStr? (s : Option String) : (Json.ofStr? s).str? = s := by
  cases s <;> rfl

@[simp] theorem int?_ofInt? (n : Option Int) : (Json.ofInt? n).int? = n := by
  cases n <;> rfl

@[simp] theorem strs?_optTags (tags : Option (List String)) :
    (ApiTool.optTags tags).strs? = tags := by
  cases tags with
  | none => rfl
  | some tags =>
      have each : Json.str? ∘ Json.str = some := rfl
      change some ((tags.map Json.str).filterMap Json.str?) = some tags
      rw [List.filterMap_map, each, List.filterMap_some]

@[simp] theorem visibleText_body (shown : Bool) (text : Option String) :
    ((ApiTool.visibleText shown text).field "body").str? = text := by
  cases text <;> rfl

@[simp] theorem visibleText_public (shown : Bool) (text : Option String) :
    ((ApiTool.visibleText shown text).field "public").bool? = text.map fun _ => shown := by
  cases text <;> rfl

/-! ### Reading fields -/

@[simp] theorem field_obj (fields : List (String × Json)) (k : String) :
    (Json.obj fields).field k = getField fields k := rfl

@[simp] theorem getField_cons (k k' : String) (v : Json) (rest : List (String × Json)) :
    getField ((k, v) :: rest) k' = if k' = k then v else getField rest k' := by
  rw [getField, Dict.lookup_cons_if]
  split <;> rfl

@[simp] theorem getField_nil (k : String) : getField [] k = .null := rfl

@[simp] theorem getField_optField_ne {k k' : String} (other : k' ≠ k) (v : Json)
    (rest : List (String × Json)) : getField (optField k v ++ rest) k' = getField rest k' := by
  unfold optField
  split
  · rfl
  · rw [List.singleton_append, getField_cons, if_neg other]

/-- An optional field reads as its value, given or not. -/
@[simp] theorem getField_optField {k : String} {rest : List (String × Json)}
    (last : getField rest k = .null) (v : Json) : getField (optField k v ++ rest) k = v := by
  unfold optField
  split
  · exact last
  · rw [List.singleton_append, getField_cons, if_pos rfl]

@[simp] theorem getField_optField_last (k : String) (v : Json) : getField (optField k v) k = v := by
  rw [← List.append_nil (optField k v), getField_optField (getField_nil k)]

@[simp] theorem getField_optField_last_ne {k k' : String} (other : k' ≠ k) (v : Json) :
    getField (optField k v) k' = .null := by
  rw [← List.append_nil (optField k v), getField_optField_ne other, getField_nil]

section Nested

variable {key : String} (fields rest : List (String × Json)) [Decidable (fields = [])]

/-- An object that is left out when it is empty reads as the object. -/
theorem field_getField_nested (last : getField rest key = .null) (k : String) :
    (getField ((if fields = [] then [] else [(key, .obj fields)]) ++ rest) key).field k =
      getField fields k := by
  split
  · rename_i empty
    rw [List.nil_append, last, empty]
    rfl
  · rw [List.singleton_append, getField_cons, if_pos rfl, field_obj]

theorem getField_nested_ne {k : String} (other : k ≠ key) :
    getField ((if fields = [] then [] else [(key, .obj fields)]) ++ rest) k = getField rest k := by
  split
  · rfl
  · rw [List.singleton_append, getField_cons, if_neg other]

end Nested

/-- An omitted parameter reads like a null one. -/
theorem getField_cleanParams {params : List (String × Json)} (nodup : (params.map Prod.fst).Nodup)
    (k : String) : getField (cleanParams (some params)) k = getField params k := by
  induction params with
  | nil => rfl
  | cons param rest ih =>
      obtain ⟨key, value⟩ := param
      rw [List.map_cons, List.nodup_cons] at nodup
      have rest_eq := ih nodup.2
      have cleaned : cleanParams (some ((key, value) :: rest)) =
          optField key value ++ cleanParams (some rest) := by
        cases value <;> rfl
      rw [cleaned, getField_cons]
      split
      · rename_i same
        subst same
        refine getField_optField ?_ value
        rw [rest_eq, getField, List.lookup_eq_none_iff.mpr, Option.getD_none]
        intro entry mem
        simp only [bne_iff_ne]
        exact fun eq => nodup.1 (List.mem_map.mpr ⟨entry, mem, eq.symm⟩)
      · rename_i other
        rw [getField_optField_ne other, rest_eq]

/-! ### Reading a request -/

/-- The names on a path. -/
def pathNames (path : String) : List String :=
  (path.toList.splitOn '/').map String.ofList

/-- Names put together again. -/
def joinNames (names : List String) : String :=
  String.ofList (['/'].intercalate (names.map String.toList))

def readInt (text : String) : Option Int := Decimal.read text.toList

/-- The call of a GET with these names on its path, below `api` and `v2`. -/
def readGet (ask : String → Json) : List String → Option ApiTool
  | ["alerts"] => some (.getAlerts (ask "sourceType").str? (ask "df").str?)
  | ["automation", "scripts"] =>
      some (.getAutomationScripts none (ask "pageSize").int? (ask "after").int?)
  | ["device", id, "scripting", "options"] =>
      (readInt id).map fun id => .getDeviceScriptingOptions id none
  | ["jobs"] => some (.getActiveJobs (ask "jobType").str? (ask "df").str?)
  | ["device", id, "jobs"] => (readInt id).map fun id => .getDeviceActiveJobs id
  | ["devices"] =>
      some (.getDevices (ask "df").str? (ask "pageSize").int? (ask "after").int?)
  | ["device", id] => (readInt id).map fun id => .getDevice id
  | ["device", id, "alerts"] => (readInt id).map fun id => .getDeviceAlerts id
  | ["device", id, "activities"] =>
      (readInt id).map fun id => .getDeviceActivities id (ask "activityType").str?
        (ask "status").str? (ask "olderThan").int? (ask "newerThan").int? (ask "pageSize").int?
  | ["device", id, "windows-services"] =>
      (readInt id).map fun id => .getDeviceServices id (ask "name").str? (ask "state").str?
  | ["organizations"] => some (.getOrganizations (ask "pageSize").int? (ask "after").int?)
  | ["organization", id] => (readInt id).map fun id => .getOrganization id
  | ["organization", id, "locations"] => (readInt id).map fun id => .getOrganizationLocations id
  | ["organization", id, "custom-fields"] =>
      (readInt id).map fun id => .getOrganizationCustomFields id
  | ["organization", id, "devices"] =>
      (readInt id).map fun id => .getOrganizationDevices id (ask "pageSize").int? (ask "after").int?
  | ["ticketing", "trigger", "boards"] => some .getTicketBoards
  | ["ticketing", "ticket", id, "log-entry"] =>
      (readInt id).map fun id => .getTicketLogEntries id (ask "type").str?
  | _ => none

/-- The call of a POST. The text arguments on the paths may hold slashes. -/
def readPost (ask told : String → Json) : List String → Option ApiTool
  | "alert" :: names => some (.resetAlert (joinNames names.dropLast) (told "note").str?)
  | ["device", id, "script", "run"] =>
      (readInt id).map fun id => .runScriptOnDevice id ((told "type").str?.getD "") (told "id").int?
        (told "uid").str? (told "parameters").str? (told "runAs").str?
  | "device" :: id :: "reboot" :: names =>
      (readInt id).map fun id => .rebootDevice id (joinNames names) (told "reason").str?
  | ["organizations"] =>
      some (.createOrganization ((told "name").str?.getD "") (told "description").str?
        (told "nodeApprovalMode").str? (told "tags").strs? (ask "templateOrganizationId").int?)
  | ["ticketing", "trigger", "board", id, "run"] =>
      (readInt id).map fun id => .getTickets id none none none (told "pageSize").int?
        (told "lastCursorId").int?
  | ["ticketing", "ticket"] =>
      some (.createTicket ((told "summary").str?.getD "") ((told "clientId").int?.getD 0)
        ((told "description").field "body").str? (told "nodeId").int? (told "locationId").int?
        (told "ticketFormId").int? (told "status").str? (told "priority").str?
        (told "severity").str? (told "type").str?)
  | _ => none

/-- The call of a PUT. -/
def readPut (told : String → Json) : List String → Option ApiTool
  | ["ticketing", "ticket", id] =>
      (readInt id).map fun id => .updateTicket id ((told "ticket").field "summary").str?
        ((told "ticket").field "status").str? ((told "ticket").field "priority").str?
        ((told "ticket").field "assignedAppUserId").int? ((told "comment").field "body").str?
        ((told "comment").field "public").bool?
  | _ => none

/-- Reads a request to the API below `base_url`. -/
def readCall (base_url : String) (req : ClientRequest) : Option ApiTool :=
  let ask := getField req.params
  let told := (req.json.getD .null).field
  match pathNames (String.ofList (req.url.toList.drop base_url.length)) with
  | "" :: "api" :: "v2" :: names =>
      if req.method = "GET" then readGet ask names
      else if req.method = "POST" then readPost ask told names
      else if req.method = "PUT" then readPut told names
      else none
  | _ => none

/-! ### What is sent of a call -/

/-- The call without what no request carries. -/
def ApiTool.asSent : ApiTool → ApiTool
  | getAutomationScripts _ limit after =>
      getAutomationScripts none (limit.map fun n => min n MAX_PAGE_SIZE) after
  | getDeviceScriptingOptions device_id _ => getDeviceScriptingOptions device_id none
  | getDevices df limit after => getDevices df (some (pageSize limit)) after
  | getDeviceActivities device_id activity_type status older_than newer_than limit =>
      getDeviceActivities device_id activity_type status older_than newer_than
        (some (activitiesPageSize limit))
  | getOrganizations limit after => getOrganizations (some (pageSize limit)) after
  | getOrganizationDevices organization_id limit after =>
      getOrganizationDevices organization_id (some (pageSize limit)) after
  | getTickets board_id _ _ _ limit cursor =>
      getTickets board_id none none none (some (pageSize limit)) cursor
  | updateTicket ticket_id summary status priority assignee_id comment comment_public =>
      updateTicket ticket_id summary status priority assignee_id comment
        (comment.map fun _ => comment_public.getD true)
  | tool => tool

/-! ### Paths -/

theorem pathNames_of_ordinary {name : String} (ordinary : UrlRef.Ordinary name.toList) :
    pathNames name = [name] := by
  rw [pathNames, List.splitOn_eq_singleton ordinary.2.2.2.1, List.map_singleton,
    String.ofList_toList]

theorem joinNames_pathNames (name : String) : joinNames (pathNames name) = name := by
  have each : String.toList ∘ String.ofList = id := funext fun _ => String.toList_ofList
  rw [joinNames, pathNames, List.map_map, each, List.map_id, List.intercalate_splitOn,
    String.ofList_toList]

theorem pathNames_path (tool : ApiTool) :
    pathNames tool.path = "" :: tool.names.flatMap pathNames := by
  have split := UrlRef.splitOn_rooted [] (tool.names.map String.toList)
  rw [List.nil_append, ← ApiTool.path_names, List.flatMap_map] at split
  rw [pathNames, split, List.map_append, List.map_flatMap]
  rfl

/-- Without a text argument in it, a path is its names. -/
theorem pathNames_of_plain {tool : ApiTool} (plain : tool.pathArgument = none) :
    tool.names.flatMap pathNames = tool.names := by
  have ordinary := tool.names_ordinary fun arg mem => by
    rw [plain] at mem
    cases mem
  have each : ∀ name ∈ tool.names, pathNames name = [name] := fun name mem =>
    pathNames_of_ordinary (ordinary _ (List.mem_map_of_mem mem))
  rw [List.flatMap_congr each, List.flatMap_singleton']

/-- The path of a request is read back. -/
theorem pathNames_request (tool : ApiTool) (client : NinjaOneClient) :
    pathNames (String.ofList ((tool.request client).url.toList.drop client.base_url.length)) =
      "" :: tool.names.flatMap pathNames := by
  have rest : (tool.request client).url.toList.drop client.base_url.length = tool.path.toList := by
    change (client.base_url ++ tool.path).toList.drop _ = _
    rw [String.toList_append, ← String.length_toList, List.drop_left]
  rw [rest, String.ofList_toList, pathNames_path]

/-! ### Reading a tool's request -/

@[simp] theorem readInt_toString (n : Int) : readInt (toString n) = some n :=
  Decimal.read_toString n

theorem readCall_get {tool : ApiTool} (client : NinjaOneClient) {names : List String}
    (get : tool.method = "GET") (path : tool.names.flatMap pathNames = "api" :: "v2" :: names) :
    readCall client.base_url (tool.request client) =
      readGet (getField (cleanParams tool.params)) names := by
  unfold readCall
  rw [pathNames_request, path]
  exact if_pos get

theorem readCall_post {tool : ApiTool} (client : NinjaOneClient) {names : List String}
    (post : tool.method = "POST") (path : tool.names.flatMap pathNames = "api" :: "v2" :: names) :
    readCall client.base_url (tool.request client) =
      readPost (getField (cleanParams tool.params)) (((tool.body.map Json.obj).getD .null).field)
        names := by
  have not_get : tool.method ≠ "GET" := post ▸ (by decide)
  unfold readCall
  rw [pathNames_request, path]
  exact (if_neg not_get).trans (if_pos post)

theorem readCall_put {tool : ApiTool} (client : NinjaOneClient) {names : List String}
    (put : tool.method = "PUT") (path : tool.names.flatMap pathNames = "api" :: "v2" :: names) :
    readCall client.base_url (tool.request client) =
      readPut (((tool.body.map Json.obj).getD .null).field) names := by
  have not_get : tool.method ≠ "GET" := put ▸ (by decide)
  have not_post : tool.method ≠ "POST" := put ▸ (by decide)
  unfold readCall
  rw [pathNames_request, path]
  exact (if_neg not_get).trans ((if_neg not_post).trans (if_pos put))

/-- A request with an id on its path reads as what the id gives. -/
theorem map_readInt {α : Type} (id : Int) (f : Int → α) :
    (readInt (toString id)).map f = some (f id) := by
  rw [readInt_toString, Option.map_some]

theorem readCall_get_request {tool : ApiTool} (get : tool.method = "GET")
    (client : NinjaOneClient) :
    readCall client.base_url (tool.request client) = some tool.asSent := by
  cases tool
  case resetAlert | runScriptOnDevice | rebootDevice | createOrganization | getTickets |
      createTicket => exact absurd get (by decide : ¬ "POST" = "GET")
  case updateTicket => exact absurd get (by decide : ¬ "PUT" = "GET")
  all_goals rw [readCall_get client get (pathNames_of_plain rfl)]
  case getAlerts source_type df =>
    refine congrArg some (?_ : ApiTool.getAlerts _ _ = .getAlerts source_type df)
    simp [ApiTool.params, getField_cleanParams]
  case getAutomationScripts name_filter limit after =>
    refine congrArg some (?_ : ApiTool.getAutomationScripts none _ _ =
      .getAutomationScripts none (limit.map fun n => min n MAX_PAGE_SIZE) after)
    cases limit with
    | none =>
        cases after with
        | none => exact rfl
        | some n => simp [ApiTool.params, getField_cleanParams]
    | some n => simp [ApiTool.params, getField_cleanParams]
  case getActiveJobs job_type df =>
    refine congrArg some (?_ : ApiTool.getActiveJobs _ _ = .getActiveJobs job_type df)
    simp [ApiTool.params, getField_cleanParams]
  case getDevices df limit after =>
    refine congrArg some
      (?_ : ApiTool.getDevices _ _ _ = .getDevices df (some (pageSize limit)) after)
    simp [ApiTool.params, getField_cleanParams]
  case getDeviceActivities id activity_type status older_than newer_than limit =>
    refine (map_readInt id _).trans (congrArg some (?_ : ApiTool.getDeviceActivities _ _ _ _ _ _ =
      .getDeviceActivities id activity_type status older_than newer_than
        (some (activitiesPageSize limit))))
    simp [ApiTool.params, getField_cleanParams]
  case getDeviceServices id name state =>
    refine (map_readInt id _).trans (congrArg some (?_ : ApiTool.getDeviceServices _ _ _ =
      .getDeviceServices id name state))
    simp [ApiTool.params, getField_cleanParams]
  case getOrganizations limit after =>
    refine congrArg some (?_ : ApiTool.getOrganizations _ _ =
      .getOrganizations (some (pageSize limit)) after)
    simp [ApiTool.params, getField_cleanParams]
  case getOrganizationDevices id limit after =>
    refine (map_readInt id _).trans (congrArg some (?_ : ApiTool.getOrganizationDevices _ _ _ =
      .getOrganizationDevices id (some (pageSize limit)) after))
    simp [ApiTool.params, getField_cleanParams]
  case getTicketLogEntries id entry_type =>
    refine (map_readInt id _).trans (congrArg some (?_ : ApiTool.getTicketLogEntries _ _ =
      .getTicketLogEntries id entry_type))
    simp [ApiTool.params, getField_cleanParams]
  case getTicketBoards => exact rfl
  -- The others send nothing but the id on their path.
  all_goals exact map_readInt _ _

/-- A path with a text in one place. -/
theorem flatMap_pathNames_around (before : List String) (text : String) (after : List String)
    (fixed : ∀ name ∈ before ++ after, pathNames name = [name]) :
    (before ++ text :: after).flatMap pathNames = before ++ (pathNames text ++ after) := by
  have kept : ∀ names : List String, (∀ name ∈ names, name ∈ before ++ after) →
      names.flatMap pathNames = names := by
    intro names part
    rw [List.flatMap_congr fun name mem => fixed name (part name mem), List.flatMap_singleton']
  rw [List.flatMap_append, List.flatMap_cons, kept before fun _ => List.mem_append_left _,
    kept after fun _ => List.mem_append_right _]

theorem pathNames_word {name : String} (word : name ∈ ApiTool.words) : pathNames name = [name] :=
  pathNames_of_ordinary (ApiTool.words_ordinary name word)

theorem names_resetAlert (alert_uid : String) (activity_note : Option String) :
    (ApiTool.resetAlert alert_uid activity_note).names.flatMap pathNames =
      "api" :: "v2" :: "alert" :: (pathNames alert_uid ++ ["reset"]) := by
  have words : ∀ name ∈ ["api", "v2", "alert"] ++ ["reset"], name ∈ ApiTool.words := by decide
  exact flatMap_pathNames_around ["api", "v2", "alert"] alert_uid ["reset"]
    fun name mem => pathNames_word (words name mem)

theorem names_rebootDevice (device_id : Int) (mode : String) (reason : Option String) :
    (ApiTool.rebootDevice device_id mode reason).names.flatMap pathNames =
      "api" :: "v2" :: "device" :: toString device_id :: "reboot" :: pathNames mode := by
  have words : ∀ name ∈ ["api", "v2", "device", "reboot"], name ∈ ApiTool.words := by decide
  have split := flatMap_pathNames_around ["api", "v2", "device", toString device_id, "reboot"] mode
    [] fun name mem => ?_
  · rw [List.append_nil] at split
    exact split
  · by_cases id : name = toString device_id
    · rw [id]
      exact pathNames_of_ordinary (ordinary_toString device_id)
    · refine pathNames_word (words name ?_)
      simp only [List.append_nil, List.mem_cons, id, false_or] at mem
      simpa using mem

theorem readCall_post_request {tool : ApiTool} (post : tool.method = "POST")
    (client : NinjaOneClient) :
    readCall client.base_url (tool.request client) = some tool.asSent := by
  cases tool
  case resetAlert alert_uid activity_note =>
    rw [readCall_post client post (names_resetAlert alert_uid activity_note)]
    refine congrArg some (?_ : ApiTool.resetAlert _ _ = .resetAlert alert_uid activity_note)
    simp [ApiTool.body, joinNames_pathNames]
  case rebootDevice id mode reason =>
    rw [readCall_post client post (names_rebootDevice id mode reason)]
    refine (map_readInt id _).trans (congrArg some (?_ : ApiTool.rebootDevice _ _ _ =
      .rebootDevice id mode reason))
    simp [ApiTool.body, joinNames_pathNames]
  case runScriptOnDevice id type script_id action_uid parameters run_as =>
    rw [readCall_post client post (pathNames_of_plain rfl)]
    refine (map_readInt id _).trans (congrArg some (?_ : ApiTool.runScriptOnDevice _ _ _ _ _ _ =
      .runScriptOnDevice id type script_id action_uid parameters run_as))
    simp [ApiTool.body]
  case createTicket summary organization_id description device_id location_id ticket_form_id status
      priority severity type =>
    rw [readCall_post client post (pathNames_of_plain rfl)]
    refine congrArg some (?_ : ApiTool.createTicket _ _ _ _ _ _ _ _ _ _ =
      .createTicket summary organization_id description device_id location_id ticket_form_id status
        priority severity type)
    simp [ApiTool.body]
  case createOrganization name description node_approval_mode tags template_organization_id =>
    rw [readCall_post client post (pathNames_of_plain rfl)]
    refine congrArg some (?_ : ApiTool.createOrganization _ _ _ _ _ =
      .createOrganization name description node_approval_mode tags template_organization_id)
    simp [ApiTool.body, ApiTool.params, getField_cleanParams]
  case getTickets id status organization_id device_id limit cursor =>
    rw [readCall_post client post (pathNames_of_plain rfl)]
    refine (map_readInt id _).trans (congrArg some (?_ : ApiTool.getTickets _ _ _ _ _ _ =
      .getTickets id none none none (some (pageSize limit)) cursor))
    simp [ApiTool.body]
  case updateTicket => exact absurd post (by decide : ¬ "PUT" = "POST")
  all_goals exact absurd post (by decide : ¬ "GET" = "POST")

theorem readCall_put_request {tool : ApiTool} (put : tool.method = "PUT")
    (client : NinjaOneClient) :
    readCall client.base_url (tool.request client) = some tool.asSent := by
  cases tool
  case updateTicket id summary status priority assignee_id comment comment_public =>
    rw [readCall_put client put (pathNames_of_plain rfl)]
    refine (map_readInt id _).trans (congrArg some (?_ : ApiTool.updateTicket _ _ _ _ _ _ _ =
      .updateTicket id summary status priority assignee_id comment
        (comment.map fun _ => comment_public.getD true)))
    have comment_ne : "comment" ≠ "ticket" := by decide
    have no_ticket : getField (optField "comment"
        (ApiTool.visibleText (comment_public.getD true) comment)) "ticket" = .null := by simp
    simp only [ApiTool.body, Option.map_some, Option.getD_some, field_obj,
      field_getField_nested _ _ no_ticket, getField_nested_ne _ _ comment_ne]
    simp
  case resetAlert | runScriptOnDevice | rebootDevice | createOrganization | getTickets |
      createTicket => exact absurd put (by decide : ¬ "POST" = "PUT")
  all_goals exact absurd put (by decide : ¬ "GET" = "PUT")

theorem ApiTool.method_cases (tool : ApiTool) :
    tool.method = "GET" ∨ tool.method = "POST" ∨ tool.method = "PUT" := by
  cases tool <;> first | exact Or.inl rfl | exact Or.inr (Or.inl rfl) | exact Or.inr (Or.inr rfl)

/-- **A request is read as the call behind it**, up to what is never sent. -/
theorem readCall_request (tool : ApiTool) (client : NinjaOneClient) :
    readCall client.base_url (tool.request client) = some tool.asSent := by
  rcases tool.method_cases with get | post | put
  · exact readCall_get_request get client
  · exact readCall_post_request post client
  · exact readCall_put_request put client

/-! ### Calls with the same request -/

/-- A clamped limit is clamped to itself. -/
theorem pageSize_pageSize (limit : Option Int) :
    pageSize (some (pageSize limit)) = pageSize limit := by
  have clamped : ∀ n : Int, n ≠ 0 →
      min (if min n MAX_PAGE_SIZE = 0 then 50 else min n MAX_PAGE_SIZE) MAX_PAGE_SIZE =
        min n MAX_PAGE_SIZE := by
    intro n nonzero
    unfold MAX_PAGE_SIZE
    split <;> omega
  cases limit with
  | none => exact clamped 50 (by decide)
  | some n =>
      by_cases zero : n = 0
      · subst zero
        exact clamped 50 (by decide)
      · simp only [pageSize, if_neg zero]
        exact clamped n zero

theorem activitiesPageSize_idem (limit : Option Int) :
    activitiesPageSize (some (activitiesPageSize limit)) = activitiesPageSize limit := by
  have clamped : ∀ n : Int, max 10 (min (if max 10 (min n 1000) = 0 then 200
      else max 10 (min n 1000)) 1000) = max 10 (min n 1000) := by
    intro n
    split <;> omega
  cases limit with
  | none => exact clamped 200
  | some n => exact clamped (if n = 0 then 200 else n)

theorem ApiTool.request_asSent (tool : ApiTool) (client : NinjaOneClient) :
    tool.asSent.request client = tool.request client := by
  have twice : ∀ limit : Option Int, (limit.map fun n => min n MAX_PAGE_SIZE).map
      (fun n => min n MAX_PAGE_SIZE) = limit.map fun n => min n MAX_PAGE_SIZE := by
    intro limit
    rw [Option.map_map]
    exact Option.map_congr fun n _ => min_eq_left (min_le_right n _)
  cases tool
  case getAutomationScripts name_filter limit after =>
    simp only [request, asSent, params, Option.isSome_map, twice]
    rfl
  case getDevices df limit after =>
    simp only [request, asSent, params, pageSize_pageSize]
    rfl
  case getDeviceActivities id activity_type status older_than newer_than limit =>
    simp only [request, asSent, params, activitiesPageSize_idem]
    rfl
  case getOrganizations limit after =>
    simp only [request, asSent, params, pageSize_pageSize]
    rfl
  case getOrganizationDevices id limit after =>
    simp only [request, asSent, params, pageSize_pageSize]
    rfl
  case getTickets id status organization_id device_id limit cursor =>
    simp only [request, asSent, body, pageSize_pageSize]
    rfl
  case updateTicket id summary status priority assignee_id comment comment_public =>
    cases comment <;> rfl
  all_goals rfl

/-- **Two calls send the same request** exactly when they differ in nothing but
what is never sent. -/
theorem request_eq_iff (tool tool' : ApiTool) (client : NinjaOneClient) :
    tool.request client = tool'.request client ↔ tool.asSent = tool'.asSent := by
  constructor
  · intro same
    have read := readCall_request tool client
    rw [same, readCall_request tool' client] at read
    exact (Option.some.inj read).symm
  · intro same
    rw [← ApiTool.request_asSent tool, same, ApiTool.request_asSent]

end NinjaOne
