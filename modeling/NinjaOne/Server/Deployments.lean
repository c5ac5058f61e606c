import NinjaOne.Server.Calls

/-!
A deployment without script execution.

`ENABLE_SCRIPT_EXECUTION=false` leaves out one tool and the callback tools with
their route. Nothing else asks for that switch, so what it is for has to follow
from what the remaining tools can do.

* `runsScript_iff`: of all tools one runs scripts.
* `no_script_runs`: without the switch no pair is ever created, and no request
  runs a script, unless a text argument that is not ordinary leads one there.
-/

namespace NinjaOne

/-! ### Running a script -/

/-- `POST /api/v2/device/…/script/run`. -/
def ClientRequest.RunsScript (req : ClientRequest) (base_url : String) : Prop :=
  req.method = "POST" ∧ ∃ device_id : String,
    Reaches base_url req.url ["api", "v2", "device", device_id, "script", "run"]

def ApiTool.isRunScript : ApiTool → Bool
  | runScriptOnDevice .. => true
  | _ => false

theorem ApiTool.names_script_iff {tool : ApiTool} :
    (∃ device_id : String, tool.names = ["api", "v2", "device", device_id, "script", "run"]) ↔
      tool.isRunScript = true := by
  cases tool <;> simp [names, isRunScript]

/-- With a plain base URL and an ordinary argument, `ninjaone_run_script_on_device`
is the tool whose request runs a script. -/
theorem runsScript_iff {tool : ApiTool} {client : NinjaOneClient}
    (base : UrlRef.Plain client.base_url.toList)
    (argument : ∀ arg ∈ tool.pathArgument, UrlRef.Ordinary arg.toList) :
    (tool.request client).RunsScript client.base_url ↔ tool.isRunScript = true := by
  have reaches := ApiTool.reaches_names base argument
  rw [← ApiTool.names_script_iff]
  constructor
  · rintro ⟨_, device_id, there⟩
    have same := reaches.2.symm.trans there.2
    rw [List.append_cancel_left_eq] at same
    exact ⟨device_id, List.map_injective_iff.mpr (fun _ _ => String.toList_injective) same⟩
  · rintro ⟨device_id, names⟩
    rw [names] at reaches
    refine ⟨?_, device_id, reaches⟩
    have runs := ApiTool.names_script_iff.mp ⟨device_id, names⟩
    cases tool with
    | runScriptOnDevice => rfl
    | _ => cases runs

namespace Server

variable {d : Deployment} {server server' : Server}

/-! ### Without the switch -/

theorem route_of_disabled (disabled : d.settings.enable_script_execution = false) (scope : Scope)
    (body : List UInt8) (request : CallbackRequest) :
    route d.settings scope body ≠ .callback request := by
  intro routed
  unfold route at routed
  split at routed
  · cases routed
  · rw [disabled] at routed
    cases routed

/-- The store stays as it was at the start. -/
theorem service_of_disabled (disabled : d.settings.enable_script_execution = false)
    (empty : server.service = .empty) {event : ServerEvent} {reply : ServerReply}
    (taken : server.step d event = some (server', reply)) : server'.service = .empty := by
  have moved : ∀ event, server.moveGate event = some (server', reply) →
      server'.service = .empty := by
    intro event taken
    obtain ⟨_, _, rfl, _⟩ := moveGate_cases taken
    exact empty
  cases event with
  | connect scope initial body now =>
      rcases connect_cases taken with ⟨_, rfl, _⟩ | ⟨request, routed, _⟩ | ⟨_, taken⟩
      · exact empty
      · exact absurd routed (route_of_disabled disabled scope body request)
      · exact moved _ taken
  | enter i => exact moved _ taken
  | spawn t => exact moved _ taken
  | leave i => exact moved _ taken
  | call task tool =>
      obtain ⟨_, _, ⟨_, rfl, _⟩ | ⟨_, _, rfl, _⟩⟩ := call_cases taken <;> exact empty
  | attempt f out =>
      obtain ⟨_, _, _, _, _, rfl, _⟩ := attempt_cases taken
      exact empty
  | callbackCall task tool =>
      obtain ⟨_, enabled, _⟩ := callbackCall_cases taken
      rw [disabled] at enabled
      cases enabled
  | waitEnd wait readings timed_out =>
      -- There is no wait to end.
      obtain ⟨_, _, stepped, _⟩ := operate_cases taken
      rw [empty] at stepped
      obtain ⟨_, found, _⟩ := step_waitEnd stepped
      cases found

/-- The tools called are registered ones. -/
theorem registered_of_flight {trace : List (ServerEvent × ServerReply)}
    (run : Run (step d) .empty trace server) : ∀ (f : Nat) flight,
      server.flights[f]? = some flight → flight.tool.registered d.settings = true := by
  refine Run.induction (P := fun _ server => ∀ (f : Nat) flight,
    server.flights[f]? = some flight → flight.tool.registered d.settings = true)
    (fun _ _ found => by cases found) ?_ run
  intro _ server event reply server' _ ih taken
  cases step_change taken with
  | start _ _ starts =>
      intro f flight found
      rcases getElem?_snoc found with old | ⟨_, rfl⟩
      · exact ih f flight old
      · exact starts.registered
  | @attempt f out flight next events here stepped =>
      intro f' flight' found
      rw [List.getElem?_set] at found
      split at found
      · split at found
        · cases found
          rw [← (Flight.same_step stepped).tool]
          exact ih f flight here
        · cases found
      · exact ih f' flight' found
  | _ => exact ih

/-- **Without script execution no script runs**: in any run of such a deployment no
pair is created, and no request runs a script, where the base URL is plain and the
text argument of the call, if it takes one, is ordinary. -/
theorem no_script_runs (disabled : d.settings.enable_script_execution = false)
    {trace : List (ServerEvent × ServerReply)} (run : Run (step d) .empty trace server) :
    server.service = .empty ∧ ∀ f out events,
      (ServerEvent.attempt f out, ServerReply.caused events) ∈ trace →
      ∃ flight, server.flights[f]? = some flight ∧
        (UrlRef.Plain flight.client.base_url.toList →
          (∀ arg ∈ flight.tool.pathArgument, UrlRef.Ordinary arg.toList) →
          ∀ req ∈ sends events, ¬ req.RunsScript flight.client.base_url) := by
  constructor
  · exact Run.induction (P := fun _ server => server.service = .empty) rfl
      (fun _ _ _ _ _ _ empty taken => service_of_disabled disabled empty taken) run
  · intro f out events made
    obtain ⟨flight, found⟩ := flight_of_attempt run made
    refine ⟨flight, found, fun base argument req mem runs => ?_⟩
    have registered := registered_of_flight run f flight found
    rw [sent_by_flight run found made req mem, Flight.request,
      runsScript_iff base argument] at runs
    cases tool : flight.tool with
    | runScriptOnDevice =>
        rw [tool, ApiTool.registered, disabled] at registered
        cases registered
    | _ =>
        rw [tool] at runs
        cases runs

theorem boards_no_script : boardsServer.service = .empty ∧ ∀ f out events,
    (ServerEvent.attempt f out, ServerReply.caused events) ∈ boardsTrace →
    ∃ flight, boardsServer.flights[f]? = some flight ∧
      (UrlRef.Plain flight.client.base_url.toList →
        (∀ arg ∈ flight.tool.pathArgument, UrlRef.Ordinary arg.toList) →
        ∀ req ∈ sends events, ¬ req.RunsScript flight.client.base_url) :=
  no_script_runs (by rfl) boards_run

end Server

end NinjaOne
