import NinjaOne.Tools.Automation
import NinjaOne.Tools.Devices
import NinjaOne.Tools.Organizations
import NinjaOne.Tools.Tickets

/-!
The tools that call the API, all of them.

Each makes a single call and turns its result into an answer (`run_eq`): what is
shown for `Traced.answering` holds of every tool.
-/

namespace NinjaOne

/-- A call of a tool with its arguments. -/
inductive ApiTool where
  | getAlerts (source_type df : Option String)
  | resetAlert (alert_uid : String) (activity_note : Option String)
  | getAutomationScripts (name_filter : Option String) (limit after : Option Int)
  | getDeviceScriptingOptions (device_id : Int) (name_filter : Option String)
  | runScriptOnDevice (device_id : Int) (type : String) (script_id : Option Int)
      (action_uid parameters run_as : Option String)
  | getActiveJobs (job_type df : Option String)
  | getDeviceActiveJobs (device_id : Int)
  | getDevices (df : Option String) (limit after : Option Int)
  | getDevice (device_id : Int)
  | getDeviceAlerts (device_id : Int)
  | getDeviceActivities (device_id : Int) (activity_type status : Option String)
      (older_than newer_than limit : Option Int)
  | getDeviceServices (device_id : Int) (name state : Option String)
  | rebootDevice (device_id : Int) (mode : String) (reason : Option String)
  | getOrganizations (limit after : Option Int)
  | getOrganization (organization_id : Int)
  | createOrganization (name : String) (description node_approval_mode : Option String)
      (tags : Option (List String)) (template_organization_id : Option Int)
  | getOrganizationLocations (organization_id : Int)
  | getOrganizationCustomFields (organization_id : Int)
  | getOrganizationDevices (organization_id : Int) (limit after : Option Int)
  | getTicketBoards
  | getTickets (board_id : Int) (status : Option String)
      (organization_id device_id limit cursor : Option Int)
  | createTicket (summary : String) (organization_id : Int) (description : Option String)
      (device_id location_id ticket_form_id : Option Int)
      (status priority severity type : Option String)
  | updateTicket (ticket_id : Int) (summary status priority : Option String)
      (assignee_id : Option Int) (comment : Option String) (comment_public : Option Bool)
  | getTicketLogEntries (ticket_id : Int) (entry_type : Option String)

namespace ApiTool

def run (tool : ApiTool) (py : PyText) (client : Option NinjaOneClient) (upstream : Upstream) :
    ToolRun :=
  match tool with
  | getAlerts source_type df => ninjaoneGetAlerts py client source_type df upstream
  | resetAlert alert_uid activity_note =>
      ninjaoneResetAlert py client alert_uid activity_note upstream
  | getAutomationScripts name_filter limit after =>
      ninjaoneGetAutomationScripts py client name_filter limit after upstream
  | getDeviceScriptingOptions device_id name_filter =>
      ninjaoneGetDeviceScriptingOptions py client device_id name_filter upstream
  | runScriptOnDevice device_id type script_id action_uid parameters run_as =>
      ninjaoneRunScriptOnDevice py client device_id type script_id action_uid parameters run_as
        upstream
  | getActiveJobs job_type df => ninjaoneGetActiveJobs py client job_type df upstream
  | getDeviceActiveJobs device_id => ninjaoneGetDeviceActiveJobs py client device_id upstream
  | getDevices df limit after => ninjaoneGetDevices py client df limit after upstream
  | getDevice device_id => ninjaoneGetDevice py client device_id upstream
  | getDeviceAlerts device_id => ninjaoneGetDeviceAlerts py client device_id upstream
  | getDeviceActivities device_id activity_type status older_than newer_than limit =>
      ninjaoneGetDeviceActivities py client device_id activity_type status older_than newer_than
        limit upstream
  | getDeviceServices device_id name state =>
      ninjaoneGetDeviceServices py client device_id name state upstream
  | rebootDevice device_id mode reason =>
      ninjaoneRebootDevice py client device_id mode reason upstream
  | getOrganizations limit after => ninjaoneGetOrganizations py client limit after upstream
  | getOrganization organization_id => ninjaoneGetOrganization py client organization_id upstream
  | createOrganization name description node_approval_mode tags template_organization_id =>
      ninjaoneCreateOrganization py client name description node_approval_mode tags
        template_organization_id upstream
  | getOrganizationLocations organization_id =>
      ninjaoneGetOrganizationLocations py client organization_id upstream
  | getOrganizationCustomFields organization_id =>
      ninjaoneGetOrganizationCustomFields py client organization_id upstream
  | getOrganizationDevices organization_id limit after =>
      ninjaoneGetOrganizationDevices py client organization_id limit after upstream
  | getTicketBoards => ninjaoneGetTicketBoards py client upstream
  | getTickets board_id status organization_id device_id limit cursor =>
      ninjaoneGetTickets py client board_id status organization_id device_id limit cursor upstream
  | createTicket summary organization_id description device_id location_id ticket_form_id status
      priority severity type =>
      ninjaoneCreateTicket py client summary organization_id description device_id location_id
        ticket_form_id status priority severity type upstream
  | updateTicket ticket_id summary status priority assignee_id comment comment_public =>
      ninjaoneUpdateTicket py client ticket_id summary status priority assignee_id comment
        comment_public upstream
  | getTicketLogEntries ticket_id entry_type =>
      ninjaoneGetTicketLogEntries py client ticket_id entry_type upstream

/-- A tool makes one call, whatever the upstream does with it. -/
theorem run_eq (tool : ApiTool) (py : PyText) (client : NinjaOneClient) :
    ∃ (method path : String) (params : Option (List (String × Json))) (json_body : Option Json)
      (answer : Json → Except Exn Answer), ∀ upstream, tool.run py (some client) upstream =
        (client.request py method path params json_body upstream).answering answer := by
  cases tool <;> exact ⟨_, _, _, _, _, fun _ => rfl⟩

/-- Without a client a tool says so, and sends nothing. -/
theorem run_none (tool : ApiTool) (py : PyText) (upstream : Upstream) :
    tool.run py none upstream = ⟨[], .ok NO_TOKEN⟩ := by
  cases tool <;> rfl

end ApiTool

end NinjaOne
