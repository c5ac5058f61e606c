import NinjaOne.Tools.Automation
import NinjaOne.Tools.Devices
import NinjaOne.Tools.Organizations
import NinjaOne.Tools.Tickets

/-!
How often a mutating tool call takes effect upstream.

For each attempt the environment chooses two things: whether the server applies
the request, and what the client then sees of it. A request may be applied and
still time out. The retry loop looks at the outcome only, and treats every
method alike, so a `POST` goes out again after any network error and any
retryable status: `applied_at_most_once_iff`, and `rebooted_twice`.
-/

namespace NinjaOne

/-- A call of a tool that changes something upstream. -/
inductive MutatingCall where
  | runScriptOnDevice (device_id : Int) (type : String) (script_id : Option Int)
      (action_uid parameters run_as : Option String)
  | rebootDevice (device_id : Int) (mode : String) (reason : Option String)
  | createTicket (summary : String) (organization_id : Int) (description : Option String)
      (device_id location_id ticket_form_id : Option Int)
      (status priority severity type : Option String)
  | createOrganization (name : String) (description node_approval_mode : Option String)
      (tags : Option (List String)) (template_organization_id : Option Int)
  | resetAlert (alert_uid : String) (activity_note : Option String)
  | updateTicket (ticket_id : Int) (summary status priority : Option String)
      (assignee_id : Option Int) (comment : String) (comment_public : Option Bool)

def MutatingCall.run (py : PyText) (client : Option NinjaOneClient) (upstream : Upstream) :
    MutatingCall → ToolRun
  | .runScriptOnDevice device_id type script_id action_uid parameters run_as =>
      ninjaoneRunScriptOnDevice py client device_id type script_id action_uid parameters run_as
        upstream
  | .rebootDevice device_id mode reason =>
      ninjaoneRebootDevice py client device_id mode reason upstream
  | .createTicket summary organization_id description device_id location_id ticket_form_id status
      priority severity type =>
      ninjaoneCreateTicket py client summary organization_id description device_id location_id
        ticket_form_id status priority severity type upstream
  | .createOrganization name description node_approval_mode tags template_organization_id =>
      ninjaoneCreateOrganization py client name description node_approval_mode tags
        template_organization_id upstream
  | .resetAlert alert_uid activity_note =>
      ninjaoneResetAlert py client alert_uid activity_note upstream
  | .updateTicket ticket_id summary status priority assignee_id comment comment_public =>
      ninjaoneUpdateTicket py client ticket_id summary status priority assignee_id (some comment)
        comment_public upstream

/-! ### The environment -/

/-- What happens to one attempt: whether the server applies the request, and
what the client sees. -/
structure Attempt where
  applied : Bool
  outcome : Outcome

/-- The network the client sees under a behaviour of the upstream. -/
def visible (behaviour : Nat → Attempt) : Upstream := fun attempt _ => (behaviour attempt).outcome

/-- How many of a call's attempts the server applied. -/
def appliedCount (behaviour : Nat → Attempt) (run : ToolRun) : Nat :=
  (sends run.events).length.count fun attempt => (behaviour attempt).applied = true

/-! ### One call -/

/-- Every mutating call posts or puts one request, and sends it again as the
retry loop decides. -/
theorem MutatingCall.run_sends (call : MutatingCall) (py : PyText) (client : NinjaOneClient)
    (upstream : Upstream) :
    ∃ req : ClientRequest, (req.method = "POST" ∨ req.method = "PUT") ∧
      sends (call.run py (some client) upstream).events =
        List.replicate (lastAttempt upstream req + 1) req := by
  cases call with
  | updateTicket => exact ⟨_, Or.inr rfl, request_sends py client "PUT" _ _ _ upstream⟩
  | _ => exact ⟨_, Or.inl rfl, request_sends py client "POST" _ _ _ upstream⟩

/-- Without a client nothing is sent. -/
theorem MutatingCall.run_none (call : MutatingCall) (py : PyText) (upstream : Upstream) :
    (call.run py none upstream).events = [] := by
  cases call <;> rfl

/-- **A mutating call takes effect at most once** exactly when no attempt that
the server applied is followed by transient outcomes only, up to another attempt
within the budget that it applies too. -/
theorem applied_at_most_once_iff (call : MutatingCall) (py : PyText)
    (client : Option NinjaOneClient) (behaviour : Nat → Attempt) :
    appliedCount behaviour (call.run py client (visible behaviour)) ≤ 1 ↔
      client = none ∨ ∀ i j, i < j → j ≤ MAX_RETRIES →
        (∀ k < j, (behaviour k).outcome.transient = true) →
        ¬ ((behaviour i).applied = true ∧ (behaviour j).applied = true) := by
  cases client with
  | none =>
      rw [appliedCount, call.run_none]
      exact ⟨fun _ => Or.inl rfl, fun _ => Nat.zero_le _⟩
  | some client =>
      obtain ⟨req, _, sent⟩ := call.run_sends py client (visible behaviour)
      have attempts : lastAttempt (visible behaviour) req =
          Retry.last (fun k => (behaviour k).outcome.transient) MAX_RETRIES := rfl
      rw [appliedCount, sent, List.length_replicate, attempts, Retry.count_le_one_iff]
      simp only [reduceCtorEq, false_or]

/-- A device reboots, the answer gets lost, and it reboots again: the call
reports success. -/
theorem rebooted_twice : ¬ ∀ (call : MutatingCall) (py : PyText) (client : Option NinjaOneClient)
    (behaviour : Nat → Attempt),
    appliedCount behaviour (call.run py client (visible behaviour)) ≤ 1 := by
  intro once
  have twice := once (.rebootDevice 5 "NORMAL" none) .ascii
    (some (.init "t" "https://app.ninjarmm.com")) fun attempt =>
      ⟨true, if attempt = 0 then .requestError ⟨"read timeout"⟩
        else .response ⟨204, [], [], .valueError, ""⟩⟩
  revert twice
  decide

end NinjaOne
