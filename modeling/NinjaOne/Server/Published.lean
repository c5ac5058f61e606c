import NinjaOne.Callbacks.Capability
import NinjaOne.Server.Calls

/-!
What the public can get from a running server.

`/cb/{token}` asks nobody who they are; the token is the credential. What a GET
there is answered with was put there by a tool call, and that was made for a
connection with a token: `published_iff`.
-/

namespace NinjaOne

/-! ### Callback URLs -/

/-- What stands in a URL as one segment of a path, and no empty one. -/
def Segment (token : String) : Prop := token ≠ "" ∧ '/' ∉ token.toList

instance (token : String) : Decidable (Segment token) := inferInstanceAs (Decidable (_ ∧ _))

/-- The route takes the path below the public base URL back to its token. -/
theorem callbackToken_written {token : String} (segment : Segment token) :
    callbackToken ("/cb/" ++ token) = some token := by
  have chars : ("/cb/" ++ token).toList = '/' :: 'c' :: 'b' :: '/' :: token.toList :=
    String.toList_append
  have nonempty : token.toList ≠ [] := fun nil => segment.1 (String.toList_eq_nil_iff.mp nil)
  have taken : "/cb/".toList.isPrefixOf ("/cb/" ++ token).toList = true := by
    rw [chars]
    rfl
  rw [callbackToken, if_pos taken, chars]
  simp only [List.drop_succ_cons, List.drop_zero, nonempty, segment.2, or_self, if_false,
    String.ofList_toList]

namespace Server

variable {d : Deployment} {server server' : Server}

/-- The operations on the store in a run of the server. -/
def storeOps (d : Deployment) (trace : List (ServerEvent × ServerReply)) : List Op :=
  (trace.filterMap (ownOp d.settings)).map Prod.fst

/-- A request to a callback URL. -/
structure Calls (scope : Scope) (method token : String) : Prop where
  type : scope.type = "http"
  method : scope.method = method
  path : scope.path = "/cb/" ++ token

theorem callbackRequest_of_calls {scope : Scope} {method token : String}
    (calls : Calls scope method token) (segment : Segment token)
    (listed : Method.ofName method = .get ∨ Method.ofName method = .post) (body : List UInt8) :
    ∃ request, callbackRequest scope body = some request ∧
      request.method = Method.ofName method ∧ request.token = token ∧ request.body = body ∧
      request.content_type = scope.header "content-type" := by
  have taken : scope.type = "http" ∧ Method.ofName scope.method ∈ routeMethods [.get, .post] := by
    rw [calls.method]
    rcases listed with get | post
    · rw [get]
      exact ⟨calls.type, by decide⟩
    · rw [post]
      exact ⟨calls.type, by decide⟩
  have head : Method.ofName scope.method ≠ .head := by
    rw [calls.method]
    rcases listed with get | post
    · rw [get]
      decide
    · rw [post]
      decide
  rw [callbackRequest, calls.path, callbackToken_written segment]
  simp only [dif_pos taken]
  exact ⟨_, rfl, congrArg Method.ofName calls.method, rfl, if_neg head, rfl⟩

theorem route_of_calls (enabled : d.settings.enable_script_execution = true) {scope : Scope}
    {method token : String} (calls : Calls scope method token) (segment : Segment token)
    (listed : Method.ofName method = .get ∨ Method.ofName method = .post) (body : List UInt8) :
    ∃ request, route d.settings scope body = .callback request ∧
      request.method = Method.ofName method ∧ request.token = token ∧ request.body = body ∧
      request.content_type = scope.header "content-type" := by
  have not_health : scope.path ≠ "/health" := by
    intro path
    have chars := congrArg String.toList (calls.path.symm.trans path)
    simp [String.toList_append] at chars
  obtain ⟨request, made, carried⟩ := callbackRequest_of_calls calls segment listed body
  refine ⟨request, ?_, carried⟩
  rw [route, if_neg fun health => not_health health.2.1, if_pos enabled, made]

/-- A GET of a callback URL is answered with what the store has for the token. -/
theorem step_of_gets (enabled : d.settings.enable_script_execution = true) {scope : Scope}
    {token : String} (gets : Calls scope "GET" token) (segment : Segment token)
    (initial : Option GatewayCreds) (body : List UInt8) (now : Time) :
    server.step d (.connect scope initial body now) =
      some (server, .stored (.body (server.service.store.getBody now token))) := by
  obtain ⟨request, routed, method, rfl, _⟩ := route_of_calls enabled gets segment (.inl rfl) body
  have op : request.op now = .getBody now request.token := if_pos method
  simp only [step, routed, op, operate, NinjaOne.step, Option.map_some]

theorem response_plainText_iff {found : Option String} {text : String} :
    (Reply.body found).response = some (plainText text) ↔ found = some text := by
  cases found with
  | none => simp [Reply.response, plainText, notFound]
  | some text' => simp [Reply.response, plainText]

/-- A tool call that put `text` at a token, which is still good at `now`. -/
def PublishedBy (d : Deployment) (trace : List (ServerEvent × ServerReply)) (t : Nat)
    (token : String) (now : Time) (text : String) : Prop :=
  ∃ before purged created drawn ttl_seconds stored after,
    trace = before ++
      (.callbackCall t (.createPair purged created drawn text ttl_seconds), .stored stored) ::
        after ∧
    drawn.get_token = token ∧ now < created + clampTtl ttl_seconds ∧
    ∀ op ∈ storeOps d after, ¬ op.revokes drawn.pair_id

theorem storeOps_eq (trace : List (ServerEvent × ServerReply)) :
    storeOps d trace = trace.filterMap fun entry => (ownOp d.settings entry).map Prod.fst := by
  rw [storeOps, List.map_filterMap]

/-- Only a call of `ninjaone_callback_create_pair` creates a pair. -/
theorem create_of_ownOp {entry : ServerEvent × ServerReply} {purged created : Time} {drawn : Drawn}
    {text : String} {ttl_seconds : Int}
    (own : (ownOp d.settings entry).map Prod.fst =
      some (.create purged created drawn text ttl_seconds)) :
    ∃ t stored, entry =
      (.callbackCall t (.createPair purged created drawn text ttl_seconds), .stored stored) := by
  obtain ⟨⟨op, stored⟩, found, create⟩ := Option.map_eq_some_iff.mp own
  change op = _ at create
  subst create
  obtain ⟨event, reply⟩ := entry
  cases reply with
  | stored reply =>
      cases event with
      | connect scope initial body now =>
          simp only [ownOp] at found
          split at found
          · rename_i request _
            have op := (Prod.mk.inj (Option.some.inj found)).1
            unfold CallbackRequest.op at op
            split at op <;> cases op
          · cases found
      | callbackCall t tool =>
          obtain ⟨op, given, same⟩ := Option.map_eq_some_iff.mp found
          cases same
          cases tool with
          | createPair purged' created' drawn' text' ttl_seconds' =>
              simp only [CallbackTool.op] at given
              split at given
              · cases given
              · cases given
                exact ⟨t, stored, rfl⟩
          | wait => cases given
          | expire => cases given
      | waitEnd wait readings timed_out => cases found
      | _ => cases found
  | _ => cases event <;> cases found

/-- A call that created a pair is a `create` of the store. -/
theorem ownOp_of_created {trace before after : List (ServerEvent × ServerReply)} {t : Nat}
    {purged created : Time} {drawn : Drawn} {text : String} {ttl_seconds : Int} {stored : Reply}
    (run : Run (step d) .empty trace server)
    (split : trace = before ++ (.callbackCall t (.createPair purged created drawn text ttl_seconds),
      .stored stored) :: after) :
    ownOp d.settings
      (.callbackCall t (.createPair purged created drawn text ttl_seconds), .stored stored) =
        some (.create purged created drawn text ttl_seconds, stored) := by
  subst split
  obtain ⟨middle, _, rest⟩ := run.split
  cases rest with
  | cons taken _ =>
      obtain ⟨_, _, ⟨_, _, same⟩ | ⟨op, given, _⟩⟩ := callbackCall_cases taken
      · cases same
      · have create : op = .create purged created drawn text ttl_seconds := by
          simp only [CallbackTool.op] at given
          split at given
          · cases given
          · exact (Option.some.inj given).symm
        rw [ownOp, given, create]
        rfl

theorem issued_iff {trace : List (ServerEvent × ServerReply)}
    (run : Run (step d) .empty trace server) {token : String} {now : Time} {text : String} :
    Issued (storeOps d trace) .get token now text ↔ ∃ t, PublishedBy d trace t token now text := by
  constructor
  · rintro ⟨before, purged, created, drawn, ttl_seconds, after, split, own, fresh, kept⟩
    rw [storeOps_eq] at split
    obtain ⟨l₁, l₂, rfl, _, rest⟩ := List.filterMap_eq_append_iff.mp split
    obtain ⟨skipped, entry, later, rfl, _, made, rfl⟩ := List.filterMap_eq_cons_iff.mp rest
    obtain ⟨t, stored, rfl⟩ := create_of_ownOp made
    refine ⟨t, l₁ ++ skipped, purged, created, drawn, ttl_seconds, stored, later,
      (List.append_assoc _ _ _).symm, own, fresh, ?_⟩
    rw [storeOps_eq]
    exact kept
  · rintro ⟨t, before, purged, created, drawn, ttl_seconds, stored, after, split, own, fresh, kept⟩
    refine ⟨storeOps d before, purged, created, drawn, ttl_seconds, storeOps d after, ?_, own,
      fresh, kept⟩
    rw [storeOps, storeOps, storeOps, split, List.filterMap_append,
      List.filterMap_cons_some (ownOp_of_created run split), List.map_append, List.map_cons]

/-- **A public URL serves what an authorized caller put there**: in any state of
the server, a GET of it is answered with a text exactly when a tool call put this
text there, for a connection with a token, its lifetime is not over, and the pair
has not been expired since. -/
theorem published_iff (guarded : d.Guarded) (enabled : d.settings.enable_script_execution = true)
    {trace : List (ServerEvent × ServerReply)} (run : Run (step d) .empty trace server)
    (fresh : Fresh (storeOps d trace)) {scope : Scope} {token : String}
    (gets : Calls scope "GET" token) (segment : Segment token) (initial : Option GatewayCreds)
    (body : List UInt8) {now : Time}
    (timed : Timed (storeOps d trace ++ [.getBody now token])) (text : String) :
    (∃ server' reply, server.step d (.connect scope initial body now) =
        some (server', .stored reply) ∧ reply.response = some (plainText text)) ↔
      ∃ t, PublishedBy d trace t token now text ∧
        ∃ scope creds, server.gate.scopeOf t = some scope ∧ scope.creds = some creds := by
  have stored := getBody_iff_issued (service_run run) fresh timed text
  rw [← storeOps, issued_iff run] at stored
  rw [step_of_gets enabled gets segment]
  constructor
  · rintro ⟨_, _, ⟨rfl, rfl⟩, answered⟩
    obtain ⟨t, published⟩ := stored.mp (response_plainText_iff.mp answered)
    refine ⟨t, published, ?_⟩
    obtain ⟨_, _, _, _, _, _, _, split, _⟩ := published
    exact callers_authorized guarded run _
      (split ▸ List.mem_append_right _ List.mem_cons_self) t rfl
  · rintro ⟨t, published, _⟩
    exact ⟨_, _, rfl, response_plainText_iff.mpr (stored.mpr ⟨t, published⟩)⟩

/-- A deployment with callback URLs. -/
def scriptDeployment : Deployment :=
  { readerDeployment with settings := ⟨true, "https://mcp.example/ninjaone/"⟩ }

def publishedDrawn : Drawn := ⟨"p", "g", "t"⟩

/-- One call of `ninjaone_callback_create_pair`. -/
def publishTrace : List (ServerEvent × ServerReply) :=
  [(.connect euScope none [] 0, .done), (.enter 0, .done),
    (.callbackCall 0 (.createPair 0 0 publishedDrawn "payload" 600),
      .stored (.created (publishedDrawn.pair "payload" 600 0 0)))]

def publishServer : Server where
  gate := ⟨[⟨euScope, 0, none, .inside none⟩], [⟨0, some euCreds⟩]⟩
  service := ⟨(Store.empty.create 0 0 publishedDrawn "payload" 600).1, []⟩
  flights := []

theorem publish_run : Run (step scriptDeployment) .empty publishTrace publishServer :=
  .cons rfl (.cons rfl (.cons rfl (.nil _)))

theorem payload_published :
    (∃ server' reply, publishServer.step scriptDeployment
        (.connect ⟨"http", "GET", "/cb/g", []⟩ none [] 1) = some (server', .stored reply) ∧
        reply.response = some (plainText "payload")) ↔
      ∃ t, PublishedBy scriptDeployment publishTrace t "g" 1 "payload" ∧
        ∃ scope creds, publishServer.gate.scopeOf t = some scope ∧ scope.creds = some creds :=
  @published_iff scriptDeployment _ readerDeployment_guarded rfl _ publish_run (by decide) _ "g"
    ⟨rfl, rfl, rfl⟩ (by decide) none [] 1 (by
      have ops : storeOps scriptDeployment publishTrace =
          [.create 0 0 publishedDrawn "payload" 600] := rfl
      norm_num [ops, Timed, Op.readings]) "payload"

end Server

end NinjaOne
