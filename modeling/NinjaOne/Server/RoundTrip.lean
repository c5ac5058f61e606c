import NinjaOne.Answers
import NinjaOne.Callbacks.Alone
import NinjaOne.Callbacks.Awaited
import NinjaOne.Callbacks.Wait
import NinjaOne.Server.Published

/-!
A script run, from the answer that has its URLs to the answer that has its result.

The agent has nothing but texts: it reads two URLs out of the answer of
`ninjaone_callback_create_pair`, and later a result out of the answer of
`ninjaone_callback_wait`.

* `created_urls_serve`: the URLs it reads serve its payload and take its result.
* `waited_reads_posted`: the result it reads is the body that the script sent to
  the pair's own URL last.
* `expired_reads_held`: what it reads of a pair it has expired is whether the
  server still held it.
-/

namespace NinjaOne

open JsonReader

variable {readFloat : String → Option PyFloat}

/-! ### Reading the answers -/

/-- An answer that is not shortened is read back as it was. -/
theorem read_of_fits {data : Json} (genuine : Genuine readFloat data)
    (fits : size data ≤ MAX_CHARS) :
    readJson readFloat (dumpJsonCapped data).text = some data := by
  rw [dumpJsonCapped_of_le (Int.ofNat_le.mpr fits)]
  exact readJson_compact_of_genuine genuine

theorem genuine_ofStr? (s : Option String) : Genuine readFloat (.ofStr? s) := by
  cases s with
  | none => exact .null
  | some s => exact .str s

theorem genuine_resultEntry (p : String) (r : StatusReply) :
    Genuine readFloat (resultEntry p r) := by
  have recorded : ∀ (status : String) (content_type body : Option String),
      Genuine readFloat (.obj [("pair_id", .str p), ("status", .str status),
        ("content_type", .ofStr? content_type), ("body", .ofStr? body)]) :=
    fun _ _ _ => genuine_cons (by simp) (.str _) (genuine_cons (by simp) (.str _)
      (genuine_cons (by simp) (genuine_ofStr? _) (genuine_singleton (genuine_ofStr? _))))
  cases r with
  | received content_type body => exact recorded _ _ _
  | malformed content_type body => exact recorded _ _ _
  | pending expires_at =>
      exact genuine_cons (by simp [StatusReply.fields]) (.str _)
        (genuine_cons (by simp) (.str _) (genuine_singleton (.int _)))
  | _ => exact genuine_cons (by simp [StatusReply.fields]) (.str _) (genuine_singleton (.str _))

theorem genuine_resultEntries (results : List (String × StatusReply)) :
    Genuine readFloat (.obj [("results", .arr (resultEntries results))]) :=
  genuine_singleton (.arr (List.forall_mem_map.mpr fun _ _ => genuine_resultEntry _ _))

namespace Server

variable {d : Deployment} {server server' : Server}

/-! ### What was posted -/

/-- The POST that a step of the server accepts on `token`: the body and the content
type of the request. -/
def postedTo (settings : Settings) (token : String) : ServerEvent × ServerReply → Option Accepted
  | (.connect scope _ body _, .stored (.receive (.returned true))) =>
      match route settings scope body with
      | .callback request =>
          if request.method ≠ .get ∧ request.token = token then
            some ⟨request.body, request.content_type⟩
          else none
      | _ => none
  | _ => none

/-- The last one of a run. -/
def lastPosted (settings : Settings) (token : String)
    (trace : List (ServerEvent × ServerReply)) : Option Accepted :=
  (trace.filterMap (postedTo settings token)).getLast?

theorem stored_of_ownOp {settings : Settings} {entry : ServerEvent × ServerReply} {op : Op}
    {stored : Reply} (own : ownOp settings entry = some (op, stored)) :
    entry.2 = .stored stored := by
  unfold ownOp at own
  split at own
  · split at own
    · cases own
      rfl
    · cases own
  · obtain ⟨_, _, same⟩ := Option.map_eq_some_iff.mp own
    cases same
    rfl
  · cases own
    rfl
  · cases own

theorem postedTo_of_refused {settings : Settings} {token : String}
    {entry : ServerEvent × ServerReply}
    (refused : entry.2 ≠ .stored (.receive (.returned true))) :
    postedTo settings token entry = none := by
  unfold postedTo
  split
  · exact absurd rfl refused
  · rfl

theorem acceptedBy_of_refused {settings : Settings} {token : String}
    {entry : ServerEvent × ServerReply}
    (refused : entry.2 ≠ .stored (.receive (.returned true))) :
    (ownOp settings entry).bind (acceptedBy token) = none := by
  cases own : ownOp settings entry with
  | none => rfl
  | some done =>
      obtain ⟨op, stored⟩ := done
      have reply : entry.2 = .stored stored := stored_of_ownOp own
      rw [Option.bind_some]
      unfold acceptedBy
      split
      · rename_i same
        exact absurd (reply.trans (congrArg ServerReply.stored (Prod.mk.inj same).2)) refused
      · rfl

/-- What the store accepts is what a connection has posted. -/
theorem acceptedBy_ownOp (settings : Settings) (token : String)
    (entry : ServerEvent × ServerReply) :
    (ownOp settings entry).bind (acceptedBy token) = postedTo settings token entry := by
  by_cases accepted : entry.2 = .stored (.receive (.returned true))
  · obtain ⟨event, reply⟩ := entry
    change reply = _ at accepted
    subst accepted
    cases event with
    | connect scope initial body now =>
        cases routed : route settings scope body with
        | callback request =>
            simp only [ownOp, postedTo, routed, Option.bind_some, CallbackRequest.op]
            by_cases get : request.method = .get
            · simp only [get, if_true, ne_eq, not_true, false_and, if_false]
              rfl
            · simp only [get, if_false, ne_eq, not_false_eq_true, true_and]
              rfl
        | _ =>
            simp only [ownOp, postedTo, routed]
            rfl
    | callbackCall t tool =>
        cases tool with
        | createPair =>
            simp only [ownOp, CallbackTool.op]
            split <;> rfl
        | _ => rfl
    | _ => rfl
  · rw [postedTo_of_refused accepted, acceptedBy_of_refused accepted]

theorem lastAccepted_own (settings : Settings) (token : String)
    (trace : List (ServerEvent × ServerReply)) :
    lastAccepted token (trace.filterMap (ownOp settings)) = lastPosted settings token trace := by
  rw [lastAccepted, lastPosted, List.filterMap_filterMap]
  exact congrArg List.getLast? (List.filterMap_congr fun entry _ =>
    acceptedBy_ownOp settings token entry)

/-! ### The URLs of a script -/

theorem ofName_post : Method.ofName "POST" = .post := rfl

/-- A POST to a callback URL makes the store receive its body. -/
theorem step_of_posts (enabled : d.settings.enable_script_execution = true) {scope : Scope}
    {token : String} (posts : Calls scope "POST" token) (segment : Segment token)
    (initial : Option GatewayCreds) (body : List UInt8) (now : Time) :
    server.step d (.connect scope initial body now) =
      server.operate d (.receive now token body (scope.header "content-type")) := by
  obtain ⟨request, routed, method, rfl, rfl, content_type⟩ :=
    route_of_calls enabled posts segment (.inr rfl) body
  have not_get : request.method ≠ .get := by
    rw [method, ofName_post]
    decide
  have op : request.op now =
      .receive now request.token request.body (scope.header "content-type") := by
    rw [CallbackRequest.op, if_neg not_get, content_type]
  simp only [step, routed, op]

/-- The operations of the store, around the creation of a pair. -/
theorem own_split {trace before after : List (ServerEvent × ServerReply)} {t : Nat}
    {purged created : Time} {drawn : Drawn} {text : String} {ttl_seconds : Int} {stored : Reply}
    (run : Run (step d) .empty trace server)
    (split : trace = before ++ (.callbackCall t (.createPair purged created drawn text ttl_seconds),
      .stored stored) :: after) :
    trace.filterMap (ownOp d.settings) = before.filterMap (ownOp d.settings) ++
      (.create purged created drawn text ttl_seconds, stored) ::
        after.filterMap (ownOp d.settings) := by
  have own := ownOp_of_created run split
  rw [split, List.filterMap_append, List.filterMap_cons_some own]

/-- A created pair has the strings drawn for it. -/
theorem created_pair {trace before after : List (ServerEvent × ServerReply)} {t : Nat}
    {purged created : Time} {drawn : Drawn} {text : String} {ttl_seconds : Int} {pair : Pair}
    (run : Run (step d) .empty trace server)
    (split : trace = before ++ (.callbackCall t (.createPair purged created drawn text ttl_seconds),
      .stored (.created pair)) :: after) :
    ∃ done, pair = drawn.pair text ttl_seconds created done := by
  have stored := service_run run
  rw [own_split run split] at stored
  obtain ⟨_, _, rest⟩ := stored.split
  cases rest with
  | cons taken _ =>
      cases taken
      exact ⟨_, rfl⟩

/-- The pair is good: its lifetime is not over, and it has not been expired. -/
structure Good (d : Deployment) (after : List (ServerEvent × ServerReply)) (pair_id : String)
    (deadline now : Time) : Prop where
  early : now < deadline
  kept : ∀ op ∈ storeOps d after, ¬ op.revokes pair_id

section Created

variable {trace before after : List (ServerEvent × ServerReply)} {t : Nat} {purged created : Time}
  {drawn : Drawn} {text : String} {ttl_seconds : Int} {stored : Reply} {now : Time}

/-- Both its tokens give access to it as long as it is good, and to nothing after. -/
theorem live_iff_good (run : Run (step d) .empty trace server) (fresh : Fresh (storeOps d trace))
    (split : trace = before ++ (.callbackCall t (.createPair purged created drawn text ttl_seconds),
      .stored stored) :: after)
    (latest : ∀ reading ∈ (storeOps d trace).flatMap Op.readings, reading ≤ now) (kind : Kind) :
    (Good d after drawn.pair_id (created + clampTtl ttl_seconds) now → ∃ pair,
      server.service.store.livePairFor now (drawn.token kind) kind = some pair ∧
        pair.body = text) ∧
    (¬ Good d after drawn.pair_id (created + clampTtl ttl_seconds) now →
      server.service.store.livePairFor now (drawn.token kind) kind = none) := by
  have own := own_split run split
  have history := service_run run
  rw [storeOps, own] at fresh
  rw [storeOps, own, ops_split, List.flatMap_append, List.flatMap_cons] at latest
  rw [own] at history
  obtain ⟨l, refines, mem⟩ := refines_followed history fresh
  have same := @followed_same d.loads (before.filterMap (ownOp d.settings))
    (after.filterMap (ownOp d.settings)) created drawn text ttl_seconds
  have good : (followed d.loads (before.filterMap (ownOp d.settings)) created drawn text ttl_seconds
      (after.filterMap (ownOp d.settings))).live now = true ↔
        Good d after drawn.pair_id (created + clampTtl ttl_seconds) now := by
    rw [followed, entryAfter, Entry.live_foldl, Entry.live_iff]
    · constructor
      · intro live
        exact ⟨live.1.2, live.2⟩
      · intro good
        exact ⟨⟨rfl, good.early⟩, good.kept⟩
    · intro reading later
      exact latest reading (List.mem_append_right _ (List.mem_append_right _ later))
  generalize followed d.loads _ created drawn text ttl_seconds _ = e at mem same good
  have token : e.pair.token kind = drawn.token kind := by
    rw [same.token kind]
    cases kind <;> rfl
  have live := livePairFor_of_mem refines mem now kind
  rw [token] at live
  rw [live, ← good]
  constructor
  · intro is_good
    exact ⟨e.pair, if_pos is_good, same.body⟩
  · intro not_good
    exact if_neg not_good

end Created

/-- What the two URLs of a pair do: one serves its payload and the other takes a
result as long as the pair is good, and both are not found after. -/
structure UrlsServe (d : Deployment) (server : Server) (get_path post_path text : String)
    (good : Prop) (now : Time) : Prop where
  get : ∀ (scope : Scope) (initial : Option GatewayCreds) (body : List UInt8),
    scope.type = "http" → scope.method = "GET" → scope.path = get_path → ∃ reply,
      server.step d (.connect scope initial body now) = some (server, .stored reply) ∧
        (good → reply.response = some (plainText text)) ∧
        (¬ good → reply.response = some notFound)
  post : ∀ (scope : Scope) (initial : Option GatewayCreds) (body : List UInt8),
    scope.type = "http" → scope.method = "POST" → scope.path = post_path → ∃ server' reply,
      server.step d (.connect scope initial body now) = some (server', .stored reply) ∧
        (good → d.loads (Utf8.decodeReplace body) ≠ .recursionError →
          reply.response = some okResponse) ∧
        (¬ good → server' = server ∧ reply.response = some notFound)

/-- **The URLs an agent reads serve its script**: the answer to the creation of a
pair reads as two URLs, and at any later time the paths that they have below the
public base URL serve the payload and take a result, exactly as long as the pair's
lifetime is not over and it has not been expired. -/
theorem created_urls_serve (enabled : d.settings.enable_script_execution = true)
    {trace before after : List (ServerEvent × ServerReply)} {t : Nat} {purged created : Time}
    {drawn : Drawn} {text : String} {ttl_seconds : Int} {pair : Pair}
    (run : Run (step d) .empty trace server) (fresh : Fresh (storeOps d trace))
    (split : trace = before ++ (.callbackCall t (.createPair purged created drawn text ttl_seconds),
      .stored (.created pair)) :: after)
    (get : Segment drawn.get_token) (post : Segment drawn.post_token) (isoformat : Time → String)
    (fits : size (.obj (createdFields isoformat d.settings.callback_public_base_url pair)) ≤
      MAX_CHARS) (readFloat : String → Option PyFloat) :
    ∃ data get_path post_path,
      readJson readFloat (createAnswer isoformat d.settings.callback_public_base_url pair).text =
        some data ∧
      data.field "get_url" =
        .str (rstripSlash d.settings.callback_public_base_url ++ get_path) ∧
      data.field "post_url" =
        .str (rstripSlash d.settings.callback_public_base_url ++ post_path) ∧
      ∀ now, (∀ reading ∈ (storeOps d trace).flatMap Op.readings, reading ≤ now) →
        UrlsServe d server get_path post_path text
          (Good d after drawn.pair_id (created + clampTtl ttl_seconds) now) now := by
  obtain ⟨done, rfl⟩ := created_pair run split
  have genuine : Genuine readFloat (.obj (createdFields isoformat
      d.settings.callback_public_base_url (drawn.pair text ttl_seconds created done))) :=
    genuine_cons (by simp) (.str _) (genuine_cons (by simp) (.str _)
      (genuine_cons (by simp) (.str _) (genuine_singleton (.str _))))
  refine ⟨_, "/cb/" ++ drawn.get_token, "/cb/" ++ drawn.post_token, read_of_fits genuine fits,
    congrArg Json.str String.append_assoc, congrArg Json.str String.append_assoc, ?_⟩
  intro now latest
  constructor
  · intro scope initial body http method path
    obtain ⟨found, lost⟩ := live_iff_good run fresh split latest .get
    refine ⟨_, step_of_gets enabled ⟨http, method, path⟩ get initial body now, ?_, ?_⟩
    · intro good
      rw [response_plainText_iff]
      exact Option.map_eq_some_iff.mpr (found good)
    · intro not_good
      have none : server.service.store.livePairFor now drawn.get_token .get = none := lost not_good
      rw [Store.getBody, none]
      rfl
  · intro scope initial body http method path
    have live := live_iff_good run fresh split latest .post
    change
      (_ → ∃ pair, server.service.store.livePairFor now drawn.post_token .post = some pair ∧ _) ∧
      (_ → server.service.store.livePairFor now drawn.post_token .post = none) at live
    obtain ⟨found, lost⟩ := live
    refine ⟨_, _, (step_of_posts enabled ⟨http, method, path⟩ post initial body now).trans rfl,
      ?_, ?_⟩
    · intro good parses
      obtain ⟨pair, live, _⟩ := found good
      obtain ⟨recorded, _, done⟩ :=
        @receive_accepted _ _ _ _ _ (scope.header "content-type") _ live parses
      change (Reply.receive (Store.receive ..).2).response = _
      rw [done]
      rfl
    · intro not_good
      have refused := @receive_refused d.loads _ _ _ body (scope.header "content-type")
        (lost not_good)
      change ({ server with service := { server.service with store := (Store.receive ..).1 } } :
        Server) = _ ∧ (Reply.receive (Store.receive ..).2).response = _
      rw [refused]
      exact ⟨rfl, rfl⟩

theorem payload_urls_serve :
    ∃ data get_path post_path,
      readJson (fun _ => none) (createAnswer (fun _ => "1970-01-01T00:10:00+00:00")
        "https://mcp.example/ninjaone/" (publishedDrawn.pair "payload" 600 0 0)).text = some data ∧
      data.field "get_url" = .str (rstripSlash "https://mcp.example/ninjaone/" ++ get_path) ∧
      data.field "post_url" = .str (rstripSlash "https://mcp.example/ninjaone/" ++ post_path) ∧
      ∀ now, (∀ reading ∈ (storeOps scriptDeployment publishTrace).flatMap Op.readings,
        reading ≤ now) → UrlsServe scriptDeployment publishServer get_path post_path "payload"
          (Good scriptDeployment [] "p" (0 + clampTtl 600) now) now := by
  have split : publishTrace = [(.connect euScope none [] 0, .done), (.enter 0, .done)] ++
      (.callbackCall 0 (.createPair 0 0 publishedDrawn "payload" 600),
        .stored (.created (publishedDrawn.pair "payload" 600 0 0))) :: [] := rfl
  exact created_urls_serve (d := scriptDeployment) rfl publish_run (by decide) split (by decide)
    (by decide) (fun _ => "1970-01-01T00:10:00+00:00") (by decide +kernel) fun _ => none

/-! ### The result of a script -/

/-- **A script's result is read where it was posted**: when a wait ends and its
entries fit, its answer reads as one entry for each pair asked about, and the
entry of a pair that no purge has forgotten is what was posted last to the pair's
own URL, or else how its deadline stands. -/
theorem waited_reads_posted {trace : List (ServerEvent × ServerReply)}
    (run : Run (step d) .empty trace server) (fresh : Fresh (storeOps d trace)) {wait : Nat}
    {call : Wait} (open_wait : server.service.waits[wait]? = some (some call))
    {readings : List Time} {timed_out : Bool} {results : List (String × StatusReply)}
    (ends : server.step d (.waitEnd wait readings timed_out) =
      some (server', .stored (.waited results)))
    (fits : size (.obj [("results", .arr (resultEntries results))]) ≤ MAX_CHARS)
    (readFloat : String → Option PyFloat) :
    ∃ data entries, readJson readFloat (waitAnswer results).text = some data ∧
      data.field "results" = .arr entries ∧
      ∀ before t purged created drawn text ttl_seconds stored after,
        trace = before ++ (.callbackCall t (.createPair purged created drawn text ttl_seconds),
          .stored stored) :: after →
        drawn.pair_id ∈ call.pair_ids →
        ¬ PurgedSince drawn.pair_id (created + clampTtl ttl_seconds) (storeOps d after) →
        ∃ now ∈ readings, entries.filter (entryFor drawn.pair_id) =
          [resultEntry drawn.pair_id (reported d.loads (deadlineAfter drawn.pair_id
            (created + clampTtl ttl_seconds) (storeOps d after)) now
            (lastPosted d.settings drawn.post_token after))] := by
  refine ⟨_, _, read_of_fits (genuine_resultEntries results) fits, rfl, ?_⟩
  obtain ⟨_, _, ended, _, same⟩ := operate_cases ends
  obtain ⟨call', found, _, length, _, waited⟩ := step_waitEnd ended
  rw [open_wait] at found
  obtain rfl := Option.some.inj (Option.some.inj found)
  cases same
  obtain rfl := Reply.waited.inj waited
  have once := statuses_once (s := server.service.store) length
  intro before t purged created drawn text ttl_seconds stored after split asked kept
  obtain ⟨⟨p, r⟩, mem, own_id⟩ := List.mem_map.mp ((once.asked _).mpr asked)
  change p = _ at own_id
  subst own_id
  have reflects := reflectsHeld_statuses (service_run run) fresh call.pair_ids readings
  obtain ⟨now, read, reports⟩ :=
    reflects.held _ _ _ _ _ _ _ _ _ (own_split run split) kept mem
  refine ⟨now, (List.of_mem_zip read).2, ?_⟩
  rw [filter_resultEntries, Dict.filter_key once.nodup mem, reports, lastAccepted_own]
  rfl

/-- A pair asked about, created, and posted to. -/
def postTrace : List (ServerEvent × ServerReply) :=
  [(.connect euScope none [] 0, .done), (.enter 0, .done),
    (.callbackCall 0 (.wait 0 0 ["p"] 30), .stored (.waiting 0)),
    (.callbackCall 0 (.createPair 0 0 publishedDrawn "payload" 600),
      .stored (.created (publishedDrawn.pair "payload" 600 0 0))),
    (.connect ⟨"http", "POST", "/cb/t", []⟩ none [0x6F, 0x6B] 1,
      .stored (.receive (.returned true)))]

def postServer : Server where
  gate := publishServer.gate
  service := ⟨(onePairWith okPair).store, [some ⟨["p"], clampWait 30, []⟩]⟩
  flights := []

theorem post_run : Run (step scriptDeployment) .empty postTrace postServer := by
  have posted := onePair_receive (by norm_num : (1 : Time) < 600) okPair_records
  have taken : ({ postServer with service := { postServer.service with
        store := onePairService.store } } : Server).step scriptDeployment
      (.connect ⟨"http", "POST", "/cb/t", []⟩ none [0x6F, 0x6B] 1) =
        some (postServer, .stored (.receive (.returned true))) := by
    rw [step_of_posts rfl ⟨rfl, rfl, rfl⟩ (by decide : Segment "t"), operate, NinjaOne.step]
    change Option.map _ (some (({ postServer.service with
      store := (onePairService.store.receive (fun _ => .valueError) 1 "t" [0x6F, 0x6B] none).1 } :
        Service), Reply.receive
          (onePairService.store.receive (fun _ => .valueError) 1 "t" [0x6F, 0x6B] none).2)) = _
    rw [posted]
    rfl
  exact .cons rfl (.cons rfl (.cons rfl (.cons rfl (.cons taken (.nil _)))))

theorem ok_read_back : ∃ data entries,
    readJson (fun _ => none) (waitAnswer (postServer.service.store.statuses ["p"] [2])).text =
      some data ∧ data.field "results" = .arr entries ∧
    ∃ now ∈ ([2] : List Time), entries.filter (entryFor "p") =
      [resultEntry "p" (reported (fun _ => .valueError) (deadlineAfter "p" (0 + clampTtl 600)
        (storeOps scriptDeployment (postTrace.drop 4))) now
        (lastPosted scriptDeployment.settings "t" (postTrace.drop 4)))] := by
  have split : postTrace = postTrace.take 3 ++
      (.callbackCall 0 (.createPair 0 0 publishedDrawn "payload" 600),
        .stored (.created (publishedDrawn.pair "payload" 600 0 0))) :: postTrace.drop 4 := rfl
  obtain ⟨data, entries, read, results, each⟩ := waited_reads_posted post_run (by decide) rfl
    (rfl : postServer.step scriptDeployment (.waitEnd 0 [2] false) =
      some (_, .stored (.waited _))) (by decide) fun _ => none
  refine ⟨data, entries, read, results, each _ _ _ _ _ _ _ _ _ split List.mem_cons_self ?_⟩
  rintro ⟨earlier, op, later, purged, ops, purges, _⟩
  have own : op ∈ [Op.receive 1 "t" [0x6F, 0x6B] none] := by
    have all : storeOps scriptDeployment (postTrace.drop 4) =
        [.receive 1 "t" [0x6F, 0x6B] none] := rfl
    rw [← all, ops]
    exact List.mem_append_right _ List.mem_cons_self
  rw [List.mem_singleton.mp own] at purges
  cases purges

/-! ### What has been expired -/

/-- What `expire` answers for an id. -/
def heldReply (s : Store) (p : String) : ExpireReply :=
  match s.pairs.get p with
  | none => .unknown
  | some _ => .expired

/-- There is one reply for each id. -/
theorem filter_expire (s : Store) (now : Time) {pair_ids : List String} {p : String}
    (asked : p ∈ pair_ids) :
    (s.expire now pair_ids).2.filter (fun result => result.1 = p) = [(p, heldReply s p)] := by
  have results : (s.expire now pair_ids).2 = (pair_ids.map fun p => (p, heldReply s p)).foldl
      (fun out entry => Dict.assign entry.1 entry.2 out) [] := by
    rw [List.foldl_map]
    rfl
  rw [results]
  exact Dict.filter_foldl_assign (heldReply s) asked

theorem entryFor_expireEntry (p q : String) (r : ExpireReply) :
    entryFor p (expireEntry q r) = decide (q = p) := rfl

theorem filter_expireEntries (p : String) (results : List (String × ExpireReply)) :
    (expireEntries results).filter (entryFor p) =
      expireEntries (results.filter fun result => result.1 = p) := by
  have same : (entryFor p ∘ fun result : String × ExpireReply => expireEntry result.1 result.2) =
      fun result => decide (result.1 = p) :=
    funext fun result => entryFor_expireEntry p result.1 result.2
  rw [expireEntries, List.filter_map, same]
  rfl

theorem genuine_expireEntries (results : List (String × ExpireReply)) :
    Genuine readFloat (.obj [("results", .arr (expireEntries results))]) :=
  genuine_singleton (.arr (List.forall_mem_map.mpr fun _ _ =>
    genuine_cons (by simp) (.str _) (genuine_singleton (.str _))))

/-- A pair is held until it is purged. -/
theorem heldReply_iff {trace before after : List (ServerEvent × ServerReply)} {t : Nat}
    {purged created : Time} {drawn : Drawn} {text : String} {ttl_seconds : Int} {stored : Reply}
    (run : Run (step d) .empty trace server) (fresh : Fresh (storeOps d trace))
    (split : trace = before ++ (.callbackCall t (.createPair purged created drawn text ttl_seconds),
      .stored stored) :: after) :
    (heldReply server.service.store drawn.pair_id).status = "unknown" ↔
      PurgedSince drawn.pair_id (created + clampTtl ttl_seconds) (storeOps d after) := by
  have own := own_split run split
  have history := service_run run
  rw [storeOps, own] at fresh
  rw [own] at history
  have held := followed_get history fresh
  have forgotten : (followed d.loads (before.filterMap (ownOp d.settings)) created drawn text
      ttl_seconds (after.filterMap (ownOp d.settings))).forgotten = true ↔
        PurgedSince drawn.pair_id (created + clampTtl ttl_seconds) (storeOps d after) :=
    Entry.forgotten_foldl_iff d.loads (storeOps d after) rfl
  rw [← forgotten, heldReply, held]
  cases (followed d.loads (before.filterMap (ownOp d.settings)) created drawn text ttl_seconds
    (after.filterMap (ownOp d.settings))).forgotten with
  | true => simp [ExpireReply.status]
  | false => simp [ExpireReply.status]

/-- **Expiring says what was there to expire**: if its entries fit, the answer reads
as one entry for each id given, and the one of a pair created in the run says
`unknown` exactly if a purge had forgotten the pair. -/
theorem expired_reads_held {trace : List (ServerEvent × ServerReply)}
    (run : Run (step d) .empty trace server) (fresh : Fresh (storeOps d trace)) {t : Nat}
    {now : Time} {pair_ids : List String} {results : List (String × ExpireReply)}
    (called : server.step d (.callbackCall t (.expire now pair_ids)) =
      some (server', .stored (.expire results)))
    (fits : size (.obj [("results", .arr (expireEntries results))]) ≤ MAX_CHARS)
    (readFloat : String → Option PyFloat) :
    ∃ data entries, readJson readFloat (expireAnswer results).text = some data ∧
      data.field "results" = .arr entries ∧
      ∀ before t purged created drawn text ttl_seconds stored after,
        trace = before ++ (.callbackCall t (.createPair purged created drawn text ttl_seconds),
          .stored stored) :: after →
        drawn.pair_id ∈ pair_ids → ∃ status,
          entries.filter (entryFor drawn.pair_id) =
            [.obj [("pair_id", .str drawn.pair_id), ("status", .str status)]] ∧
          (status = "unknown" ↔
            PurgedSince drawn.pair_id (created + clampTtl ttl_seconds) (storeOps d after)) ∧
          (status = "expired" ↔
            ¬ PurgedSince drawn.pair_id (created + clampTtl ttl_seconds) (storeOps d after)) := by
  refine ⟨_, _, read_of_fits (genuine_expireEntries results) fits, rfl, ?_⟩
  obtain ⟨_, _, ⟨_, _, same⟩ | ⟨op, given, operated⟩⟩ := callbackCall_cases called
  · cases same
  · cases given
    obtain ⟨_, _, stepped, _, same⟩ := operate_cases operated
    cases same
    obtain ⟨_, replied⟩ := Prod.mk.inj (Option.some.inj stepped)
    obtain rfl := Reply.expire.inj replied
    intro before t purged created drawn text ttl_seconds stored after split asked
    have unknown := heldReply_iff run fresh split
    refine ⟨(heldReply server.service.store drawn.pair_id).status, ?_, unknown, ?_⟩
    · rw [filter_expireEntries, filter_expire _ _ asked]
      rfl
    · rw [← unknown]
      cases heldReply server.service.store drawn.pair_id <;> decide

theorem expired_read_back : ∃ data entries,
    readJson (fun _ => none) (expireAnswer [("p", .expired)]).text = some data ∧
      data.field "results" = .arr entries ∧ ∃ status,
        entries.filter (entryFor "p") = [.obj [("pair_id", .str "p"), ("status", .str status)]] ∧
        (status = "unknown" ↔
          PurgedSince "p" (0 + clampTtl 600) (storeOps scriptDeployment [])) ∧
        (status = "expired" ↔
          ¬ PurgedSince "p" (0 + clampTtl 600) (storeOps scriptDeployment [])) := by
  have split : publishTrace = [(.connect euScope none [] 0, .done), (.enter 0, .done)] ++
      (.callbackCall 0 (.createPair 0 0 publishedDrawn "payload" 600),
        .stored (.created (publishedDrawn.pair "payload" 600 0 0))) :: [] := rfl
  obtain ⟨data, entries, read, results, each⟩ := expired_reads_held publish_run (by decide)
    (rfl : publishServer.step scriptDeployment (.callbackCall 0 (.expire 1 ["p"])) =
      some (_, .stored (.expire [("p", .expired)]))) (by decide) fun _ => none
  exact ⟨data, entries, read, results, each _ _ _ _ _ _ _ _ _ split List.mem_cons_self⟩

end Server

end NinjaOne
