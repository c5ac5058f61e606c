import NinjaOne.Callbacks.Capability

/-!
`__main__.py`: the public route `/cb/{token}` and its handler `callback`.

A `Route` that lists GET accepts HEAD as well and calls the same endpoint, with
an empty body. The handler gives GET to `get_body` and every other method to
`receive`, so a HEAD of a live POST URL is recorded like a POST of nothing:
`only_posts_write_iff`, `head_overwrites`.
-/

namespace NinjaOne

/-! ### Requests -/

inductive Method where
  | get
  | head
  | post
  | other (name : String)
deriving DecidableEq

/-- The methods of a `Route`: where GET is listed, HEAD is accepted as well. -/
def routeMethods (listed : List Method) : List Method :=
  if .get ∈ listed then .head :: listed else listed

/-- A request that the route dispatches to `callback`. -/
structure CallbackRequest where
  method : Method
  token : String
  body : List UInt8
  content_type : Option String
  accepted : method ∈ routeMethods [.get, .post]
  bodiless : method = .head → body = []

theorem CallbackRequest.method_cases (request : CallbackRequest) :
    request.method = .head ∨ request.method = .get ∨ request.method = .post := by
  have listed : routeMethods [.get, .post] = [.head, .get, .post] := by decide
  have accepted := request.accepted
  rw [listed, List.mem_cons, List.mem_pair] at accepted
  exact accepted

structure CallbackResponse where
  status_code : Nat
  media_type : Option String
  content : String
deriving DecidableEq

/-- `PlainTextResponse(body)`. -/
def plainText (body : String) : CallbackResponse := ⟨200, some "text/plain", body⟩

/-- `JSONResponse({"ok": True})`. -/
def okResponse : CallbackResponse := ⟨200, some "application/json", "\x7b\"ok\":true\x7d"⟩

/-- `Response(status_code=404)`. -/
def notFound : CallbackResponse := ⟨404, none, ""⟩

/-- `callback`. There is no response where `json.loads` raised out of it. -/
def callback (loads : String → Loads) (s : Store) (now : Time) (request : CallbackRequest) :
    Store × Option CallbackResponse :=
  if request.method = .get then
    match s.getBody now request.token with
    | some body => (s, some (plainText body))
    | none => (s, some notFound)
  else
    let done := s.receive loads now request.token request.body request.content_type
    (done.1, match done.2 with
      | .returned true => some okResponse
      | .returned false => some notFound
      | .recursionError => none)

theorem callback_get {loads : String → Loads} {s : Store} {now : Time} {request : CallbackRequest}
    (get : request.method = .get) : (callback loads s now request).1 = s := by
  rw [callback, if_pos get]
  split <;> rfl

theorem callback_receive {loads : String → Loads} {s : Store} {now : Time}
    {request : CallbackRequest} (other : request.method ≠ .get) :
    (callback loads s now request).1 =
      (s.receive loads now request.token request.body request.content_type).1 := by
  rw [callback, if_neg other]

/-! ### What always holds of the store -/

/-- Pairs are kept under their own ids, and those with a result have set their
event. This needs nothing of the random strings. -/
structure Store.Sound (s : Store) : Prop where
  own : ∀ id pair, s.pairs.get id = some pair → pair.pair_id = id
  bounded : ∀ id pair, s.pairs.get id = some pair → pair.done < s.events.length
  marked : ∀ id pair, s.pairs.get id = some pair → pair.status ≠ .pending →
    s.events[pair.done]? = some true

namespace Store.Sound

theorem empty : Store.empty.Sound where
  own _ _ found := by cases found
  bounded _ _ found := by cases found
  marked _ _ found := by cases found

variable {s : Store}

theorem purge (sound : s.Sound) (now : Time) : (s.purge now).Sound where
  own id pair found := sound.own id pair (purge_pairs.mp found).1
  bounded id pair found := sound.bounded id pair (purge_pairs.mp found).1
  marked id pair found := sound.marked id pair (purge_pairs.mp found).1

theorem add (sound : s.Sound) {pair : Pair} (pending : pair.status = .pending)
    (done : pair.done = s.events.length) : (s.add pair).Sound := by
  have cases_of : ∀ id pair', (s.add pair).pairs.get id = some pair' →
      id = pair.pair_id ∧ pair' = pair ∨ s.pairs.get id = some pair' := by
    intro id pair' found
    rw [Store.add, Dict.get_set] at found
    split at found
    · rename_i here
      exact Or.inl ⟨here, (Option.some.inj found).symm⟩
    · exact Or.inr found
  have length : (s.add pair).events.length = s.events.length + 1 := List.length_append
  refine ⟨fun id pair' found => ?_, fun id pair' found => ?_, fun id pair' found decided => ?_⟩
  · rcases cases_of id pair' found with ⟨rfl, rfl⟩ | old
    · rfl
    · exact sound.own id pair' old
  · rcases cases_of id pair' found with ⟨_, rfl⟩ | old
    · rw [length, done]
      exact Nat.lt_succ_self _
    · rw [length]
      exact Nat.lt_succ_of_lt (sound.bounded id pair' old)
  · rcases cases_of id pair' found with ⟨_, rfl⟩ | old
    · exact absurd pending decided
    · rw [Store.add, List.getElem?_append_left (sound.bounded id pair' old)]
      exact sound.marked id pair' old decided

/-- A change of one pair, where no event is unset. -/
theorem set (sound : s.Sound) {pair pair' : Pair} {events : List Bool}
    (found : s.pairs.get pair.pair_id = some pair) (own : pair'.pair_id = pair.pair_id)
    (done : pair'.done = pair.done) (length : events.length = s.events.length)
    (kept : ∀ i : Nat, s.events[i]? = some true → events[i]? = some true)
    (marked : pair'.status ≠ .pending → events[pair'.done]? = some true) :
    Store.Sound { s with pairs := s.pairs.set pair.pair_id pair', events := events } := by
  refine ⟨fun id p => ?_, fun id p => ?_, fun id p => ?_⟩ <;> rw [Dict.get_set] <;> split
  · rename_i here
    rintro ⟨⟩
    rw [own, here]
  · exact sound.own id p
  · rintro ⟨⟩
    rw [done, length]
    exact sound.bounded _ _ found
  · intro other
    rw [length]
    exact sound.bounded id p other
  · rintro ⟨⟩
    exact marked
  · exact fun other decided => kept _ (sound.marked id p other decided)

/-- The pair a token gives access to is the one under its id. -/
theorem livePair (sound : s.Sound) {now : Time} {token : String} {kind : Kind} {pair : Pair}
    (live : s.livePairFor now token kind = some pair) : s.pairs.get pair.pair_id = some pair := by
  unfold Store.livePairFor at live
  cases hit : s.by_token.get token with
  | none =>
      rw [hit] at live
      cases live
  | some found =>
      simp only [hit] at live
      split at live
      · cases live
      · cases held : s.pairs.get found.1 with
        | none =>
            rw [held] at live
            cases live
        | some pair' =>
            simp only [held] at live
            split at live
            · cases live
            · cases live
              rw [sound.own _ _ held, held]

theorem receive (sound : s.Sound) (loads : String → Loads) (now : Time) (token : String)
    (raw : List UInt8) (content_type : Option String) :
    (s.receive loads now token raw content_type).1.Sound := by
  unfold Store.receive
  cases live : s.livePairFor now token .post with
  | none => exact sound
  | some pair =>
      have held := sound.livePair live
      cases records : pair.record loads raw content_type with
      | none =>
          simp only [records]
          exact sound
      | some recorded =>
          obtain ⟨status, _, rfl⟩ := Pair.record_iff.mp records
          simp only [records]
          refine sound.set held rfl rfl List.length_set (fun i is_set => ?_) fun _ => ?_
          · rw [List.getElem?_set]
            split
            · rw [if_pos (sound.bounded _ _ held)]
            · exact is_set
          · exact List.getElem?_set_self (sound.bounded _ _ held)

theorem expire (sound : s.Sound) (now : Time) (pair_ids : List String) :
    (s.expire now pair_ids).1.Sound := by
  unfold Store.expire
  induction pair_ids generalizing s with
  | nil => exact sound
  | cons p rest ih =>
      refine ih ?_
      unfold Store.expireOne
      cases held : s.pairs.get p with
      | none => exact sound
      | some pair =>
          have own := sound.own p pair held
          subst own
          exact sound.set held rfl rfl rfl (fun _ is_set => is_set) (sound.marked _ pair held)

theorem step {loads : String → Loads} {service service' : Service} {op : Op} {reply : Reply}
    (sound : service.store.Sound) (taken : NinjaOne.step loads service op = some (service', reply)) :
    service'.store.Sound := by
  cases op with
  | create purged created drawn body ttl_seconds =>
      obtain ⟨rfl, _⟩ := Prod.mk.inj (Option.some.inj taken)
      exact (sound.purge purged).add rfl rfl
  | waitStart purged now pair_ids wait_seconds =>
      obtain ⟨rfl, _⟩ := Prod.mk.inj (Option.some.inj taken)
      exact sound.purge purged
  | receive now token raw content_type =>
      obtain ⟨rfl, _⟩ := Prod.mk.inj (Option.some.inj taken)
      exact sound.receive loads now token raw content_type
  | expire now pair_ids =>
      obtain ⟨rfl, _⟩ := Prod.mk.inj (Option.some.inj taken)
      exact sound.expire now pair_ids
  | waitEnd wait readings timed_out =>
      obtain ⟨_, _, _, _, rfl, _⟩ := step_waitEnd taken
      exact sound
  | _ =>
      obtain ⟨rfl, _⟩ := Prod.mk.inj (Option.some.inj taken)
      exact sound

end Store.Sound

/-! ### When a request changes nothing -/

/-- A `receive` changes nothing only if it is refused, raises, or records what
the pair holds already. -/
theorem receive_unchanged_iff {loads : String → Loads} {s : Store} (sound : s.Sound) {now : Time}
    {token : String} {raw : List UInt8} {content_type : Option String} :
    (s.receive loads now token raw content_type).1 = s ↔
      ∀ pair, s.livePairFor now token .post = some pair →
        ∀ recorded, pair.record loads raw content_type = some recorded → recorded = pair := by
  unfold Store.receive
  cases live : s.livePairFor now token .post with
  | none => exact iff_of_true rfl nofun
  | some pair =>
      have held := sound.livePair live
      cases records : pair.record loads raw content_type with
      | none =>
          simp only [records]
          refine iff_of_true True.intro fun pair' same recorded' records' => ?_
          cases same
          rw [records] at records'
          cases records'
      | some recorded =>
          simp only [records]
          constructor
          · rintro unchanged pair' ⟨⟩ recorded' records'
            rw [records] at records'
            cases records'
            have after := congrArg (fun s : Store => s.pairs.get pair.pair_id) unchanged
            simp only [Dict.get_set, if_true, held] at after
            exact Option.some.inj after
          · intro same
            have eq := same pair rfl recorded records
            subst eq
            obtain ⟨status, parsed, eq⟩ := Pair.record_iff.mp records
            have decided : recorded.status ≠ .pending := by
              rw [← eq]
              exact Loads.status_ne_pending parsed
            have marked := sound.marked _ _ held decided
            have events : s.events.set recorded.done true = s.events := by
              refine List.ext_getElem? fun i => ?_
              rw [List.getElem?_set]
              split
              · rename_i here
                rw [if_pos (sound.bounded _ _ held), ← here, marked]
              · rfl
            rw [Dict.set_get held, events]

/-- A request other than a POST that changes nothing: a GET, or one whose token
gives access to no pair but to one that records an empty POST like it already. -/
def Harmless (s : Store) (now : Time) (request : CallbackRequest) : Prop :=
  request.method = .get ∨ ∀ pair, s.livePairFor now request.token .post = some pair →
    pair.status = .malformed ∧ pair.received_body = some "" ∧
      pair.received_content_type = request.content_type

theorem Pair.withResult_eq_iff {pair : Pair} {status : PairStatus} {text : String}
    {content_type : Option String} : pair.withResult status text content_type = pair ↔
      pair.status = status ∧ pair.received_body = some text ∧
        pair.received_content_type = content_type := by
  constructor
  · intro same
    rw [← same]
    exact ⟨rfl, rfl, rfl⟩
  · obtain ⟨pair_id, get_token, post_token, body, expires_at, status', received_body,
      received_content_type, done⟩ := pair
    rintro ⟨rfl, rfl, rfl⟩
    rfl

theorem callback_unchanged_iff {loads : String → Loads} (empty : loads "" = .valueError)
    {s : Store} (sound : s.Sound) (now : Time) {request : CallbackRequest}
    (unposted : request.method ≠ .post) :
    (callback loads s now request).1 = s ↔ Harmless s now request := by
  rcases request.method_cases with head | get | post
  · have other : request.method ≠ .get := by
      rw [head]
      nofun
    have no_text : Utf8.decodeReplace [] = "" := by decide
    have records : ∀ pair : Pair, pair.record loads request.body request.content_type =
        some (pair.withResult .malformed "" request.content_type) := by
      intro pair
      rw [Pair.record, request.bodiless head, no_text, empty]
      rfl
    rw [callback_receive other, receive_unchanged_iff sound, Harmless, or_iff_right other]
    refine forall₂_congr fun pair _ => ?_
    rw [records]
    simp only [Option.some.injEq, forall_eq', Pair.withResult_eq_iff]
  · exact iff_of_true (callback_get get) (Or.inl get)
  · exact absurd post unposted

/-! ### Runs with requests -/

inductive Incoming where
  /-- An operation of the store that a tool call makes. -/
  | tool (op : Op)
  | request (now : Time) (request : CallbackRequest)

inductive Served where
  | tool (reply : Reply)
  | response (response : Option CallbackResponse)

/-- One operation or one request. -/
def serve (loads : String → Loads) (service : Service) : Incoming → Option (Service × Served)
  | .tool op => (step loads service op).map fun done => (done.1, .tool done.2)
  | .request now request =>
      let done := callback loads service.store now request
      some ({ service with store := done.1 }, .response done.2)

/-- Whether an event is meant to write: a tool's operation, or a POST. -/
def writes : Incoming × Served → Bool
  | (.request _ request, _) => decide (request.method = .post)
  | (.tool _, _) => true

theorem sound_serve {loads : String → Loads} {service service' : Service} {event : Incoming}
    {served : Served} (sound : service.store.Sound)
    (taken : serve loads service event = some (service', served)) : service'.store.Sound := by
  cases event with
  | tool op =>
      obtain ⟨done, stepped, eq⟩ := Option.map_eq_some_iff.mp taken
      obtain ⟨rfl, _⟩ := Prod.mk.inj eq
      exact sound.step stepped
  | request now request =>
      obtain ⟨rfl, _⟩ := Prod.mk.inj (Option.some.inj taken)
      by_cases get : request.method = .get
      · rw [callback_get get]
        exact sound
      · rw [callback_receive get]
        exact sound.receive loads now _ _ _

theorem sound_run {loads : String → Loads} {trace : List (Incoming × Served)} {service : Service}
    (run : Run (serve loads) .empty trace service) : service.store.Sound :=
  Run.induction (P := fun _ service => service.store.Sound) Store.Sound.empty
    (fun _ _ _ _ _ _ sound taken => sound_serve sound taken) run

/-- A run whose requests without POST are all harmless ends as it would without
them. -/
theorem run_of_harmless {loads : String → Loads} (empty : loads "" = .valueError)
    {trace : List (Incoming × Served)} {service : Service}
    (run : Run (serve loads) .empty trace service)
    (harmless : ∀ before now request served after s,
      trace = before ++ (.request now request, served) :: after → request.method ≠ .post →
      Run (serve loads) .empty before s → Harmless s.store now request) :
    Run (serve loads) .empty (trace.filter writes) service := by
  induction trace using List.reverseRecOn generalizing service with
  | nil => exact run
  | append_singleton trace entry ih =>
      obtain ⟨event, served⟩ := entry
      obtain ⟨s, earlier, taken⟩ := Run.snoc_iff.mp run
      have before := ih earlier fun before now request served' after s split =>
        harmless before now request served' (after ++ [(event, served)]) s
          (by rw [split, List.append_assoc, List.cons_append])
      rw [List.filter_append]
      cases wrote : writes (event, served) with
      | true =>
          rw [List.filter_cons_of_pos wrote, List.filter_nil]
          exact Run.snoc_iff.mpr ⟨s, before, taken⟩
      | false =>
          rw [List.filter_cons_of_neg (by rw [wrote]; exact Bool.false_ne_true), List.filter_nil,
            List.append_nil]
          cases event with
          | tool op => cases wrote
          | request now request =>
              have unposted : request.method ≠ .post := of_decide_eq_false wrote
              have spared := harmless trace now request served [] s rfl unposted earlier
              have same := (callback_unchanged_iff empty (sound_run earlier) now unposted).mpr spared
              obtain ⟨rfl, _⟩ := Prod.mk.inj (Option.some.inj taken)
              rw [same]
              exact before

/-- **Which requests write.** In every state that operations and requests lead to,
a request other than a POST leaves the store as it is exactly if it is harmless;
and a run in which all of them are harmless ends as it would without them. -/
theorem only_posts_write_iff {loads : String → Loads} (empty : loads "" = .valueError)
    {trace : List (Incoming × Served)} {service : Service}
    (run : Run (serve loads) .empty trace service) :
    (∀ now request, request.method ≠ .post →
      ((callback loads service.store now request).1 = service.store ↔
        Harmless service.store now request)) ∧
    ((∀ before now request served after s,
      trace = before ++ (.request now request, served) :: after → request.method ≠ .post →
      Run (serve loads) .empty before s → Harmless s.store now request) →
      Run (serve loads) .empty (trace.filter writes) service) :=
  ⟨fun now _ unposted => callback_unchanged_iff empty (sound_run run) now unposted,
    run_of_harmless empty run⟩

/-! ### A HEAD of a live POST URL -/

/-- A parser for these two texts. -/
def emptyLoads (text : String) : Loads := if text = "" then .valueError else .value (.obj [])

def postRequest : CallbackRequest where
  method := .post
  token := "t"
  body := [0x7B, 0x7D]
  content_type := some "application/json"
  accepted := by decide
  bodiless := nofun

def headRequest : CallbackRequest where
  method := .head
  token := "t"
  body := []
  content_type := none
  accepted := by decide
  bodiless := fun _ => rfl

/-- A pair, and a POST to it at time 1. -/
def postedService : Service :=
  { onePairService with store := (callback emptyLoads onePairService.store 1 postRequest).1 }

theorem posted_run : Run (serve emptyLoads) .empty
    [(.tool onePair, .tool (.created (Store.empty.create 0 0 ⟨"p", "g", "t"⟩ "payload" 600).2)),
      (.request 1 postRequest,
        .response (callback emptyLoads onePairService.store 1 postRequest).2)] postedService :=
  .cons rfl (.cons rfl (.nil _))

/-- The pair as the POST leaves it. -/
def receivedPair : Pair :=
  createdPair.withResult .received (Utf8.decodeReplace [0x7B, 0x7D]) (some "application/json")

theorem receivedPair_live : postedService.store.livePairFor 2 "t" .post = some receivedPair := by
  have text : Utf8.decodeReplace [0x7B, 0x7D] ≠ "" := by decide
  have records : createdPair.record emptyLoads [0x7B, 0x7D] (some "application/json") =
      some receivedPair := by
    rw [Pair.record, emptyLoads, if_neg text]
    rfl
  have posted : postedService.store = _ :=
    (callback_receive (by decide)).trans
      (congrArg Prod.fst (onePair_receive (by norm_num : (1 : Time) < 600) records))
  have unexpired : receivedPair.expired 2 = false := createdPair_unexpired (by norm_num)
  rw [posted]
  exact if_neg (Bool.eq_false_iff.mp unexpired)

/-- What a HEAD would do after that POST. -/
theorem posted_writes :
    (callback emptyLoads postedService.store 2 headRequest).1 = postedService.store ↔
      Harmless postedService.store 2 headRequest :=
  (only_posts_write_iff rfl posted_run).1 2 headRequest (by decide)

/-- A HEAD of a live POST URL replaces the result that was received. -/
theorem head_overwrites : ¬ ∀ loads : String → Loads, loads "" = .valueError →
    ∀ trace service, Run (serve loads) .empty trace service →
      ∀ now request, request.method ≠ .post →
        (callback loads service.store now request).1 = service.store := by
  intro all
  have unchanged := all emptyLoads rfl _ _ posted_run 2 headRequest (by decide)
  rw [callback_unchanged_iff rfl (sound_run posted_run) 2 (by decide)] at unchanged
  rcases unchanged with get | blank
  · cases get
  · cases (blank receivedPair receivedPair_live).1

end NinjaOne
