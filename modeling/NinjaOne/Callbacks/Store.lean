import Mathlib.Algebra.Order.Ring.Rat
import NinjaOne.Json
import NinjaOne.Lib.Utf8

/-!
`callbacks.py`: the store of callback URL pairs, and the operations on it.

The clock is read inside the operations, so each of them takes the readings it
makes; random ids and tokens are drawn by `create` and are arguments as well.
Pairs are mutable objects held by the store alone. Their `done` events outlive
them in waiting calls, so a pair holds a reference into `events`.

A `wait` is two operations: its start, up to the point where the call may
suspend, and its end. In between other operations run. `Service` is the store
with the waits that have started, and `step` is one operation on it.
-/

namespace NinjaOne

/-- A clock reading, in seconds. -/
abbrev Time := ℚ

def MIN_TTL_SECONDS : Int := 60

def MAX_TTL_SECONDS : Int := 600

/-- How long an expired pair is remembered. -/
def TOMBSTONE_SECONDS : Time := 600

/-! ### Pairs -/

/-- `pair.status`. -/
inductive PairStatus where
  | pending
  | received
  | malformed
deriving DecidableEq

/-- The `"get"` or `"post"` a token is registered for. -/
inductive Kind where
  | get
  | post
deriving DecidableEq

structure Pair where
  pair_id : String
  get_token : String
  post_token : String
  body : String
  expires_at : Time
  status : PairStatus
  received_body : Option String
  received_content_type : Option String
  /-- The reference of its event. -/
  done : Nat
deriving DecidableEq

def Pair.expired (pair : Pair) (now : Time) : Bool := decide (pair.expires_at ≤ now)

def Pair.token (pair : Pair) : Kind → String
  | .get => pair.get_token
  | .post => pair.post_token

/-- Whether the pair is forgotten by a purge at `now`. -/
def Pair.stale (pair : Pair) (now : Time) : Bool :=
  decide (pair.expires_at + TOMBSTONE_SECONDS ≤ now)

/-! ### The store -/

structure Store where
  pairs : Dict String Pair
  by_token : Dict String (String × Kind)
  /-- Every event created so far, and whether it is set. -/
  events : List Bool

def Store.empty : Store := ⟨.empty, .empty, []⟩

/-- `_purge`. -/
def Store.purge (s : Store) (now : Time) : Store :=
  let stale := s.pairs.entries.filter fun entry => entry.2.stale now
  { s with
    pairs := s.pairs.popAll (stale.map Prod.fst)
    by_token := s.by_token.popAll
      (stale.flatMap fun entry => [entry.2.get_token, entry.2.post_token]) }

/-- `max(MIN_TTL_SECONDS, min(MAX_TTL_SECONDS, int(ttl_seconds)))`. -/
def clampTtl (ttl_seconds : Int) : Int :=
  max MIN_TTL_SECONDS (min MAX_TTL_SECONDS ttl_seconds)

/-- What one `create` draws from `secrets.token_urlsafe`. -/
structure Drawn where
  pair_id : String
  get_token : String
  post_token : String

def Drawn.strings (drawn : Drawn) : List String :=
  [drawn.pair_id, drawn.get_token, drawn.post_token]

/-- The pair a `create` makes at `created`, with its event at `done`. -/
def Drawn.pair (drawn : Drawn) (body : String) (ttl_seconds : Int) (created : Time)
    (done : Nat) : Pair where
  pair_id := drawn.pair_id
  get_token := drawn.get_token
  post_token := drawn.post_token
  body := body
  expires_at := created + clampTtl ttl_seconds
  status := .pending
  received_body := none
  received_content_type := none
  done := done

/-- Registers a new pair under its id and its two tokens. -/
def Store.add (s : Store) (pair : Pair) : Store where
  pairs := s.pairs.set pair.pair_id pair
  by_token := (s.by_token.set pair.get_token (pair.pair_id, .get)).set pair.post_token
    (pair.pair_id, .post)
  events := s.events ++ [false]

/-- `create`. The purge reads the clock at `purged`, the deadline at `created`. -/
def Store.create (s : Store) (purged created : Time) (drawn : Drawn) (body : String)
    (ttl_seconds : Int) : Store × Pair :=
  let s := s.purge purged
  let pair := drawn.pair body ttl_seconds created s.events.length
  (s.add pair, pair)

/-- `_live_pair_for`. -/
def Store.livePairFor (s : Store) (now : Time) (token : String) (kind : Kind) : Option Pair :=
  match s.by_token.get token with
  | none => none
  | some hit =>
      if hit.2 ≠ kind then none
      else
        match s.pairs.get hit.1 with
        | none => none
        | some pair => if pair.expired now then none else some pair

/-- `get_body`. -/
def Store.getBody (s : Store) (now : Time) (token : String) : Option String :=
  (s.livePairFor now token .get).map Pair.body

/-- What a `receive` returns, or that `json.loads` raised out of it. -/
inductive ReceiveReply where
  | returned (ok : Bool)
  | recursionError
deriving DecidableEq

/-- The pair with a POST of `text` recorded. -/
def Pair.withResult (pair : Pair) (status : PairStatus) (text : String)
    (content_type : Option String) : Pair :=
  { pair with
    status := status, received_body := some text, received_content_type := content_type }

/-- The status a POST gets; nothing where `json.loads` raises something other
than `ValueError`. -/
def Loads.status : Loads → Option PairStatus
  | .value _ => some .received
  | .valueError => some .malformed
  | .recursionError => none

/-- A POST recorded on a pair. -/
def Pair.record (loads : String → Loads) (raw : List UInt8) (content_type : Option String)
    (pair : Pair) : Option Pair :=
  (loads (Utf8.decodeReplace raw)).status.map fun status =>
    pair.withResult status (Utf8.decodeReplace raw) content_type

/-- `receive`. -/
def Store.receive (loads : String → Loads) (s : Store) (now : Time) (token : String)
    (raw : List UInt8) (content_type : Option String) : Store × ReceiveReply :=
  match s.livePairFor now token .post with
  | none => (s, .returned false)
  | some pair =>
      match pair.record loads raw content_type with
      | none => (s, .recursionError)
      | some recorded =>
          ({ s with
             pairs := s.pairs.set pair.pair_id recorded
             events := s.events.set pair.done true }, .returned true)

/-- The dictionary `status` returns. -/
inductive StatusReply where
  | unknown
  | received (content_type body : Option String)
  | malformed (content_type body : Option String)
  | expired
  | pending (expires_at : Int)
deriving DecidableEq

/-- `int(x)`: towards zero. -/
def truncate (x : Time) : Int := x.num.tdiv x.den

/-- What `status` makes of a pair. -/
def Pair.reply (pair : Pair) (now : Time) : StatusReply :=
  match pair.status with
  | .received => .received pair.received_content_type pair.received_body
  | .malformed => .malformed pair.received_content_type pair.received_body
  | .pending => if pair.expired now then .expired else .pending (truncate pair.expires_at)

/-- `status`. -/
def Store.status (s : Store) (now : Time) (pair_id : String) : StatusReply :=
  match s.pairs.get pair_id with
  | none => .unknown
  | some pair => pair.reply now

/-- What `expire` answers for an id. -/
inductive ExpireReply where
  | unknown
  | expired
deriving DecidableEq

/-- `pair.expires_at = min(pair.expires_at, now)`. -/
def Pair.cut (now : Time) (pair : Pair) : Pair :=
  { pair with expires_at := min pair.expires_at now }

/-- One round of the loop of `expire`. -/
def Store.expireOne (now : Time) (s : Store) (pair_id : String) : Store :=
  match s.pairs.get pair_id with
  | none => s
  | some pair => { s with pairs := s.pairs.set pair_id (pair.cut now) }

/-- `expire`. -/
def Store.expire (s : Store) (now : Time) (pair_ids : List String) :
    Store × List (String × ExpireReply) :=
  (pair_ids.foldl (Store.expireOne now) s,
    pair_ids.foldl (fun out p =>
      Dict.assign p (match s.pairs.get p with
        | none => .unknown
        | some _ => .expired) out) [])

/-! ### Waiting -/

/-- A call of `wait` after its start. -/
structure Wait where
  pair_ids : List String
  wait_seconds : Time
  /-- The events it waits for. -/
  awaited : List Nat

/-- The events of the requested pairs that are pending and not expired. -/
def Store.waiting (s : Store) (now : Time) (pair_ids : List String) : List Nat :=
  pair_ids.filterMap fun p =>
    match s.pairs.get p with
    | none => none
    | some pair => if pair.status = .pending ∧ ¬ pair.expired now then some pair.done else none

/-- Whether the call is suspended: something is left to wait for. -/
def Wait.blocked (wait : Wait) (events : List Bool) : Bool :=
  decide (0 < wait.wait_seconds) && wait.awaited.any fun event => !events.getD event false

/-- `{p: self.status(p) for p in pair_ids}`, one clock reading for each. -/
def Store.statuses (s : Store) (pair_ids : List String) (readings : List Time) :
    List (String × StatusReply) :=
  (pair_ids.zip readings).foldl (fun out entry =>
    Dict.assign entry.1 (s.status entry.2 entry.1) out) []

/-! ### The service -/

/-- The store and the calls of `wait` so far; a finished one is `none`. -/
structure Service where
  store : Store
  waits : List (Option Wait)

def Service.empty : Service := ⟨.empty, []⟩

inductive Op where
  | create (purged created : Time) (drawn : Drawn) (body : String) (ttl_seconds : Int)
  | getBody (now : Time) (token : String)
  | receive (now : Time) (token : String) (raw : List UInt8) (content_type : Option String)
  | status (now : Time) (pair_id : String)
  | expire (now : Time) (pair_ids : List String)
  | waitStart (purged now : Time) (pair_ids : List String) (wait_seconds : Time)
  | waitEnd (wait : Nat) (readings : List Time) (timed_out : Bool)

inductive Reply where
  | created (pair : Pair)
  | body (body : Option String)
  | receive (reply : ReceiveReply)
  | status (reply : StatusReply)
  | expire (results : List (String × ExpireReply))
  | waiting (wait : Nat)
  | waited (results : List (String × StatusReply))

/-- One operation. A wait ends when it is not blocked or its time is up, and
reads the clock once for each id it was asked about. -/
def step (loads : String → Loads) (service : Service) : Op → Option (Service × Reply)
  | .create purged created drawn body ttl_seconds =>
      let made := service.store.create purged created drawn body ttl_seconds
      some ({ service with store := made.1 }, .created made.2)
  | .getBody now token => some (service, .body (service.store.getBody now token))
  | .receive now token raw content_type =>
      let done := service.store.receive loads now token raw content_type
      some ({ service with store := done.1 }, .receive done.2)
  | .status now pair_id => some (service, .status (service.store.status now pair_id))
  | .expire now pair_ids =>
      let done := service.store.expire now pair_ids
      some ({ service with store := done.1 }, .expire done.2)
  | .waitStart purged now pair_ids wait_seconds =>
      let store := service.store.purge purged
      some ({ store := store
              waits := service.waits ++ [some ⟨pair_ids, wait_seconds, store.waiting now pair_ids⟩] },
        .waiting service.waits.length)
  | .waitEnd wait readings timed_out =>
      match service.waits[wait]? with
      | some (some call) =>
          if (timed_out || !call.blocked service.store.events) = true ∧
              readings.length = call.pair_ids.length then
            some ({ service with waits := service.waits.set wait none },
              .waited (service.store.statuses call.pair_ids readings))
          else none
      | _ => none

/-- A wait ends only when it is not blocked or its time is up. -/
theorem step_waitEnd {loads : String → Loads} {service service' : Service} {wait : Nat}
    {readings : List Time} {timed_out : Bool} {reply : Reply}
    (taken : step loads service (.waitEnd wait readings timed_out) = some (service', reply)) :
    ∃ call, service.waits[wait]? = some (some call) ∧
      (timed_out = true ∨ call.blocked service.store.events = false) ∧
      readings.length = call.pair_ids.length ∧
      service' = { service with waits := service.waits.set wait none } ∧
      reply = .waited (service.store.statuses call.pair_ids readings) := by
  simp only [step] at taken
  split at taken
  · rename_i call found
    split at taken
    · rename_i ends
      obtain ⟨rfl, rfl⟩ := Prod.mk.inj (Option.some.inj taken)
      rw [Bool.or_eq_true, Bool.not_eq_true'] at ends
      exact ⟨call, found, ends.1, ends.2, rfl, rfl⟩
    · cases taken
  · cases taken

section Receive

variable {loads : String → Loads} {s : Store} {now : Time} {token : String} {raw : List UInt8}
  {content_type : Option String}

/-- A token that gives access to nothing is refused, and nothing changes. -/
theorem receive_refused (dead : s.livePairFor now token .post = none) :
    s.receive loads now token raw content_type = (s, .returned false) := by
  rw [Store.receive, dead]

theorem receive_raised {pair : Pair} (live : s.livePairFor now token .post = some pair)
    (raises : loads (Utf8.decodeReplace raw) = .recursionError) :
    s.receive loads now token raw content_type = (s, .recursionError) := by
  simp only [Store.receive, live, Pair.record, raises, Loads.status, Option.map_none]

/-- Otherwise a live token accepts. -/
theorem receive_accepted {pair : Pair} (live : s.livePairFor now token .post = some pair)
    (parses : loads (Utf8.decodeReplace raw) ≠ .recursionError) :
    ∃ recorded, pair.record loads raw content_type = some recorded ∧
      s.receive loads now token raw content_type =
        ({ s with pairs := s.pairs.set pair.pair_id recorded,
                  events := s.events.set pair.done true }, .returned true) := by
  have records : ∃ recorded, pair.record loads raw content_type = some recorded := by
    unfold Pair.record
    cases parsed : loads (Utf8.decodeReplace raw) with
    | recursionError => exact absurd parsed parses
    | _ => exact ⟨_, rfl⟩
  obtain ⟨recorded, records⟩ := records
  refine ⟨recorded, records, ?_⟩
  simp only [Store.receive, live, records]

end Receive

/-! ### Clocks and random strings over a run -/

/-- The clock readings an operation makes, in order. -/
def Op.readings : Op → List Time
  | .create purged created _ _ _ => [purged, created]
  | .getBody now _ => [now]
  | .receive now _ _ _ => [now]
  | .status now _ => [now]
  | .expire now _ => [now]
  | .waitStart purged now _ _ => [purged, now]
  | .waitEnd _ readings _ => readings

/-- The strings an operation draws. -/
def Op.drawn : Op → List String
  | .create _ _ drawn _ _ => drawn.strings
  | _ => []

/-- The clock never goes back. -/
def Timed (ops : List Op) : Prop := (ops.flatMap Op.readings).Pairwise (· ≤ ·)

/-- All ids and tokens drawn are different. -/
def Fresh (ops : List Op) : Prop := (ops.flatMap Op.drawn).Nodup

instance (ops : List Op) : Decidable (Fresh ops) := inferInstanceAs (Decidable (List.Nodup _))

/-- Every reading of a run comes before the next operation's. -/
theorem Timed.earlier {ops : List Op} {op : Op} {now : Time} (timed : Timed (ops ++ [op]))
    (reads : now ∈ op.readings) : ∀ reading ∈ ops.flatMap Op.readings, reading ≤ now := by
  rw [Timed, List.flatMap_append, List.flatMap_singleton, List.pairwise_append] at timed
  exact fun reading mem => timed.2.2 reading mem now reads

end NinjaOne
