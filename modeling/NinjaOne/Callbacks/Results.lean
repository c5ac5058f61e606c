import NinjaOne.Callbacks.Capability

/-!
What happens to the result of a pair.

The store reports a pair through three mutable fields, its deadline and whether
some call has purged it. Over a run this comes down to the history: the last POST
accepted on the pair's own token, if there was one, else the deadline
(`shows_after`); a purge, and nothing else, makes the pair unknown, only once the
deadline is `TOMBSTONE_SECONDS` past, and for good. So the kind of status only
moves forward: `results_kept`.
-/

namespace NinjaOne

/-! ### Accepted POSTs -/

/-- A POST that was accepted. -/
structure Accepted where
  raw : List UInt8
  content_type : Option String

/-- The POST that one operation of a run accepts on `token`. -/
def acceptedBy (token : String) : Op × Reply → Option Accepted
  | (.receive _ token' raw content_type, .receive (.returned true)) =>
      if token' = token then some ⟨raw, content_type⟩ else none
  | _ => none

/-- The last POST accepted on `token`. -/
def lastAccepted (token : String) (trace : List (Op × Reply)) : Option Accepted :=
  (trace.filterMap (acceptedBy token)).getLast?

/-- What the history says `status` has to report. -/
def reported (loads : String → Loads) (deadline now : Time) : Option Accepted → StatusReply
  | some post =>
      match loads (Utf8.decodeReplace post.raw) with
      | .value _ => .received post.content_type (some (Utf8.decodeReplace post.raw))
      | _ => .malformed post.content_type (some (Utf8.decodeReplace post.raw))
  | none => if now < deadline then .pending (truncate deadline) else .expired

/-- The pair's fields are those of the last accepted POST. -/
def Pair.Shows (loads : String → Loads) (pair : Pair) : Option Accepted → Prop
  | some post => pair.record loads post.raw post.content_type = some pair
  | none => pair.status = .pending

theorem lastAccepted_snoc (token : String) (trace : List (Op × Reply)) (entry : Op × Reply) :
    lastAccepted token (trace ++ [entry]) =
      (acceptedBy token entry).or (lastAccepted token trace) := by
  have single : ([entry].filterMap (acceptedBy token)).getLast? = acceptedBy token entry := by
    cases this_one : acceptedBy token entry with
    | none => rw [List.filterMap_cons_none this_one]; rfl
    | some post => rw [List.filterMap_cons_some this_one]; rfl
  rw [lastAccepted, lastAccepted, List.filterMap_append, List.getLast?_append, single]

theorem Pair.reply_of_shows {loads : String → Loads} {pair : Pair} {last : Option Accepted}
    (shows : pair.Shows loads last) (now : Time) :
    pair.reply now = reported loads pair.expires_at now last := by
  cases last with
  | none =>
      have pending : pair.status = .pending := shows
      simp only [Pair.reply, pending, reported, Pair.expired, decide_eq_true_eq]
      by_cases fresh : now < pair.expires_at
      · rw [if_neg (not_le.mpr fresh), if_pos fresh]
      · rw [if_pos (not_lt.mp fresh), if_neg fresh]
  | some post =>
      obtain ⟨status, parsed, eq⟩ := Pair.record_iff.mp shows
      rw [← eq]
      cases loaded : loads (Utf8.decodeReplace post.raw) with
      | recursionError =>
          rw [loaded] at parsed
          cases parsed
      | _ =>
          rw [loaded] at parsed
          cases parsed
          simp only [Pair.reply, Pair.withResult, reported, loaded]

/-- Recording the same POST again changes nothing. -/
theorem Pair.shows_record {loads : String → Loads} {pair recorded : Pair} {post : Accepted}
    (records : pair.record loads post.raw post.content_type = some recorded) :
    recorded.Shows loads (some post) := by
  obtain ⟨status, parsed, rfl⟩ := Pair.record_iff.mp records
  exact Pair.record_iff.mpr ⟨status, parsed, rfl⟩

theorem Pair.shows_cut {loads : String → Loads} {pair : Pair} {last : Option Accepted}
    (shows : pair.Shows loads last) (now : Time) : (pair.cut now).Shows loads last := by
  cases last with
  | none => exact shows
  | some post =>
      obtain ⟨status, parsed, eq⟩ := Pair.record_iff.mp shows
      exact Pair.record_iff.mpr ⟨status, parsed, congrArg (Pair.cut now) eq⟩

/-! ### The last accepted POST of an entry -/

/-- A POST to another token is none of this token's. -/
theorem acceptedBy_other {token token' : String} (other : token' ≠ token) (now : Time)
    (raw : List UInt8) (content_type : Option String) (reply : ReceiveReply) :
    acceptedBy token (.receive now token' raw content_type, .receive reply) = none := by
  cases reply with
  | recursionError => rfl
  | returned ok =>
      cases ok with
      | false => rfl
      | true => exact if_neg other

/-- A POST to the entry's own token: accepted and recorded, or neither. -/
theorem shows_received {loads : String → Loads} {s : Store} {l : Ledger} {e : Entry}
    {last : Option Accepted} (refines : Refines s l) (mem : e ∈ l)
    (shows : e.pair.Shows loads last) (now : Time) (raw : List UInt8)
    (content_type : Option String) :
    (e.received loads now e.pair.post_token raw content_type).pair.Shows loads
      ((acceptedBy e.pair.post_token (.receive now e.pair.post_token raw content_type,
        .receive (s.receive loads now e.pair.post_token raw content_type).2)).or last) := by
  cases live : s.livePairFor now e.pair.post_token .post with
  | none =>
      rw [received_of_refused refines mem live,
        @receive_refused loads _ _ _ raw content_type live]
      exact shows
  | some pair =>
      obtain ⟨mem', tok, fresh⟩ := (livePairFor_iff refines).mp live
      have same : e.pair.token .post = pair.token .post := tok.symm
      obtain ⟨rfl, _⟩ := eq_of_token refines.strings mem mem' same
      have accepts : (⟨pair, false⟩ : Entry).live now = true ∧ pair.post_token = pair.post_token :=
        ⟨by simp [Entry.live, fresh], rfl⟩
      by_cases raises : loads (Utf8.decodeReplace raw) = .recursionError
      · have unrecorded : pair.record loads raw content_type = none := by
          rw [Pair.record, raises]
          rfl
        rw [receive_raised live raises, Entry.received, if_pos accepts, unrecorded]
        exact shows
      · obtain ⟨recorded, records, done⟩ :=
          @receive_accepted loads _ _ _ _ content_type _ live raises
        have last_one : acceptedBy pair.post_token (.receive now pair.post_token raw content_type,
            .receive (.returned true)) = some ⟨raw, content_type⟩ := if_pos rfl
        rw [done, last_one, Entry.received, if_pos accepts, records]
        exact Pair.shows_record records

/-- One step: the entry shows the POST just accepted on its token, or what it
showed before. -/
theorem shows_act {loads : String → Loads} {service service' : Service} {l : Ledger} {e : Entry}
    {op : Op} {reply : Reply} {last : Option Accepted} (refines : Refines service.store l)
    (mem : e ∈ l) (taken : step loads service op = some (service', reply))
    (shows : e.pair.Shows loads last) :
    (e.act loads op).pair.Shows loads ((acceptedBy e.pair.post_token (op, reply)).or last) := by
  cases op with
  | receive now token raw content_type =>
      obtain ⟨_, rfl⟩ := Prod.mk.inj (Option.some.inj taken)
      by_cases own : token = e.pair.post_token
      · subst own
        exact shows_received refines mem shows now raw content_type
      · have kept : e.received loads now token raw content_type = e := by
          rw [Entry.received, if_neg fun accepts => own accepts.2.symm]
        rw [Entry.act, kept, acceptedBy_other own]
        exact shows
  | expire now pair_ids =>
      rw [Entry.act, Entry.foldl_cut]
      split
      · exact Pair.shows_cut shows now
      · exact shows
  | _ => exact shows

theorem fresh_before {first second : List (Op × Reply)}
    (fresh : Fresh ((first ++ second).map Prod.fst)) : Fresh (first.map Prod.fst) := by
  rw [Fresh, List.map_append, List.flatMap_append] at fresh
  exact (List.nodup_append.mp fresh).1

/-- Over a run, from wherever it has got to: the entry shows the last POST
accepted on its token since, or what it showed before. -/
theorem shows_run {loads : String → Loads} {before since : List (Op × Reply)}
    {service service' : Service} {e : Entry} {last : Option Accepted}
    (run : Run (step loads) .empty before service) (more : Run (step loads) service since service')
    (fresh : Fresh ((before ++ since).map Prod.fst))
    (mem : e ∈ ledger loads (before.map Prod.fst)) (shows : e.pair.Shows loads last) :
    ((since.map Prod.fst).foldl (Entry.act loads) e).pair.Shows loads
      ((lastAccepted e.pair.post_token since).or last) := by
  induction since using List.reverseRecOn generalizing service' with
  | nil => exact shows
  | append_singleton since entry ih =>
      obtain ⟨op, r⟩ := entry
      obtain ⟨s, earlier, taken⟩ := Run.snoc_iff.mp more
      rw [← List.append_assoc] at fresh
      have refines := refines_run (run.append earlier) (fresh_before fresh)
      have here := mem_ledger_append mem (since.map Prod.fst)
      rw [← List.map_append] at here
      have shown := shows_act refines here taken (ih earlier (fresh_before fresh))
      have own : ((since.map Prod.fst).foldl (Entry.act loads) e).pair.post_token =
          e.pair.post_token := (e.same_foldl loads _).token .post
      rw [own] at shown
      rw [lastAccepted_snoc, Option.or_assoc, List.map_append, List.foldl_append]
      exact shown

section History

variable {loads : String → Loads} {before after : List (Op × Reply)} {purged created : Time}
  {drawn : Drawn} {body : String} {ttl_seconds : Int} {reply : Reply} {service : Service}

theorem ops_split : (before ++ (.create purged created drawn body ttl_seconds, reply) ::
    after).map Prod.fst = before.map Prod.fst ++
      .create purged created drawn body ttl_seconds :: after.map Prod.fst := by
  rw [List.map_append, List.map_cons]

/-- The entry of a pair created in a run, at the end of the run. -/
def followed (loads : String → Loads) (before : List (Op × Reply)) (created : Time)
    (drawn : Drawn) (body : String) (ttl_seconds : Int) (after : List (Op × Reply)) : Entry :=
  entryAfter loads (before.map Prod.fst) created drawn body ttl_seconds (after.map Prod.fst)

theorem followed_snoc (op : Op) (r : Reply) :
    followed loads before created drawn body ttl_seconds (after ++ [(op, r)]) =
      (followed loads before created drawn body ttl_seconds after).act loads op := by
  rw [followed, followed, entryAfter, entryAfter, List.map_append, List.foldl_append]
  rfl

theorem followed_same : (⟨drawn.pair body ttl_seconds created
    (ledger loads (before.map Prod.fst)).length, false⟩ : Entry).Same
      (followed loads before created drawn body ttl_seconds after) :=
  Entry.same_foldl _ loads _

variable
  (run : Run (step loads) .empty
    (before ++ (.create purged created drawn body ttl_seconds, reply) :: after) service)
  (fresh : Fresh ((before ++ (.create purged created drawn body ttl_seconds, reply) ::
    after).map Prod.fst))

include run fresh

/-- Where a run has got to: the store refines a ledger that has the pair's entry. -/
theorem refines_followed :
    ∃ l, Refines service.store l ∧
      followed loads before created drawn body ttl_seconds after ∈ l := by
  refine ⟨_, refines_run run fresh, ?_⟩
  rw [ops_split]
  exact entryAfter_mem loads _ purged created drawn body ttl_seconds _

/-- **A pair shows the last POST accepted on its own token**, or none. -/
theorem shows_after :
    (followed loads before created drawn body ttl_seconds after).pair.Shows loads
      (lastAccepted drawn.post_token after) := by
  rw [List.append_cons] at run fresh
  obtain ⟨s, created_run, more⟩ := run.split
  have mem : followed loads before created drawn body ttl_seconds [] ∈
      ledger loads ((before ++ [(Op.create purged created drawn body ttl_seconds, reply)]).map
        Prod.fst) := by
    rw [List.map_append]
    exact entryAfter_mem loads _ purged created drawn body ttl_seconds []
  have pending : (followed loads before created drawn body ttl_seconds []).pair.Shows loads none :=
    rfl
  have shows := shows_run created_run more fresh mem pending
  rw [Option.or_none] at shows
  exact shows

end History

/-! ### Being forgotten -/

/-- The reading of an operation's purge. -/
def Op.purgesAt : Op → Option Time
  | .create purged _ _ _ _ => some purged
  | .waitStart purged _ _ _ => some purged
  | _ => none

theorem Entry.forgotten_received (e : Entry) (loads : String → Loads) (now : Time)
    (token : String) (raw : List UInt8) (content_type : Option String) :
    (e.received loads now token raw content_type).forgotten = e.forgotten := by
  unfold Entry.received
  split
  · split <;> rfl
  · rfl

/-- An entry is forgotten by a purge once its tombstone is over, and by nothing
else. -/
theorem Entry.forgotten_act (e : Entry) (loads : String → Loads) (op : Op) :
    (e.act loads op).forgotten = true ↔
      e.forgotten = true ∨ ∃ purged, op.purgesAt = some purged ∧ e.pair.stale purged = true := by
  cases op with
  | create purged created drawn body ttl_seconds => simp [Entry.act, Entry.purged, Op.purgesAt]
  | waitStart purged now pair_ids wait_seconds => simp [Entry.act, Entry.purged, Op.purgesAt]
  | receive now token raw content_type =>
      rw [Entry.act, Entry.forgotten_received]
      simp [Op.purgesAt]
  | expire now pair_ids =>
      have same : (e.act loads (.expire now pair_ids)).forgotten = e.forgotten := by
        rw [Entry.act, Entry.foldl_cut]
        split <;> rfl
      simp [same, Op.purgesAt]
  | _ => simp [Entry.act, Op.purgesAt]

/-- The store has an entry's pair until it is forgotten. -/
theorem pairs_get_of_mem {s : Store} {l : Ledger} (refines : Refines s l) {e : Entry}
    (mem : e ∈ l) :
    s.pairs.get e.pair.pair_id = if e.forgotten then none else some e.pair := by
  obtain ⟨pair, forgotten⟩ := e
  cases forgotten with
  | false => exact (refines.pairs _ _).mpr ⟨mem, rfl⟩
  | true =>
      cases found : s.pairs.get pair.pair_id with
      | none => rfl
      | some pair' =>
          obtain ⟨mem', same⟩ := (refines.pairs _ _).mp found
          cases eq_of_pair_id refines.strings mem mem' same.symm

/-! ### Kinds of status -/

inductive ReplyKind where
  | pending
  | result
  | expired
  | unknown
deriving DecidableEq

def StatusReply.kind : StatusReply → ReplyKind
  | .unknown => .unknown
  | .received _ _ => .result
  | .malformed _ _ => .result
  | .expired => .expired
  | .pending _ => .pending

/-- From `pending` to a result or `expired`, and from these to `unknown`. -/
def ReplyKind.Forward (k k' : ReplyKind) : Prop := k = k' ∨ k = .pending ∨ k' = .unknown

theorem ReplyKind.Forward.trans {k k' k'' : ReplyKind} (first : k.Forward k')
    (second : k'.Forward k'') : k.Forward k'' := by
  rcases first with rfl | pending | rfl
  · exact second
  · exact Or.inr (Or.inl pending)
  · rcases second with rfl | impossible | gone
    · exact Or.inr (Or.inr rfl)
    · cases impossible
    · exact Or.inr (Or.inr gone)

/-- The kind of status of an entry's pair. -/
def Entry.kind (e : Entry) (now : Time) : ReplyKind :=
  if e.forgotten then .unknown
  else if e.pair.status ≠ .pending then .result
  else if e.pair.expired now then .expired
  else .pending

theorem Pair.reply_kind (pair : Pair) (now : Time) :
    (pair.reply now).kind = (⟨pair, false⟩ : Entry).kind now := by
  cases status : pair.status with
  | pending =>
      simp only [Pair.reply, Entry.kind, status]
      by_cases gone : pair.expired now = true
      · simp [gone, StatusReply.kind]
      · simp [gone, StatusReply.kind]
  | received => simp [Pair.reply, Entry.kind, status, StatusReply.kind]
  | malformed => simp [Pair.reply, Entry.kind, status, StatusReply.kind]

theorem status_kind {s : Store} {l : Ledger} (refines : Refines s l) {e : Entry} (mem : e ∈ l)
    (now : Time) : (s.status now e.pair.pair_id).kind = e.kind now := by
  rw [Store.status, pairs_get_of_mem refines mem]
  obtain ⟨pair, forgotten⟩ := e
  cases forgotten with
  | false => exact pair.reply_kind now
  | true => rfl

/-- Where the result stays as it is, a pair can only expire. -/
theorem Entry.kind_expires {e e' : Entry} {now now' : Time} (forgotten : e'.forgotten = e.forgotten)
    (status : e'.pair.status = e.pair.status)
    (expires : e.pair.expired now = true → e'.pair.expired now' = true) :
    (e.kind now).Forward (e'.kind now') := by
  unfold Entry.kind
  rw [forgotten, status]
  by_cases gone : e.forgotten = true
  · exact Or.inl (by rw [if_pos gone, if_pos gone])
  rw [if_neg gone, if_neg gone]
  by_cases decided : e.pair.status ≠ .pending
  · exact Or.inl (by rw [if_pos decided, if_pos decided])
  rw [if_neg decided, if_neg decided]
  by_cases late : e.pair.expired now = true
  · exact Or.inl (by rw [if_pos late, if_pos (expires late)])
  · rw [if_neg late]
    exact Or.inr (Or.inl rfl)

theorem Entry.kind_later (e : Entry) {now now' : Time} (later : now ≤ now') :
    (e.kind now).Forward (e.kind now') :=
  Entry.kind_expires rfl rfl fun late => decide_eq_true (le_trans (of_decide_eq_true late) later)

theorem Entry.kind_purged (e : Entry) (purged now : Time) :
    (e.kind now).Forward ((e.purged purged).kind now) := by
  unfold Entry.kind Entry.purged
  cases e.forgotten with
  | true => exact Or.inl rfl
  | false =>
      cases e.pair.stale purged with
      | true => exact Or.inr (Or.inr rfl)
      | false => exact Or.inl rfl

/-- A POST is accepted only while the pair is pending or has a result. -/
theorem Entry.kind_received (e : Entry) (loads : String → Loads) {now reading : Time}
    (later : now ≤ reading) (token : String) (raw : List UInt8) (content_type : Option String) :
    (e.kind now).Forward ((e.received loads reading token raw content_type).kind now) := by
  unfold Entry.received
  split
  · rename_i accepts
    split
    · exact Or.inl rfl
    · rename_i recorded records
      obtain ⟨status, parsed, rfl⟩ := Pair.record_iff.mp records
      obtain ⟨kept, fresh⟩ := Entry.live_iff.mp accepts.1
      have result : (Entry.mk (e.pair.withResult status (Utf8.decodeReplace raw) content_type)
          e.forgotten).kind now = .result := by
        simp [Entry.kind, kept, Pair.withResult, Loads.status_ne_pending parsed]
      have unexpired : e.pair.expired now = false :=
        decide_eq_false (not_le.mpr (lt_of_le_of_lt later fresh))
      change (e.kind now).Forward (Entry.kind ⟨_, e.forgotten⟩ now)
      rw [result]
      by_cases decided : e.pair.status ≠ .pending
      · exact Or.inl (by simp [Entry.kind, kept, decided])
      · refine Or.inr (Or.inl ?_)
        rw [ne_eq, not_not] at decided
        simp [Entry.kind, kept, decided, unexpired]
  · exact Or.inl rfl

/-- A deadline only moves towards the past. -/
theorem Entry.kind_cut (e : Entry) (reading now : Time) :
    (e.kind now).Forward (Entry.kind { e with pair := e.pair.cut reading } now) :=
  Entry.kind_expires rfl rfl fun late =>
    decide_eq_true (le_trans (min_le_left _ _) (of_decide_eq_true late))

/-- One step of an entry, at `now` or later. -/
theorem Entry.kind_act (e : Entry) (loads : String → Loads) (op : Op) {now : Time}
    (later : ∀ reading ∈ op.readings, now ≤ reading) :
    (e.kind now).Forward ((e.act loads op).kind now) := by
  cases op with
  | create purged created drawn body ttl_seconds => exact e.kind_purged purged now
  | waitStart purged now' pair_ids wait_seconds => exact e.kind_purged purged now
  | receive reading token raw content_type =>
      exact e.kind_received loads (later reading List.mem_cons_self) token raw content_type
  | expire reading pair_ids =>
      rw [Entry.act, Entry.foldl_cut]
      split
      · exact e.kind_cut reading now
      · exact Or.inl rfl
  | _ => exact Or.inl rfl

/-- Over some operations, at `now` or later. -/
theorem Entry.kind_foldl (e : Entry) (loads : String → Loads) (ops : List Op) {now : Time}
    (later : ∀ reading ∈ ops.flatMap Op.readings, now ≤ reading) :
    (e.kind now).Forward ((ops.foldl (Entry.act loads) e).kind now) := by
  induction ops generalizing e with
  | nil => exact Or.inl rfl
  | cons op rest ih =>
      rw [List.flatMap_cons] at later
      have first := e.kind_act loads op fun r mem => later r (List.mem_append_left _ mem)
      have more := ih (e.act loads op) fun r mem => later r (List.mem_append_right _ mem)
      exact first.trans more

/-! ### The history of one pair -/

theorem Pair.reply_ne_unknown (pair : Pair) (now : Time) : pair.reply now ≠ .unknown := by
  unfold Pair.reply
  split
  · nofun
  · nofun
  · split <;> nofun

/-- What a run keeps of a pair created in it, where it has got to. -/
structure Kept (loads : String → Loads) (before : List (Op × Reply)) (create : Op × Reply)
    (drawn : Drawn) (after : List (Op × Reply)) (service : Service) : Prop where
  /-- A pair held is reported from the last POST accepted on its own token, or
  from its deadline. -/
  reports : ∀ pair, service.store.pairs.get drawn.pair_id = some pair → ∀ now,
    service.store.status now drawn.pair_id =
      reported loads pair.expires_at now (lastAccepted drawn.post_token after)
  /-- A pair is unknown from the first purge after its tombstone on. -/
  unknown_iff : ∀ now, service.store.status now drawn.pair_id = .unknown ↔
    ∃ mid op r later s pair purged, after = mid ++ (op, r) :: later ∧
      Run (step loads) .empty (before ++ create :: mid) s ∧
      s.store.pairs.get drawn.pair_id = some pair ∧
      op.purgesAt = some purged ∧ pair.expires_at + TOMBSTONE_SECONDS ≤ purged
  /-- From any point of the run on, the kind of status only moves forward. -/
  forward : ∀ mid later s now now', after = mid ++ later →
    Run (step loads) .empty (before ++ create :: mid) s →
    Timed ((before ++ create :: mid).map Prod.fst ++
      .status now drawn.pair_id :: later.map Prod.fst ++ [.status now' drawn.pair_id]) →
    (s.store.status now drawn.pair_id).kind.Forward
      (service.store.status now' drawn.pair_id).kind

section Kept

variable {loads : String → Loads} {before after : List (Op × Reply)} {purged created : Time}
  {drawn : Drawn} {body : String} {ttl_seconds : Int} {reply : Reply} {service : Service}

/-- The entry was forgotten by one of the operations since. -/
theorem followed_forgotten_iff :
    (followed loads before created drawn body ttl_seconds after).forgotten = true ↔
      ∃ mid op r later, after = mid ++ (op, r) :: later ∧
        (followed loads before created drawn body ttl_seconds mid).forgotten = false ∧
        ∃ purged, op.purgesAt = some purged ∧
          (followed loads before created drawn body ttl_seconds mid).pair.stale purged = true := by
  induction after using List.reverseRecOn with
  | nil =>
      refine iff_of_false Bool.false_ne_true ?_
      rintro ⟨mid, op, r, later, split, _⟩
      exact List.append_ne_nil_of_right_ne_nil mid (List.cons_ne_nil _ _) split.symm
  | append_singleton after entry ih =>
      obtain ⟨op, r⟩ := entry
      rw [followed_snoc, Entry.forgotten_act, ih]
      constructor
      · rintro (⟨mid, op', r', later, rfl, first⟩ | purges)
        · exact ⟨mid, op', r', later ++ [(op, r)], by rw [List.append_assoc, List.cons_append],
            first⟩
        · cases kept : (followed loads before created drawn body ttl_seconds after).forgotten with
          | false => exact ⟨after, op, r, [], rfl, kept, purges⟩
          | true =>
              obtain ⟨mid, op', r', later, rfl, first⟩ := ih.mp kept
              exact ⟨mid, op', r', later ++ [(op, r)], by rw [List.append_assoc, List.cons_append],
                first⟩
      · rintro ⟨mid, op', r', later, split, first⟩
        cases later using List.reverseRecOn with
        | nil =>
            obtain ⟨rfl, last⟩ := List.append_inj' split rfl
            obtain ⟨rfl, _⟩ := Prod.mk.inj (List.singleton_inj.mp last)
            exact Or.inr first.2
        | append_singleton later last _ =>
            rw [← List.cons_append, ← List.append_assoc] at split
            exact Or.inl ⟨mid, op', r', later, (List.append_inj' split rfl).1, first⟩

theorem followed_append {later : List (Op × Reply)} :
    followed loads before created drawn body ttl_seconds (after ++ later) =
      (later.map Prod.fst).foldl (Entry.act loads)
        (followed loads before created drawn body ttl_seconds after) := by
  rw [followed, followed, entryAfter, entryAfter, List.map_append, List.foldl_append]

variable
  (run : Run (step loads) .empty
    (before ++ (.create purged created drawn body ttl_seconds, reply) :: after) service)
  (fresh : Fresh ((before ++ (.create purged created drawn body ttl_seconds, reply) ::
    after).map Prod.fst))

include run fresh

/-- The pair as the store holds it. -/
theorem followed_get :
    service.store.pairs.get drawn.pair_id =
      if (followed loads before created drawn body ttl_seconds after).forgotten then none
      else some (followed loads before created drawn body ttl_seconds after).pair := by
  obtain ⟨l, refines, mem⟩ := refines_followed run fresh
  have own : (followed loads before created drawn body ttl_seconds after).pair.pair_id =
      drawn.pair_id := followed_same.pair_id
  rw [← own, pairs_get_of_mem refines mem]

theorem followed_get_iff (pair : Pair) :
    service.store.pairs.get drawn.pair_id = some pair ↔
      followed loads before created drawn body ttl_seconds after = ⟨pair, false⟩ := by
  rw [followed_get run fresh]
  generalize followed loads before created drawn body ttl_seconds after = e
  obtain ⟨pair', forgotten⟩ := e
  cases forgotten <;> simp

theorem unknown_iff_forgotten (now : Time) :
    service.store.status now drawn.pair_id = .unknown ↔
      (followed loads before created drawn body ttl_seconds after).forgotten = true := by
  rw [Store.status, followed_get run fresh]
  cases (followed loads before created drawn body ttl_seconds after).forgotten with
  | true => simp
  | false => simp [Pair.reply_ne_unknown]

/-- **No result is lost, invented, crossed or resurrected.** After every run, each
pair created in it is reported from its own history, is unknown only once it has
been purged, and its kind of status only ever moved forward. -/
theorem results_kept :
    Kept loads before (.create purged created drawn body ttl_seconds, reply) drawn after
      service := by
  have fresh_until : ∀ mid later, after = mid ++ later →
      Fresh ((before ++ (.create purged created drawn body ttl_seconds, reply) ::
        mid).map Prod.fst) := by
    rintro mid later rfl
    rw [← List.cons_append, ← List.append_assoc] at fresh
    exact fresh_before fresh
  refine ⟨fun pair held now => ?_, fun now => ?_, fun mid later s now now' split run_mid timed => ?_⟩
  · have shows := shows_after run fresh
    rw [(followed_get_iff run fresh pair).mp held] at shows
    rw [Store.status, held]
    exact Pair.reply_of_shows shows now
  · rw [unknown_iff_forgotten run fresh, followed_forgotten_iff]
    constructor
    · rintro ⟨mid, op, r, later, split, kept, purged', purges, stale⟩
      have whole := run
      rw [split, ← List.cons_append, ← List.append_assoc] at whole
      obtain ⟨s, run_mid, _⟩ := whole.split
      have held := (followed_get_iff run_mid (fresh_until mid _ split)
        (followed loads before created drawn body ttl_seconds mid).pair).mpr (by rw [← kept])
      exact ⟨mid, op, r, later, s, _, purged', split, run_mid, held, purges,
        of_decide_eq_true stale⟩
    · rintro ⟨mid, op, r, later, s, pair, purged', split, run_mid, held, purges, late⟩
      rw [followed_get_iff run_mid (fresh_until mid _ split)] at held
      refine ⟨mid, op, r, later, split, ?_, purged', purges, ?_⟩
      · rw [held]
      · rw [held]
        exact decide_eq_true late
  · obtain ⟨l, refines_mid, mem_mid⟩ := refines_followed run_mid (fresh_until mid later split)
    obtain ⟨l', refines, mem⟩ := refines_followed run fresh
    have here := status_kind refines_mid mem_mid now
    have there := status_kind refines mem now'
    rw [followed_same.pair_id] at here there
    rw [Timed, List.append_assoc, List.flatMap_append, List.pairwise_append] at timed
    rw [List.cons_append, List.flatMap_cons, List.flatMap_append, List.flatMap_singleton] at timed
    have since : ∀ r ∈ (later.map Prod.fst).flatMap Op.readings ++ [now'], now ≤ r :=
      (List.pairwise_cons.mp timed.2.1).1
    have moved := (followed loads before created drawn body ttl_seconds mid).kind_foldl loads
      (later.map Prod.fst) fun r mem => since r (List.mem_append_left _ mem)
    rw [← followed_append, ← split] at moved
    have passed : now ≤ now' := since now' (List.mem_append_right _ List.mem_cons_self)
    change (s.store.status now drawn.pair_id).kind = _ at here
    change (service.store.status now' drawn.pair_id).kind = _ at there
    rw [here, there]
    exact moved.trans (Entry.kind_later _ passed)

end Kept

/-- One pair, and a POST to its token. -/
theorem onePost_kept :
    let posted := onePairService.store.receive (fun _ => .valueError) 1 "t" [0x6F, 0x6B] none
    Kept (fun _ => .valueError) []
      (onePair, .created (Store.empty.create 0 0 ⟨"p", "g", "t"⟩ "payload" 600).2)
      ⟨"p", "g", "t"⟩ [(.receive 1 "t" [0x6F, 0x6B] none, .receive posted.2)]
      { onePairService with store := posted.1 } :=
  results_kept (.cons rfl (.cons rfl (.nil _))) (by decide)

end NinjaOne
