import NinjaOne.Callbacks.Revocation
import NinjaOne.Callbacks.Wait

/-!
What a wait waits for, and what it has to say at its end.

A wait starts with a snapshot: the events of the requested pairs that are pending
and live. Between its start and its end any other operation may run.

* `event_set_iff`: a snapshot event is set exactly when a POST was accepted on its
  pair since the start.
* `snapshot_settled`: if all are set soon enough, every pair of the snapshot is
  reported with a result. `wait_sound` adds that there is one result for each
  requested id, told from the history of its pair unless a purge forgot it.
* `waits_for_live_iff`: the wait is blocked by pairs that are no longer live
  exactly when one of them lapsed without a POST.
-/

namespace NinjaOne

/-! ### The snapshot -/

/-- The store has this pair under `p`, pending and unexpired. -/
def Store.PendingAt (s : Store) (now : Time) (p : String) (pair : Pair) : Prop :=
  s.pairs.get p = some pair ∧ pair.status = .pending ∧ pair.expired now = false

theorem mem_waiting {s : Store} {now : Time} {ids : List String} {event : Nat} :
    event ∈ s.waiting now ids ↔ ∃ p ∈ ids, ∃ pair, s.PendingAt now p pair ∧ pair.done = event := by
  rw [Store.waiting, List.mem_filterMap]
  refine exists_congr fun p => and_congr_right fun _ => ?_
  unfold Store.PendingAt
  cases held : s.pairs.get p with
  | none => simp
  | some pair => simp [and_assoc]

theorem blocked_iff {call : Wait} {events : List Bool} : call.blocked events = true ↔
    0 < call.wait_seconds ∧ ∃ event ∈ call.awaited, events.getD event false = false := by
  simp [Wait.blocked]

/-- A pair has a result exactly when it shows an accepted POST. -/
theorem Pair.status_ne_pending_iff {loads : String → Loads} {pair : Pair} {last : Option Accepted}
    (shows : pair.Shows loads last) : pair.status ≠ .pending ↔ last.isSome = true := by
  cases last with
  | none => exact iff_of_false (fun decided => decided shows) Bool.false_ne_true
  | some post =>
      obtain ⟨status, parsed, eq⟩ := Pair.record_iff.mp shows
      rw [← eq]
      exact iff_of_true (Loads.status_ne_pending parsed) rfl

theorem le_deadlineAfter {pair_id : String} {deadline now : Time} {ops : List Op}
    (bound : now ≤ deadline) (later : ∀ reading ∈ ops.flatMap Op.readings, now ≤ reading) :
    now ≤ deadlineAfter pair_id deadline ops := by
  induction ops generalizing deadline with
  | nil => exact bound
  | cons op rest ih =>
      rw [List.flatMap_cons] at later
      refine ih ?_ fun reading mem => later reading (List.mem_append_right _ mem)
      cases op with
      | expire reading pair_ids =>
          rw [Op.cutsTo]
          split
          · exact le_min bound (later reading (List.mem_append_left _ List.mem_cons_self))
          · exact bound
      | _ => exact bound

theorem Op.purgesAt_mem {op : Op} {purged : Time} (purges : op.purgesAt = some purged) :
    purged ∈ op.readings := by
  cases op with
  | create purged' created drawn body ttl_seconds =>
      cases purges
      exact List.mem_cons_self
  | waitStart purged' now pair_ids wait_seconds =>
      cases purges
      exact List.mem_cons_self
  | _ => cases purges

/-- No purge forgets a pair that was live less than a tombstone ago. -/
theorem not_purgedSince {pair_id : String} {deadline now : Time} {ops : List Op}
    (bound : now ≤ deadline)
    (soon : ∀ reading ∈ ops.flatMap Op.readings, now ≤ reading ∧ reading < now + TOMBSTONE_SECONDS) :
    ¬ PurgedSince pair_id deadline ops := by
  rintro ⟨earlier, op, later, purged, rfl, purges, late⟩
  rw [List.flatMap_append, List.flatMap_cons] at soon
  have in_time := (soon purged (List.mem_append_right _
    (List.mem_append_left _ (Op.purgesAt_mem purges)))).2
  have kept : now ≤ deadlineAfter pair_id deadline earlier :=
    le_deadlineAfter bound fun reading mem => (soon reading (List.mem_append_left _ mem)).1
  exact absurd (lt_of_le_of_lt late in_time) (not_lt.mpr (add_le_add_left kept _))

/-- A pair that was purged is past its deadline. -/
theorem PurgedSince.deadline_le {pair_id : String} {deadline at_time : Time} {ops : List Op}
    (purged : PurgedSince pair_id deadline ops)
    (past : ∀ reading ∈ ops.flatMap Op.readings, reading ≤ at_time) :
    deadlineAfter pair_id deadline ops ≤ at_time := by
  obtain ⟨earlier, op, later, reading, rfl, purges, late⟩ := purged
  have tombstone : (0 : Time) ≤ TOMBSTONE_SECONDS := by norm_num [TOMBSTONE_SECONDS]
  rw [List.flatMap_append, List.flatMap_cons] at past
  have read := past reading (List.mem_append_right _
    (List.mem_append_left _ (Op.purgesAt_mem purges)))
  rw [deadlineAfter_append]
  calc deadlineAfter pair_id (deadlineAfter pair_id deadline earlier) (op :: later)
      ≤ deadlineAfter pair_id deadline earlier := deadlineAfter_le _ _ _
    _ ≤ deadlineAfter pair_id deadline earlier + TOMBSTONE_SECONDS :=
        le_add_of_nonneg_right tombstone
    _ ≤ reading := late
    _ ≤ at_time := read

/-! ### From the start of a wait on -/

section Started

variable {loads : String → Loads} {before mid : List (Op × Reply)} {s started service : Service}
  {purged now wait_seconds : Time} {ids : List String} {wait : Nat}
  (run : Run (step loads) .empty before s)
  (starts : step loads s (.waitStart purged now ids wait_seconds) = some (started, .waiting wait))
  (more : Run (step loads) started mid service)
  (fresh : Fresh ((before ++ (.waitStart purged now ids wait_seconds, .waiting wait) ::
    mid).map Prod.fst))

include run starts more fresh

/-- The entry of a pair that the store has at the start. -/
theorem started_entry {p : String} {pair : Pair} (held : started.store.pairs.get p = some pair) :
    pair.pair_id = p ∧
      (⟨pair, false⟩ : Entry) ∈ ledger loads ((before ++
        [(Op.waitStart purged now ids wait_seconds, Reply.waiting wait)]).map Prod.fst) ∧
      ∃ l, Refines service.store l ∧
        (mid.map Prod.fst).foldl (Entry.act loads) ⟨pair, false⟩ ∈ l := by
  rw [List.append_cons] at fresh
  have begun := Run.snoc_iff.mpr ⟨s, run, starts⟩
  have refines := refines_run begun (fresh_before fresh)
  obtain ⟨mem, own⟩ := (refines.pairs p pair).mp held
  have here := mem_ledger_append mem (mid.map Prod.fst)
  rw [← List.map_append] at here
  exact ⟨own, mem, _, refines_run (begun.append more) fresh, here⟩

/-- What a pair pending at the start shows later: the last POST accepted since. -/
theorem started_shows {p : String} {pair : Pair} (pending : started.store.PendingAt now p pair) :
    ((mid.map Prod.fst).foldl (Entry.act loads) ⟨pair, false⟩).pair.Shows loads
      (lastAccepted pair.post_token mid) := by
  obtain ⟨_, mem, _⟩ := started_entry run starts more fresh pending.1
  rw [List.append_cons] at fresh
  have shows := shows_run (Run.snoc_iff.mpr ⟨s, run, starts⟩) more fresh mem
    (show Pair.Shows loads pair none from pending.2.1)
  rw [Option.or_none] at shows
  exact shows

/-- **A snapshot event is set exactly when a POST was accepted since.** -/
theorem event_set_iff {p : String} {pair : Pair} (pending : started.store.PendingAt now p pair) :
    service.store.events.getD pair.done false = true ↔
      (lastAccepted pair.post_token mid).isSome = true := by
  obtain ⟨_, _, l, refines, mem⟩ := started_entry run starts more fresh pending.1
  have event := events_of_mem refines mem
  rw [(Entry.same_foldl ⟨pair, false⟩ loads (mid.map Prod.fst)).done] at event
  rw [List.getD_eq_getElem?_getD, event, Option.getD_some, Entry.decided, decide_eq_true_eq]
  exact Pair.status_ne_pending_iff (started_shows run starts more fresh pending)

/-- If its event is set within a tombstone of the start, a pair of the snapshot
has its result. -/
theorem snapshot_settled {p : String} {pair : Pair} (pending : started.store.PendingAt now p pair)
    (event : service.store.events.getD pair.done false = true)
    (soon : ∀ reading ∈ (mid.map Prod.fst).flatMap Op.readings,
      now ≤ reading ∧ reading < now + TOMBSTONE_SECONDS) (reading : Time) :
    (service.store.status reading p).kind = .result := by
  obtain ⟨own, _, l, refines, mem⟩ := started_entry run starts more fresh pending.1
  have same := Entry.same_foldl ⟨pair, false⟩ loads (mid.map Prod.fst)
  have live : now ≤ pair.expires_at := le_of_lt (not_le.mp (of_decide_eq_false pending.2.2))
  have kept : ((mid.map Prod.fst).foldl (Entry.act loads) ⟨pair, false⟩).forgotten = false := by
    rw [← Bool.not_eq_true, Entry.forgotten_foldl_iff loads _ rfl]
    exact not_purgedSince live soon
  have decided := (Pair.status_ne_pending_iff (started_shows run starts more fresh pending)).mpr
    ((event_set_iff run starts more fresh pending).mp event)
  have kind := status_kind refines mem reading
  rw [same.pair_id, own] at kind
  rw [kind, Entry.kind, kept, if_pos decided]
  rfl

end Started

/-! ### The results at its end -/

theorem statuses_fold (s : Store) (ids : List String) (readings : List Time) :
    s.statuses ids readings = ((ids.zip readings).map fun (p, now) => (p, s.status now p)).foldl
      (fun out entry => Dict.assign entry.1 entry.2 out) [] := by
  rw [List.foldl_map]
  rfl

/-- A result is the store's status of its id, at one of the readings. -/
theorem mem_statuses {s : Store} {ids : List String} {readings : List Time} {p : String}
    {r : StatusReply} (mem : (p, r) ∈ s.statuses ids readings) :
    ∃ now, (p, now) ∈ ids.zip readings ∧ r = s.status now p := by
  rw [statuses_fold] at mem
  rcases Dict.mem_foldl_assign mem with listed | none
  · obtain ⟨⟨q, now⟩, read, eq⟩ := List.mem_map.mp listed
    obtain ⟨rfl, rfl⟩ := Prod.mk.inj eq
    exact ⟨now, read, rfl⟩
  · cases none

/-- One result for each requested id. -/
structure OncePerId (ids : List String) (results : List (String × StatusReply)) : Prop where
  nodup : (results.map Prod.fst).Nodup
  asked : ∀ p, p ∈ results.map Prod.fst ↔ p ∈ ids

theorem statuses_once {s : Store} {ids : List String} {readings : List Time}
    (length : readings.length = ids.length) : OncePerId ids (s.statuses ids readings) := by
  refine ⟨?_, ?_⟩
  · rw [statuses_fold]
    exact Dict.nodup_keys_foldl_assign List.nodup_nil
  · intro p
    have keys : ((ids.zip readings).map fun (p, now) => (p, s.status now p)).map Prod.fst = ids := by
      rw [List.map_map]
      exact List.map_fst_zip (Nat.le_of_eq length.symm)
    rw [statuses_fold, Dict.mem_keys_foldl_assign, keys]
    exact or_iff_left List.not_mem_nil

section History

variable {loads : String → Loads} {before after trace : List (Op × Reply)} {purged created : Time}
  {drawn : Drawn} {body : String} {ttl_seconds : Int} {reply : Reply} {service : Service}

/-- The status of a pair created in a run, from the history since. -/
theorem status_followed
    (run : Run (step loads) .empty
      (before ++ (.create purged created drawn body ttl_seconds, reply) :: after) service)
    (fresh : Fresh ((before ++ (.create purged created drawn body ttl_seconds, reply) ::
      after).map Prod.fst)) (now : Time) :
    (PurgedSince drawn.pair_id (created + clampTtl ttl_seconds) (after.map Prod.fst) →
      service.store.status now drawn.pair_id = .unknown) ∧
    (¬ PurgedSince drawn.pair_id (created + clampTtl ttl_seconds) (after.map Prod.fst) →
      service.store.status now drawn.pair_id =
        reported loads (deadlineAfter drawn.pair_id (created + clampTtl ttl_seconds)
          (after.map Prod.fst)) now (lastAccepted drawn.post_token after)) := by
  have forgotten : (followed loads before created drawn body ttl_seconds after).forgotten = true ↔
      PurgedSince drawn.pair_id (created + clampTtl ttl_seconds) (after.map Prod.fst) :=
    Entry.forgotten_foldl_iff loads (after.map Prod.fst) rfl
  refine ⟨fun purged => ?_, fun kept => ?_⟩
  · exact (unknown_iff_forgotten run fresh now).mpr (forgotten.mpr purged)
  · rw [← forgotten, Bool.not_eq_true] at kept
    have deadline := Entry.expires_at_foldl _ loads (after.map Prod.fst) kept
    have held := followed_get run fresh
    rw [kept, if_neg Bool.false_ne_true] at held
    rw [Store.status, held]
    exact (Pair.reply_of_shows (shows_after run fresh) now).trans
      (congrArg (fun deadline => reported loads deadline now (lastAccepted drawn.post_token after))
        deadline)

/-- An id that no `create` of the run drew is unknown. -/
theorem status_uncreated (run : Run (step loads) .empty trace service)
    (fresh : Fresh (trace.map Prod.fst)) {p : String}
    (uncreated : ∀ purged created drawn body ttl_seconds,
      Op.create purged created drawn body ttl_seconds ∈ trace.map Prod.fst → drawn.pair_id ≠ p)
    (now : Time) : service.store.status now p = .unknown := by
  have refines := refines_run run fresh
  have absent : service.store.pairs.get p = none := by
    rw [Option.eq_none_iff_forall_not_mem]
    intro pair held
    obtain ⟨mem, own⟩ := (refines.pairs p pair).mp held
    obtain ⟨before, purged, created, drawn, body, ttl_seconds, after, split, eq⟩ := mem_ledger mem
    have same := Entry.same_foldl ⟨drawn.pair body ttl_seconds created
      (ledger loads before).length, false⟩ loads after
    rw [← entryAfter, ← eq] at same
    refine uncreated purged created drawn body ttl_seconds ?_ (same.pair_id.symm.trans own)
    rw [split]
    exact List.mem_append_right _ List.mem_cons_self
  rw [Store.status, absent]

end History

/-- Each result of a pair created in the run is the last POST accepted on it, or
else how its deadline stands. -/
def ReflectsPosts (loads : String → Loads) (trace : List (Op × Reply)) (ids : List String)
    (readings : List Time) (results : List (String × StatusReply)) : Prop :=
  ∀ before purged created drawn body ttl_seconds reply after r,
    trace = before ++ (.create purged created drawn body ttl_seconds, reply) :: after →
    (drawn.pair_id, r) ∈ results → ∃ now, (drawn.pair_id, now) ∈ ids.zip readings ∧
      r = reported loads (deadlineAfter drawn.pair_id (created + clampTtl ttl_seconds)
        (after.map Prod.fst)) now (lastAccepted drawn.post_token after)

/-- The same until a purge forgets the pair; what was purged or never created is
unknown. -/
structure ReflectsHeld (loads : String → Loads) (trace : List (Op × Reply)) (ids : List String)
    (readings : List Time) (results : List (String × StatusReply)) : Prop where
  held : ∀ before purged created drawn body ttl_seconds reply after r,
    trace = before ++ (.create purged created drawn body ttl_seconds, reply) :: after →
    ¬ PurgedSince drawn.pair_id (created + clampTtl ttl_seconds) (after.map Prod.fst) →
    (drawn.pair_id, r) ∈ results → ∃ now, (drawn.pair_id, now) ∈ ids.zip readings ∧
      r = reported loads (deadlineAfter drawn.pair_id (created + clampTtl ttl_seconds)
        (after.map Prod.fst)) now (lastAccepted drawn.post_token after)
  purged : ∀ before purged created drawn body ttl_seconds reply after r,
    trace = before ++ (.create purged created drawn body ttl_seconds, reply) :: after →
    PurgedSince drawn.pair_id (created + clampTtl ttl_seconds) (after.map Prod.fst) →
    (drawn.pair_id, r) ∈ results → r = .unknown
  uncreated : ∀ p r, (∀ purged created drawn body ttl_seconds,
      Op.create purged created drawn body ttl_seconds ∈ trace.map Prod.fst → drawn.pair_id ≠ p) →
    (p, r) ∈ results → r = .unknown

theorem reflectsHeld_statuses {loads : String → Loads} {trace : List (Op × Reply)}
    {service : Service} (run : Run (step loads) .empty trace service)
    (fresh : Fresh (trace.map Prod.fst)) (ids : List String) (readings : List Time) :
    ReflectsHeld loads trace ids readings (service.store.statuses ids readings) := by
  refine ⟨?_, ?_, ?_⟩
  · rintro before purged created drawn body ttl_seconds reply after r rfl kept mem
    obtain ⟨now, read, rfl⟩ := mem_statuses mem
    exact ⟨now, read, (status_followed run fresh now).2 kept⟩
  · rintro before purged created drawn body ttl_seconds reply after r rfl forgotten mem
    obtain ⟨now, _, rfl⟩ := mem_statuses mem
    exact (status_followed run fresh now).1 forgotten
  · intro p r uncreated mem
    obtain ⟨now, _, rfl⟩ := mem_statuses mem
    exact status_uncreated run fresh uncreated now

/-- Every requested pair that was pending and live at the start is reported with
its result. -/
def SettlesSnapshot (started : Store) (now : Time) (ids : List String)
    (results : List (String × StatusReply)) : Prop :=
  ∀ p ∈ ids, ∀ pair, started.PendingAt now p pair → ∃ r, (p, r) ∈ results ∧ r.kind = .result

section Ended

variable {loads : String → Loads} {before mid : List (Op × Reply)}
  {s started service service' : Service} {purged now wait_seconds : Time} {ids : List String}
  {wait : Nat} {readings : List Time} {timed_out : Bool} {results : List (String × StatusReply)}

/-- **A wait is sound.** If it ends with all events of its snapshot set, sooner
than a tombstone after its start, then every pair of the snapshot has its result;
and however it ends, there is one result for each requested id, told from the
history of its pair up to the end unless a purge forgot it. -/
theorem wait_sound (run : Run (step loads) .empty before s)
    (starts : step loads s (.waitStart purged now ids wait_seconds) =
      some (started, .waiting wait))
    (more : Run (step loads) started mid service)
    (ends : step loads service (.waitEnd wait readings timed_out) =
      some (service', .waited results))
    (fresh : Fresh ((before ++ (.waitStart purged now ids wait_seconds, .waiting wait) ::
      mid).map Prod.fst))
    (timed : Timed ((before ++ (.waitStart purged now ids wait_seconds, .waiting wait) ::
      mid).map Prod.fst ++ [.waitEnd wait readings timed_out])) :
    ((∀ event ∈ started.store.waiting now ids, service.store.events.getD event false = true) →
      (∃ reading ∈ readings, reading < now + TOMBSTONE_SECONDS) →
      SettlesSnapshot started.store now ids results) ∧
    OncePerId ids results ∧
    ReflectsHeld loads (before ++ (.waitStart purged now ids wait_seconds, .waiting wait) :: mid)
      ids readings results := by
  obtain ⟨length, rfl⟩ := waited_statuses starts more ends
  have once : OncePerId ids (service.store.statuses ids readings) := statuses_once length
  have whole := run.append (.cons starts more)
  refine ⟨?_, once, reflectsHeld_statuses whole fresh ids readings⟩
  rintro all_set ⟨last, read, early⟩ p asked pair pending
  -- Every reading since the start lies between `now` and `last`.
  have soon : ∀ reading ∈ (mid.map Prod.fst).flatMap Op.readings,
      now ≤ reading ∧ reading < now + TOMBSTONE_SECONDS := by
    intro reading mem
    have earlier := @Timed.earlier _ _ last timed read reading
    rw [Timed, List.map_append, List.map_cons, List.append_assoc, List.flatMap_append,
      List.pairwise_append, List.cons_append, List.flatMap_cons, List.pairwise_append,
      List.flatMap_append] at timed
    rw [List.map_append, List.map_cons, List.flatMap_append, List.flatMap_cons] at earlier
    have since := timed.2.1.2.2 now (List.mem_cons_of_mem _ List.mem_cons_self) reading
      (List.mem_append_left _ mem)
    exact ⟨since, lt_of_le_of_lt
      (earlier (List.mem_append_right _ (List.mem_append_right _ mem))) early⟩
  have event := all_set _ (mem_waiting.mpr ⟨p, asked, pair, pending, rfl⟩)
  obtain ⟨⟨p, r⟩, mem, rfl⟩ := List.mem_map.mp ((once.asked p).mpr asked)
  refine ⟨r, mem, ?_⟩
  obtain ⟨reading, _, rfl⟩ := mem_statuses mem
  exact snapshot_settled run starts more fresh pending event soon reading

end Ended

/-! ### One pair awaited -/

/-- The pair with `ok` posted to it, which is not JSON. -/
def okPair : Pair := createdPair.withResult .malformed (Utf8.decodeReplace [0x6F, 0x6B]) none

theorem okPair_records :
    createdPair.record (fun _ => .valueError) [0x6F, 0x6B] none = some okPair := rfl

theorem onePair_purge {now : Time} (early : now < 600) :
    onePairService.store.purge now = onePairService.store := by
  have kept : createdPair.stale now = false :=
    Pair.not_stale (le_refl now) (lt_of_lt_of_eq early createdPair_deadline.symm)
  have none_stale : onePairService.store.pairs.entries.filter
      (fun entry => entry.2.stale now) = [] :=
    List.filter_cons_of_neg (p := fun entry : String × Pair => entry.2.stale now)
      (a := ("p", createdPair)) (by rw [kept]; exact Bool.false_ne_true)
  rw [Store.purge, none_stale]
  rfl

/-- The service while a wait for the pair is open. -/
def onePairAwaited : Service :=
  { store := onePairService.store.purge 1
    waits := [some ⟨["p"], 30, (onePairService.store.purge 1).waiting 1 ["p"]⟩] }

/-- The same once a POST has been accepted. -/
def onePairPosted : Service := { onePairAwaited with store := (onePairWith okPair).store }

theorem awaited_posted : Run (step fun _ => .valueError) onePairAwaited
    [(.receive 2 "t" [0x6F, 0x6B] none, .receive (.returned true))] onePairPosted := by
  refine .cons ?_ (.nil _)
  have posted := onePair_receive (by norm_num : (2 : Time) < 600) okPair_records
  rw [← onePair_purge (by norm_num : (1 : Time) < 600)] at posted
  rw [step, onePairAwaited, posted]
  rfl

/-- The wait ends at 3 with the result of the POST. -/
theorem awaited_settled : SettlesSnapshot (onePairService.store.purge 1) 1 ["p"]
    (onePairPosted.store.statuses ["p"] [3]) := by
  have sound := wait_sound (onePair_run fun _ => .valueError)
    (rfl : step _ _ (.waitStart 1 1 ["p"] 30) = some (onePairAwaited, .waiting 0)) awaited_posted
    (rfl : step _ _ (.waitEnd 0 [3] true) = some (_, .waited _)) (by decide)
    (by simp [Timed, onePair, Op.readings]; norm_num)
  refine sound.1 ?_ ⟨3, List.mem_cons_self, by norm_num [TOMBSTONE_SECONDS]⟩
  intro event mem
  obtain ⟨p, asked, pair, pending, rfl⟩ := mem_waiting.mp mem
  obtain rfl := List.mem_singleton.mp asked
  have held : some createdPair = some pair := (purge_pairs.mp pending.1).1
  cases held
  rfl

/-- A pair with a result, purged by the wait that asks for it. -/
theorem late_wait_unknown : ¬ ∀ (loads : String → Loads) (before mid : List (Op × Reply))
    (s started service service' : Service) (purged now wait_seconds : Time) (ids : List String)
    (wait : Nat) (readings : List Time) (timed_out : Bool) (results : List (String × StatusReply)),
    Run (step loads) .empty before s →
    step loads s (.waitStart purged now ids wait_seconds) = some (started, .waiting wait) →
    Run (step loads) started mid service →
    step loads service (.waitEnd wait readings timed_out) = some (service', .waited results) →
    Fresh ((before ++ (.waitStart purged now ids wait_seconds, .waiting wait) ::
      mid).map Prod.fst) →
    Timed ((before ++ (.waitStart purged now ids wait_seconds, .waiting wait) ::
      mid).map Prod.fst ++ [.waitEnd wait readings timed_out]) →
    ((∀ event ∈ started.store.waiting now ids, service.store.events.getD event false = true) →
      (∃ reading ∈ readings, reading < now + TOMBSTONE_SECONDS) →
      SettlesSnapshot started.store now ids results) ∧
    OncePerId ids results ∧
    ReflectsPosts loads (before ++ (.waitStart purged now ids wait_seconds, .waiting wait) :: mid)
      ids readings results := by
  intro all
  have run := onePair_post_run (by norm_num : (1 : Time) < 600) okPair_records
  have claimed := all _ _ [] _ _ _ _ 2001 2001 0 ["p"] 0 [2001] true _ run rfl (.nil _) rfl
    (by decide) (by simp [Timed, onePair, Op.readings])
  have late : okPair.stale 2001 = true := by
    refine decide_eq_true ?_
    change createdPair.expires_at + TOMBSTONE_SECONDS ≤ 2001
    rw [createdPair_deadline]
    norm_num [TOMBSTONE_SECONDS]
  have gone : ((onePairWith okPair).store.purge 2001).pairs.get "p" = none := by
    rw [Option.eq_none_iff_forall_not_mem]
    intro pair held
    obtain ⟨here, kept⟩ := purge_pairs.mp held
    have same : some okPair = some pair := here
    cases same
    rw [late] at kept
    cases kept
  have unknown : ((onePairWith okPair).store.purge 2001).status 2001 "p" = .unknown := by
    rw [Store.status, gone]
  have listed : ("p", StatusReply.unknown) ∈
      ((onePairWith okPair).store.purge 2001).statuses ["p"] [2001] := by
    rw [statuses_eq (by decide) rfl, ← unknown]
    exact List.mem_cons_self
  obtain ⟨now, _, shown⟩ := claimed.2.2 [] 0 0 ⟨"p", "g", "t"⟩ "payload" 600 _ _ _ rfl listed
  cases shown

/-! ### Pairs that stop being live -/

/-- Since then no POST was accepted on the pair, and its deadline is reached: its
own, or that of an `expire` that named it. -/
def Lapsed (pair : Pair) (since : List (Op × Reply)) (at_time : Time) : Prop :=
  lastAccepted pair.post_token since = none ∧
    deadlineAfter pair.pair_id pair.expires_at (since.map Prod.fst) ≤ at_time

/-- Some requested pair is pending and unexpired. -/
def AnyPending (s : Store) (at_time : Time) (ids : List String) : Prop :=
  ∃ p ∈ ids, ∃ pair, s.PendingAt at_time p pair

section Open

variable {loads : String → Loads} {before mid : List (Op × Reply)} {s started service : Service}
  {purged now wait_seconds at_time : Time} {ids : List String} {wait : Nat} {call : Wait}
  (run : Run (step loads) .empty before s)
  (starts : step loads s (.waitStart purged now ids wait_seconds) = some (started, .waiting wait))
  (more : Run (step loads) started mid service)
  (fresh : Fresh ((before ++ (.waitStart purged now ids wait_seconds, .waiting wait) ::
    mid).map Prod.fst))

include run starts more fresh

/-- An open wait is blocked by the pairs of its snapshot without a POST since. -/
theorem open_blocked_iff (found : service.waits[wait]? = some (some call)) :
    call.blocked service.store.events = true ↔ 0 < wait_seconds ∧
      ∃ p ∈ ids, ∃ pair, started.store.PendingAt now p pair ∧
        lastAccepted pair.post_token mid = none := by
  obtain rfl := call_of_open starts more found
  rw [blocked_iff]
  refine and_congr_right fun _ => ?_
  have unset_iff : ∀ {p : String} {pair : Pair}, started.store.PendingAt now p pair →
      (service.store.events.getD pair.done false = false ↔
        lastAccepted pair.post_token mid = none) := by
    intro p pair pending
    rw [← Bool.not_eq_true, event_set_iff run starts more fresh pending, Bool.not_eq_true,
      Option.isSome_eq_false_iff, Option.isNone_iff_eq_none]
  constructor
  · rintro ⟨event, mem, unset⟩
    obtain ⟨p, asked, pair, pending, rfl⟩ := mem_waiting.mp mem
    exact ⟨p, asked, pair, pending, (unset_iff pending).mp unset⟩
  · rintro ⟨p, asked, pair, pending, unposted⟩
    exact ⟨pair.done, mem_waiting.mpr ⟨p, asked, pair, pending, rfl⟩,
      (unset_iff pending).mpr unposted⟩

/-- A pair of the snapshot without a POST since is still pending and live, or has
lapsed. -/
theorem pending_or_lapsed {p : String} {pair : Pair}
    (pending : started.store.PendingAt now p pair)
    (past : ∀ reading ∈ (mid.map Prod.fst).flatMap Op.readings, reading ≤ at_time)
    (unposted : lastAccepted pair.post_token mid = none) :
    (∃ pair', service.store.PendingAt at_time p pair') ∨ Lapsed pair mid at_time := by
  obtain ⟨own, _, l, refines, mem⟩ := started_entry run starts more fresh pending.1
  have same := Entry.same_foldl ⟨pair, false⟩ loads (mid.map Prod.fst)
  have shows := started_shows run starts more fresh pending
  rw [unposted] at shows
  cases forgotten : ((mid.map Prod.fst).foldl (Entry.act loads) ⟨pair, false⟩).forgotten with
  | true =>
      have gone := (Entry.forgotten_foldl_iff loads _ rfl).mp forgotten
      exact Or.inr ⟨unposted, gone.deadline_le past⟩
  | false =>
      have deadline := Entry.expires_at_foldl _ loads (mid.map Prod.fst) forgotten
      have held := pairs_get_of_mem refines mem
      rw [forgotten, if_neg Bool.false_ne_true, same.pair_id, own] at held
      by_cases late : deadlineAfter pair.pair_id pair.expires_at (mid.map Prod.fst) ≤ at_time
      · exact Or.inr ⟨unposted, late⟩
      · rw [← deadline] at late
        exact Or.inl ⟨_, held, shows, decide_eq_false late⟩

/-- **When a wait waits for live pairs only.** In every state of a run in which
the wait is open: unless one of its pairs is pending and live, it is not blocked,
exactly when it may not block at all, or one of its pairs is pending and live, or
no pair of its snapshot has lapsed. -/
theorem waits_for_live_iff (found : service.waits[wait]? = some (some call))
    (past : ∀ reading ∈ (mid.map Prod.fst).flatMap Op.readings, reading ≤ at_time) :
    (¬ AnyPending service.store at_time ids → call.blocked service.store.events = false) ↔
      wait_seconds ≤ 0 ∨ AnyPending service.store at_time ids ∨
        ∀ p ∈ ids, ∀ pair, started.store.PendingAt now p pair → ¬ Lapsed pair mid at_time := by
  have blocked := open_blocked_iff run starts more fresh found
  constructor
  · intro unblocked
    by_cases any : AnyPending service.store at_time ids
    · exact Or.inr (Or.inl any)
    · by_cases short : wait_seconds ≤ 0
      · exact Or.inl short
      · refine Or.inr (Or.inr ?_)
        intro p asked pair pending lapsed
        have held := blocked.mpr ⟨not_le.mp short, p, asked, pair, pending, lapsed.1⟩
        rw [unblocked any] at held
        cases held
  · intro spared none
    by_contra held
    rw [Bool.not_eq_false] at held
    obtain ⟨long, p, asked, pair, pending, unposted⟩ := blocked.mp held
    have lapsed := (pending_or_lapsed run starts more fresh pending past unposted).resolve_left
      fun ⟨pair', live⟩ => none ⟨p, asked, pair', live⟩
    rcases spared with short | any | unlapsed
    · exact absurd long (not_lt.mpr short)
    · exact none any
    · exact unlapsed p asked pair pending lapsed

end Open

/-- The wait for one pair, at 3: a POST has been accepted and freed it. -/
theorem awaited_free :
    (¬ AnyPending onePairPosted.store 3 ["p"] →
      Wait.blocked ⟨["p"], 30, (onePairService.store.purge 1).waiting 1 ["p"]⟩
        onePairPosted.store.events = false) ↔
      (30 : Time) ≤ 0 ∨ AnyPending onePairPosted.store 3 ["p"] ∨
        ∀ p ∈ ["p"], ∀ pair, (onePairService.store.purge 1).PendingAt 1 p pair →
          ¬ Lapsed pair [(.receive 2 "t" [0x6F, 0x6B] none, .receive (.returned true))] 3 :=
  waits_for_live_iff (onePair_run fun _ => .valueError)
    (rfl : step _ _ (.waitStart 1 1 ["p"] 30) = some (onePairAwaited, .waiting 0)) awaited_posted
    (by decide) (rfl : _ = some (some _)) (by simp [Op.readings]; norm_num)

/-- The service once the pair has been revoked while the wait is open. -/
def onePairRevoked : Service :=
  { onePairAwaited with store := (onePairAwaited.store.expire 2 ["p"]).1 }

/-- A pair that is revoked holds the wait for it. -/
theorem revoked_holds_wait : ¬ ∀ (loads : String → Loads) (before mid : List (Op × Reply))
    (s started service : Service) (purged now wait_seconds at_time : Time) (ids : List String)
    (wait : Nat) (call : Wait),
    Run (step loads) .empty before s →
    step loads s (.waitStart purged now ids wait_seconds) = some (started, .waiting wait) →
    Run (step loads) started mid service →
    Fresh ((before ++ (.waitStart purged now ids wait_seconds, .waiting wait) ::
      mid).map Prod.fst) →
    Timed ((before ++ (.waitStart purged now ids wait_seconds, .waiting wait) ::
      mid).map Prod.fst) →
    (∀ reading ∈ (mid.map Prod.fst).flatMap Op.readings, reading ≤ at_time) →
    at_time < now + wait_seconds → service.waits[wait]? = some (some call) →
    ¬ AnyPending service.store at_time ids → call.blocked service.store.events = false := by
  intro all
  have run := onePair_run fun _ => .valueError
  have starts : step (fun _ => .valueError) onePairService (.waitStart 1 1 ["p"] 30) =
    some (onePairAwaited, .waiting 0) := rfl
  have more : Run (step fun _ => .valueError) onePairAwaited
      [(.expire 2 ["p"], .expire (onePairAwaited.store.expire 2 ["p"]).2)] onePairRevoked :=
    .cons rfl (.nil _)
  have freed := all _ _ _ _ _ _ 1 1 30 3 ["p"] 0 _ run starts more (by decide)
    (by simp [Timed, onePair, Op.readings]) (by simp [Op.readings]; norm_num)
    (by norm_num) rfl
  have pending : (onePairService.store.purge 1).PendingAt 1 "p" createdPair := by
    rw [onePair_purge (by norm_num)]
    exact ⟨rfl, rfl, createdPair_unexpired (by norm_num)⟩
  have held := (open_blocked_iff run starts more (by decide) rfl).mpr
    ⟨by norm_num, "p", List.mem_cons_self, createdPair, pending, rfl⟩
  have none_pending : ¬ AnyPending onePairRevoked.store 3 ["p"] := by
    rintro ⟨p, asked, pair, here, _, unexpired⟩
    obtain rfl := List.mem_singleton.mp asked
    have cut : onePairRevoked.store.pairs.get "p" = some (createdPair.cut 2) := by
      change ((onePairService.store.purge 1).expireOne 2 "p").pairs.get "p" = _
      rw [onePair_purge (by norm_num)]
      rfl
    rw [cut, Option.some.injEq] at here
    subst here
    have early : (createdPair.cut 2).expires_at ≤ 2 := min_le_right _ _
    exact of_decide_eq_false unexpired (le_trans early (by norm_num))
  rw [freed none_pending] at held
  cases held

end NinjaOne
