import NinjaOne.Callbacks.Results

/-!
A pair among others, and the same pair by itself.

All callers share one store. What the holder of a pair can see of it is what a
store would show that never held anything else, and in which only the operations
on this very pair were made. Of all that others do one thing shows: a purge
forgets the pair once its tombstone is over, whoever caused it.

* `alike_act`: an operation keeps an entry of the shared store and the entry of
  the other store alike.
* `pair_as_if_alone`: over whole runs.
-/

namespace NinjaOne

/-! ### Operations on one pair -/

/-- Whether an operation is a POST to the pair's token or an `expire` of the pair. -/
def Op.concerns (drawn : Drawn) : Op → Bool
  | .receive _ token _ _ => decide (token = drawn.post_token)
  | .expire _ pair_ids => decide (drawn.pair_id ∈ pair_ids)
  | _ => false

theorem Op.purgesAt_readings {op : Op} {reading : Time} (purges : reading ∈ op.purgesAt.toList) :
    reading ∈ op.readings := by
  cases op with
  | create => exact List.mem_singleton.mp purges ▸ List.mem_cons_self
  | waitStart => exact List.mem_singleton.mp purges ▸ List.mem_cons_self
  | _ => cases purges

/-- These draw no strings. -/
theorem draws_nothing (drawn : Drawn) (ops : List Op) :
    (ops.filter (Op.concerns drawn)).flatMap Op.drawn = [] := by
  refine List.flatMap_eq_nil_iff.mpr fun op mem => ?_
  have concerned := (List.mem_filter.mp mem).2
  cases op with
  | create => cases concerned
  | _ => rfl

/-- The readings of the purges of some operations. -/
def purges (ops : List Op) : List Time := ops.filterMap Op.purgesAt

/-! ### Alike -/

/-- A pair with its event elsewhere. -/
def Pair.withDone (pair : Pair) (done : Nat) : Pair := { pair with done := done }

/-- The pair of the shared store is that of the other, and it is forgotten where
one of the purges so far comes after its tombstone. -/
structure Alike (purged : List Time) (shared alone : Entry) : Prop where
  pair : ∃ done, shared.pair = alone.pair.withDone done
  kept : alone.forgotten = false
  forgotten : shared.forgotten = true ↔ ∃ reading ∈ purged, alone.pair.stale reading = true

theorem Pair.record_withDone (loads : String → Loads) (raw : List UInt8)
    (content_type : Option String) (pair : Pair) (done : Nat) :
    (pair.withDone done).record loads raw content_type =
      (pair.record loads raw content_type).map fun recorded => recorded.withDone done := by
  rw [Pair.record, Pair.record, Option.map_map]
  rfl

/-- What is stale at a reading has expired at every later one. -/
theorem Pair.expired_of_stale {pair : Pair} {reading now : Time} (stale : pair.stale reading = true)
    (earlier : reading ≤ now) : pair.expired now = true := by
  by_contra fresh
  rw [Pair.expired, decide_eq_true_iff, not_le] at fresh
  rw [Pair.not_stale earlier fresh] at stale
  cases stale

namespace Alike

variable {purged : List Time} {shared alone : Entry} (loads : String → Loads) {now : Time}

theorem live (alike : Alike purged shared alone) (earlier : ∀ reading ∈ purged, reading ≤ now) :
    shared.live now = alone.live now := by
  obtain ⟨done, pair⟩ := alike.pair
  have expired : shared.pair.expired now = alone.pair.expired now := by rw [pair]; rfl
  rw [Entry.live, Entry.live, expired, alike.kept]
  cases gone : shared.forgotten with
  | false => rfl
  | true =>
      obtain ⟨reading, mem, stale⟩ := alike.forgotten.mp gone
      rw [Pair.expired_of_stale stale (earlier reading mem)]
      rfl

theorem purged_shared (alike : Alike purged shared alone) (reading : Time) :
    Alike (purged ++ [reading]) (shared.purged reading) alone where
  pair := alike.pair
  kept := alike.kept
  forgotten := by
    obtain ⟨done, pair⟩ := alike.pair
    have stale : shared.pair.stale reading = alone.pair.stale reading := by rw [pair]; rfl
    rw [Entry.purged, Bool.or_eq_true, alike.forgotten, stale]
    simp only [List.mem_append, List.mem_singleton, or_and_right, exists_or, exists_eq_left]

theorem received (alike : Alike purged shared alone) (earlier : ∀ reading ∈ purged, reading ≤ now)
    (token : String) (raw : List UInt8) (content_type : Option String) :
    Alike purged (shared.received loads now token raw content_type)
      (alone.received loads now token raw content_type) := by
  obtain ⟨done, pair⟩ := alike.pair
  have same_token : shared.pair.post_token = alone.pair.post_token := by rw [pair]; rfl
  unfold Entry.received
  rw [alike.live earlier, same_token]
  split
  · rw [pair, Pair.record_withDone]
    cases records : alone.pair.record loads raw content_type with
    | none => exact alike
    | some recorded =>
        obtain ⟨status, _, rfl⟩ := Pair.record_iff.mp records
        exact ⟨⟨done, rfl⟩, alike.kept, alike.forgotten⟩
  · exact alike

/-- An `expire` after a purge changes nothing of what the purge was about. -/
theorem stale_cut {pair : Pair} {reading : Time} (earlier : reading ≤ now) :
    (pair.cut now).stale reading = pair.stale reading := by
  have tombstone : (0 : Time) < TOMBSTONE_SECONDS := by norm_num [TOMBSTONE_SECONDS]
  have late : ¬ now + TOMBSTONE_SECONDS ≤ reading :=
    not_le.mpr (lt_of_le_of_lt earlier (lt_add_of_pos_right now tombstone))
  rw [Pair.stale, Pair.stale, Pair.cut, min_add, decide_eq_decide, min_le_iff, or_iff_left late]

theorem cut (alike : Alike purged shared alone) (earlier : ∀ reading ∈ purged, reading ≤ now)
    (pair_ids : List String) :
    Alike purged (pair_ids.foldl (fun e p => e.cut now p) shared)
      (pair_ids.foldl (fun e p => e.cut now p) alone) := by
  obtain ⟨done, pair⟩ := alike.pair
  have same_id : shared.pair.pair_id = alone.pair.pair_id := by rw [pair]; rfl
  rw [Entry.foldl_cut, Entry.foldl_cut, same_id, alike.kept]
  by_cases named : alone.pair.pair_id ∈ pair_ids
  · rw [if_pos (⟨rfl, named⟩ : false = false ∧ alone.pair.pair_id ∈ pair_ids)]
    have stale : ∀ reading ∈ purged,
        (alone.pair.cut now).stale reading = alone.pair.stale reading :=
      fun reading mem => stale_cut (earlier reading mem)
    have forgotten : shared.forgotten = true ↔
        ∃ reading ∈ purged, (alone.pair.cut now).stale reading = true := by
      rw [alike.forgotten]
      exact exists_congr fun reading => and_congr_right fun mem => by rw [stale reading mem]
    cases gone : shared.forgotten with
    | false =>
        rw [if_pos ⟨rfl, named⟩]
        rw [gone] at forgotten
        exact ⟨⟨done, by rw [pair]; rfl⟩, rfl, forgotten⟩
    | true =>
        -- Forgotten, so past its deadline: there is nothing left to cut.
        rw [if_neg fun named' => Bool.noConfusion named'.1]
        obtain ⟨reading, mem, old⟩ := alike.forgotten.mp gone
        have late := of_decide_eq_true (Pair.expired_of_stale old (earlier reading mem))
        have uncut : alone.pair.cut now = alone.pair := by rw [Pair.cut, min_eq_left late]
        rw [uncut]
        exact ⟨⟨done, pair⟩, rfl, alike.forgotten⟩
  · rw [if_neg fun both => named both.2, if_neg fun both => named both.2]
    exact alike

theorem quiet (alike : Alike purged shared alone) :
    Alike (purged ++ (none : Option Time).toList) shared alone := by
  rw [Option.toList_none, List.append_nil]
  exact alike

/-- **An operation keeps the two entries alike**, where only those on this pair
are made in the other store. -/
theorem act (alike : Alike purged shared alone) {drawn : Drawn}
    (own : alone.pair.strings = drawn.strings) (op : Op)
    (earlier : ∀ reading ∈ purged, ∀ now ∈ op.readings, reading ≤ now) :
    Alike (purged ++ op.purgesAt.toList) (shared.act loads op)
      (if op.concerns drawn then alone.act loads op else alone) := by
  obtain ⟨done, pair⟩ := alike.pair
  obtain ⟨own_id, tokens⟩ := List.cons.inj own
  have own_token : alone.pair.post_token = drawn.post_token :=
    (List.cons.inj (List.cons.inj tokens).2).1
  cases op with
  | create reading created other body ttl_seconds => exact alike.purged_shared reading
  | waitStart reading now pair_ids wait_seconds => exact alike.purged_shared reading
  | receive now token raw content_type =>
      refine quiet ?_
      have past : ∀ reading ∈ purged, reading ≤ now := fun reading mem =>
        earlier reading mem now List.mem_cons_self
      have both := alike.received loads past token raw content_type
      by_cases mine : token = drawn.post_token
      · have concerned : Op.concerns drawn (.receive now token raw content_type) = true :=
          decide_eq_true mine
        rw [if_pos concerned]
        exact both
      · have other : ¬ Op.concerns drawn (.receive now token raw content_type) = true :=
          fun concerned => mine (of_decide_eq_true concerned)
        rw [if_neg other]
        have unchanged : alone.received loads now token raw content_type = alone :=
          if_neg fun here => mine (here.2.symm.trans own_token)
        rw [unchanged] at both
        exact both
  | expire now pair_ids =>
      refine quiet ?_
      have past : ∀ reading ∈ purged, reading ≤ now := fun reading mem =>
        earlier reading mem now List.mem_cons_self
      have both := alike.cut past pair_ids
      by_cases mine : drawn.pair_id ∈ pair_ids
      · have concerned : Op.concerns drawn (.expire now pair_ids) = true := decide_eq_true mine
        rw [if_pos concerned]
        exact both
      · have other : ¬ Op.concerns drawn (.expire now pair_ids) = true :=
          fun concerned => mine (of_decide_eq_true concerned)
        rw [if_neg other]
        have unchanged : pair_ids.foldl (fun e p => e.cut now p) alone = alone := by
          rw [Entry.foldl_cut, if_neg fun named => mine (own_id ▸ named.2)]
        rw [unchanged] at both
        exact both
  | getBody now token => exact alike.quiet
  | status now pair_id => exact alike.quiet
  | waitEnd wait readings timed_out => exact alike.quiet

/-- Over some operations. -/
theorem foldl (alike : Alike purged shared alone) (drawn : Drawn)
    (own : alone.pair.strings = drawn.strings) {ops : List Op}
    (earlier : ∀ reading ∈ purged, ∀ now ∈ ops.flatMap Op.readings, reading ≤ now)
    (timed : Timed ops) :
    Alike (purged ++ purges ops) (ops.foldl (Entry.act loads) shared)
      ((ops.filter (Op.concerns drawn)).foldl (Entry.act loads) alone) := by
  induction ops generalizing purged shared alone with
  | nil =>
      rw [purges, List.filterMap_nil, List.append_nil]
      exact alike
  | cons op rest ih =>
      rw [Timed, List.flatMap_cons, List.pairwise_append] at timed
      obtain ⟨_, later, across⟩ := timed
      rw [List.flatMap_cons] at earlier
      have first := alike.act loads own op fun reading mem now here =>
        earlier reading mem now (List.mem_append_left _ here)
      have strings : (if op.concerns drawn then alone.act loads op else alone).pair.strings =
          drawn.strings := by
        split
        · rw [Entry.strings_act, own]
        · exact own
      have more := ih first strings (fun reading mem now here => by
        rcases List.mem_append.mp mem with old | this_one
        · exact earlier reading old now (List.mem_append_right _ here)
        · exact across reading (Op.purgesAt_readings this_one) now here) later
      have split : purges (op :: rest) = op.purgesAt.toList ++ purges rest := by
        rw [purges, purges, List.filterMap_cons]
        cases op.purgesAt <;> rfl
      rw [List.foldl_cons, split, ← List.append_assoc, List.filter_cons]
      split
      · rename_i mine
        rw [if_pos mine] at more
        exact more
      · rename_i other
        rw [if_neg other] at more
        exact more

end Alike

/-! ### What a holder sees -/

/-- What an entry's token gives access to. -/
theorem livePairFor_of_mem {s : Store} {l : Ledger} (refines : Refines s l) {e : Entry}
    (mem : e ∈ l) (now : Time) (kind : Kind) :
    s.livePairFor now (e.pair.token kind) kind = if e.live now then some e.pair else none := by
  by_cases live : e.live now = true
  · rw [if_pos live]
    exact livePairFor_of_live refines mem live kind
  · rw [if_neg live]
    cases found : s.livePairFor now (e.pair.token kind) kind with
    | none => rfl
    | some pair =>
        obtain ⟨held, token, fresh⟩ := (livePairFor_iff refines).mp found
        have same := (eq_of_token refines.strings held mem token).1
        rw [← same] at live
        exact absurd (by rw [Entry.live, fresh]; rfl) live

/-- What the holder of a pair sees of it in one store, and in another. -/
structure SeesAlike (loads : String → Loads) (drawn : Drawn) (purged : List Time)
    (shared alone : Store) (now : Time) : Prop where
  body : shared.getBody now drawn.get_token = alone.getBody now drawn.get_token
  receive : ∀ raw content_type,
    (shared.receive loads now drawn.post_token raw content_type).2 =
      (alone.receive loads now drawn.post_token raw content_type).2
  /-- As long as no purge has come after the tombstone. -/
  status : (∀ pair, alone.pairs.get drawn.pair_id = some pair →
      ∀ reading ∈ purged, pair.stale reading = false) →
    shared.status now drawn.pair_id = alone.status now drawn.pair_id
  unknown : (∃ pair, alone.pairs.get drawn.pair_id = some pair ∧
      ∃ reading ∈ purged, pair.stale reading = true) →
    shared.status now drawn.pair_id = .unknown

theorem receive_reply {s : Store} {loads : String → Loads} {now : Time} {token : String}
    {raw : List UInt8} {content_type : Option String} :
    (s.receive loads now token raw content_type).2 =
      match s.livePairFor now token .post with
      | none => .returned false
      | some _ =>
          match (loads (Utf8.decodeReplace raw)).status with
          | none => .recursionError
          | some _ => .returned true := by
  unfold Store.receive
  cases s.livePairFor now token .post with
  | none => rfl
  | some pair =>
      simp only [Pair.record]
      cases (loads (Utf8.decodeReplace raw)).status <;> rfl

theorem sees_of_alike {loads : String → Loads} {drawn : Drawn} {purged : List Time} {now : Time}
    {shared alone : Store} {l l' : Ledger} (refines : Refines shared l)
    (refines' : Refines alone l') {e e' : Entry} (mem : e ∈ l) (mem' : e' ∈ l')
    (own : e'.pair.strings = drawn.strings)
    (alike : Alike purged e e') (earlier : ∀ reading ∈ purged, reading ≤ now) :
    SeesAlike loads drawn purged shared alone now := by
  obtain ⟨done, pair⟩ := alike.pair
  obtain ⟨own_id, tokens⟩ := List.cons.inj own
  have own_token : ∀ kind, e'.pair.token kind = drawn.token kind := by
    rw [List.cons.injEq, List.cons.injEq] at tokens
    intro kind
    cases kind with
    | get => exact tokens.1
    | post => exact tokens.2.1
  have own_token' : ∀ kind, e.pair.token kind = drawn.token kind := by
    intro kind
    rw [← own_token kind, pair]
    cases kind <;> rfl
  have shows := fun kind => livePairFor_of_mem refines mem now kind
  have shows' := fun kind => livePairFor_of_mem refines' mem' now kind
  simp only [own_token, own_token', alike.live earlier] at shows shows'
  have held' := pairs_get_of_mem refines' mem'
  rw [own_id, alike.kept, if_neg Bool.false_ne_true] at held'
  have held := pairs_get_of_mem refines mem
  have same_id : e.pair.pair_id = drawn.pair_id := by rw [pair]; exact own_id
  rw [same_id] at held
  refine ⟨?_, fun raw content_type => ?_, fun kept => ?_, ?_⟩
  · have get := shows .get
    have get' := shows' .get
    rw [Drawn.token] at get get'
    rw [Store.getBody, Store.getBody, get, get']
    split
    · rw [pair]
      rfl
    · rfl
  · have post := shows .post
    have post' := shows' .post
    rw [Drawn.token] at post post'
    rw [receive_reply, receive_reply, post, post']
    cases e'.live now <;> rfl
  · have known : e.forgotten = false := by
      by_contra gone
      obtain ⟨reading, here, stale⟩ := alike.forgotten.mp (eq_true_of_ne_false gone)
      rw [kept _ held' reading here] at stale
      cases stale
    rw [known, if_neg Bool.false_ne_true] at held
    rw [Store.status, Store.status, held, held', pair]
    rfl
  · rintro ⟨pair', held'', reading, here, stale⟩
    rw [held', Option.some.injEq] at held''
    subst held''
    rw [alike.forgotten.mpr ⟨reading, here, stale⟩, if_pos rfl] at held
    rw [Store.status, held]

/-- **A pair behaves as if it were alone in the store**: after any run, with any
operations of others before and between, its holder sees what a store shows in
which only this pair was created and only the operations on it were made, but
that a purge after its tombstone has made it unknown. -/
theorem pair_as_if_alone {loads : String → Loads} {before after own : List (Op × Reply)}
    {purged created : Time} {drawn : Drawn} {body : String} {ttl_seconds : Int}
    {reply reply' : Reply} {shared alone : Service}
    (run : Run (step loads) .empty
      (before ++ (.create purged created drawn body ttl_seconds, reply) :: after) shared)
    (fresh : Fresh ((before ++ (.create purged created drawn body ttl_seconds, reply) ::
      after).map Prod.fst))
    (by_itself : Run (step loads) .empty
      ((.create purged created drawn body ttl_seconds, reply') :: own) alone)
    (only_own : own.map Prod.fst = (after.map Prod.fst).filter (Op.concerns drawn)) {now : Time}
    (timed : Timed (after.map Prod.fst ++ [.status now drawn.pair_id])) :
    SeesAlike loads drawn (purges (after.map Prod.fst)) shared.store alone.store now := by
  have earlier := timed.earlier (List.mem_cons_self : now ∈ Op.readings (.status now drawn.pair_id))
  have timed_after : Timed (after.map Prod.fst) := by
    rw [Timed, List.flatMap_append, List.pairwise_append] at timed
    exact timed.1
  have fresh' : Fresh (((Op.create purged created drawn body ttl_seconds, reply') ::
      own).map Prod.fst) := by
    rw [ops_split, Fresh, List.flatMap_append, List.flatMap_cons] at fresh
    have nodup := (List.nodup_append.mp (List.nodup_append.mp fresh).2.1).1
    rw [List.map_cons, Fresh, List.flatMap_cons, only_own, draws_nothing, List.append_nil]
    exact nodup
  have refines := refines_run run fresh
  have refines' := refines_run by_itself fresh'
  rw [ops_split] at refines
  rw [List.map_cons] at refines'
  have mem := entryAfter_mem loads (before.map Prod.fst) purged created drawn body ttl_seconds
    (after.map Prod.fst)
  have mem' := entryAfter_mem loads [] purged created drawn body ttl_seconds (own.map Prod.fst)
  have start : Alike [] ⟨drawn.pair body ttl_seconds created (ledger loads
      (before.map Prod.fst)).length, false⟩ ⟨drawn.pair body ttl_seconds created 0, false⟩ :=
    ⟨⟨_, rfl⟩, rfl, by simp⟩
  have alike := start.foldl loads drawn rfl (fun _ mem => absurd mem List.not_mem_nil) timed_after
  rw [List.nil_append, ← only_own] at alike
  refine sees_of_alike refines refines' mem mem' ?_ alike fun reading here => ?_
  · exact (Entry.same_foldl _ loads _).strings
  · obtain ⟨op, mem, purges⟩ := List.mem_filterMap.mp here
    refine earlier reading (List.mem_flatMap.mpr ⟨op, mem, Op.purgesAt_readings ?_⟩)
    rw [purges, Option.toList_some]
    exact List.mem_singleton_self reading

def ownDrawn : Drawn := ⟨"p", "g", "t"⟩

def createOwn : Op × Reply :=
  (.create 0 0 ownDrawn "payload" 600, .created (ownDrawn.pair "payload" 600 0 0))

def expireOwn : Op × Reply := (.expire 1 ["p"], .expire [("p", .expired)])

/-- Operations of others. -/
def guess (now : Time) : Op × Reply := (.receive now "u" [] none, .receive (.returned false))

def expiredOwn : Service :=
  ⟨((Store.empty.create 0 0 ownDrawn "payload" 600).1.expire 1 ["p"]).1, []⟩

theorem guessed_run (loads : String → Loads) :
    Run (step loads) .empty ([guess 0] ++ createOwn :: [expireOwn, guess 2]) expiredOwn :=
  .cons rfl (.cons rfl (.cons rfl (.cons rfl (.nil _))))

theorem own_run (loads : String → Loads) :
    Run (step loads) .empty (createOwn :: [expireOwn]) expiredOwn :=
  .cons rfl (.cons rfl (.nil _))

theorem own_pair_alone : SeesAlike (fun _ => .valueError) ownDrawn [] expiredOwn.store
    expiredOwn.store 3 :=
  pair_as_if_alone (guessed_run _) (by decide) (own_run _) rfl
    (by norm_num [Timed, Op.readings, expireOwn, guess])

end NinjaOne
