import NinjaOne.Callbacks.Revocation

/-!
What always holds of the store, and how long it keeps a pair.

`Store.Consistent` is what the two maps, the fields of a pair and its event say of
each other; `Store.Retains` is what a purge leaves. The first holds after every
run, the second right after every operation that purges:
`store_consistent_of_run`. Both are read off the ledger, which the store refines.
-/

namespace NinjaOne

/-! ### The invariant -/

/-- The operation is the `create` that drew the pair's strings, at `created`. -/
def Op.Creates (pair : Pair) (created : Time) : Op → Prop
  | .create _ created' drawn _ _ => created' = created ∧ drawn.strings = pair.strings
  | _ => False

structure Store.Consistent (s : Store) (ops : List Op) : Prop where
  /-- The tokens registered are those of the stored pairs, under their own ids and
  kinds. -/
  tokens : ∀ t id kind, s.by_token.get t = some (id, kind) ↔
    ∃ pair, s.pairs.get id = some pair ∧ pair.token kind = t
  count : s.by_token.entries.length = 2 * s.pairs.entries.length
  own : ∀ id pair, s.pairs.get id = some pair → pair.pair_id = id
  created : ∀ id pair, s.pairs.get id = some pair → ∃ op ∈ ops, ∃ created, op.Creates pair created
  deadline : ∀ id pair, s.pairs.get id = some pair → ∀ op ∈ ops, ∀ created,
    op.Creates pair created → pair.expires_at ≤ created + MAX_TTL_SECONDS
  event : ∀ id pair, s.pairs.get id = some pair →
    (s.events[pair.done]? = some true ↔ pair.status ≠ .pending)
  body : ∀ id pair, s.pairs.get id = some pair →
    (pair.received_body.isSome ↔ pair.status ≠ .pending)

/-- After a purge at `purged` no tombstone is over. -/
structure Store.Retains (s : Store) (ops : List Op) (purged : Time) : Prop where
  deadline : ∀ id pair, s.pairs.get id = some pair →
    purged < pair.expires_at + TOMBSTONE_SECONDS
  created : ∀ id pair, s.pairs.get id = some pair → ∀ op ∈ ops, ∀ created,
    op.Creates pair created → purged < created + MAX_TTL_SECONDS + TOMBSTONE_SECONDS

/-! ### The tokens -/

section Tokens

variable {s : Store} (tokens : ∀ t id kind, s.by_token.get t = some (id, kind) ↔
  ∃ pair, s.pairs.get id = some pair ∧ pair.token kind = t)

include tokens

theorem token_registered {entry : String × Pair} (mem : entry ∈ s.pairs.entries) (kind : Kind) :
    s.by_token.get (entry.2.token kind) = some (entry.1, kind) :=
  (tokens _ _ _).mpr ⟨entry.2, Dict.get_eq_some_iff.mpr mem, rfl⟩

/-- No two stored pairs share a token, and no pair has one token twice. -/
theorem pair_tokens_nodup : (s.pairs.entries.flatMap fun entry =>
    [entry.2.get_token, entry.2.post_token]).Nodup := by
  refine List.nodup_flatMap.mpr ⟨fun entry mem => ?_, ?_⟩
  · refine List.nodup_cons.mpr ⟨fun same => ?_, List.nodup_singleton _⟩
    have get := token_registered tokens mem .get
    have post := token_registered tokens mem .post
    rw [Pair.token, ← List.mem_singleton.mp same] at post
    rw [Pair.token, post] at get
    cases get
  · refine List.Pairwise.imp_of_mem ?_ (List.pairwise_map.mp s.pairs.nodup)
    intro entry entry' mem mem' differ t here there
    obtain ⟨kind, rfl⟩ := Pair.mem_tokens_iff.mp here
    obtain ⟨kind', same⟩ := Pair.mem_tokens_iff.mp there
    have both := token_registered tokens mem' kind'
    rw [same, token_registered tokens mem kind] at both
    exact differ (Prod.mk.inj (Option.some.inj both)).1

/-- The tokens registered are the two tokens of each stored pair. -/
theorem tokens_perm : (s.by_token.entries.map Prod.fst).Perm
    (s.pairs.entries.flatMap fun entry => [entry.2.get_token, entry.2.post_token]) := by
  refine (List.perm_ext_iff_of_nodup s.by_token.nodup (pair_tokens_nodup tokens)).mpr fun t => ?_
  constructor
  · intro mem
    obtain ⟨⟨_, id, kind⟩, here, rfl⟩ := List.mem_map.mp mem
    obtain ⟨pair, found, token⟩ := (tokens _ _ _).mp (Dict.get_eq_some_iff.mpr here)
    exact List.mem_flatMap.mpr ⟨(id, pair), Dict.get_eq_some_iff.mp found,
      Pair.mem_tokens_iff.mpr ⟨kind, token⟩⟩
  · intro mem
    obtain ⟨entry, here, there⟩ := List.mem_flatMap.mp mem
    obtain ⟨kind, rfl⟩ := Pair.mem_tokens_iff.mp there
    exact List.mem_map.mpr ⟨_, Dict.get_eq_some_iff.mp (token_registered tokens here kind), rfl⟩

theorem tokens_count : s.by_token.entries.length = 2 * s.pairs.entries.length := by
  have length := (tokens_perm tokens).length_eq
  rw [List.length_map, List.length_flatMap] at length
  rw [length]
  simp
  omega

end Tokens

/-! ### The history of a stored pair -/

theorem clampTtl_le (ttl_seconds : Int) : clampTtl ttl_seconds ≤ MAX_TTL_SECONDS :=
  max_le (by decide) (min_le_left _ _)

theorem clampTtl_nonneg (ttl_seconds : Int) : 0 ≤ clampTtl ttl_seconds :=
  le_trans (by decide) (le_max_left MIN_TTL_SECONDS _)

theorem Op.Creates.drawn_eq {pair : Pair} {created : Time} {op : Op}
    (creates : op.Creates pair created) : op.drawn = pair.strings := by
  cases op with
  | create => exact creates.2
  | _ => cases creates

/-- A pair is created once. -/
theorem Op.Creates.unique {ops : List Op} (fresh : Fresh ops) {pair : Pair}
    {created created' : Time} {op op' : Op} (mem : op ∈ ops) (mem' : op' ∈ ops)
    (creates : op.Creates pair created) (creates' : op'.Creates pair created') :
    created = created' := by
  have id_mem : pair.pair_id ∈ op.drawn := creates.drawn_eq ▸ List.mem_cons_self
  have id_mem' : pair.pair_id ∈ op'.drawn := creates'.drawn_eq ▸ List.mem_cons_self
  obtain rfl := eq_of_mem_flatMap fresh mem mem' id_mem id_mem'
  cases op with
  | create => exact creates.1.symm.trans creates'.1
  | _ => cases creates

/-- The pair has a body exactly when it has a result. -/
def Pair.Answered (pair : Pair) : Prop := pair.received_body.isSome ↔ pair.status ≠ .pending

theorem Entry.answered_act (e : Entry) (loads : String → Loads) (op : Op)
    (answered : e.pair.Answered) : (e.act loads op).pair.Answered := by
  cases op with
  | receive now token raw content_type =>
      rw [Entry.act, Entry.received]
      split
      · split
        · exact answered
        · rename_i recorded records
          obtain ⟨status, parsed, rfl⟩ := Pair.record_iff.mp records
          exact iff_of_true rfl (Loads.status_ne_pending parsed)
      · exact answered
  | expire now pair_ids =>
      rw [Entry.act, Entry.foldl_cut]
      split
      · exact answered
      · exact answered
  | _ => exact answered

theorem Entry.answered_foldl (e : Entry) (loads : String → Loads) (ops : List Op)
    (answered : e.pair.Answered) : (ops.foldl (Entry.act loads) e).pair.Answered := by
  induction ops generalizing e with
  | nil => exact answered
  | cons op rest ih => exact ih _ (e.answered_act loads op answered)

/-- A pair that is not forgotten was created by one of the operations, and its
deadline has not moved forward. -/
theorem history_of_stored {loads : String → Loads} {ops : List Op} {pair : Pair}
    (mem : (⟨pair, false⟩ : Entry) ∈ ledger loads ops) :
    pair.Answered ∧ ∃ op ∈ ops, ∃ created, op.Creates pair created ∧
      pair.expires_at ≤ created + MAX_TTL_SECONDS := by
  obtain ⟨before, purged, created, drawn, body, ttl_seconds, after, rfl, eq⟩ := mem_ledger mem
  have answered := Entry.answered_foldl ⟨drawn.pair body ttl_seconds created
    (ledger loads before).length, false⟩ loads after
      (iff_of_false Bool.false_ne_true fun decided => decided rfl)
  have same := Entry.same_foldl ⟨drawn.pair body ttl_seconds created
    (ledger loads before).length, false⟩ loads after
  have deadline := Entry.expires_at_foldl ⟨drawn.pair body ttl_seconds created
    (ledger loads before).length, false⟩ loads after
  rw [← entryAfter, ← eq] at answered same deadline
  refine ⟨answered, _, List.mem_append_right _ List.mem_cons_self, created,
    ⟨rfl, same.strings.symm⟩, ?_⟩
  calc pair.expires_at
      = deadlineAfter drawn.pair_id (created + clampTtl ttl_seconds) after := deadline rfl
    _ ≤ created + clampTtl ttl_seconds := deadlineAfter_le _ _ _
    _ ≤ created + MAX_TTL_SECONDS :=
        add_le_add_right (Int.cast_le.mpr (clampTtl_le ttl_seconds)) created

/-- A store that refines the ledger of its operations is consistent with them. -/
theorem consistent_of_refines {loads : String → Loads} {ops : List Op} {s : Store}
    (refines : Refines s (ledger loads ops)) (fresh : Fresh ops) : s.Consistent ops := by
  have tokens : ∀ t id kind, s.by_token.get t = some (id, kind) ↔
      ∃ pair, s.pairs.get id = some pair ∧ pair.token kind = t := by
    intro t id kind
    rw [refines.tokens]
    simp only [refines.pairs, and_assoc]
  have stored : ∀ id pair, s.pairs.get id = some pair →
      (⟨pair, false⟩ : Entry) ∈ ledger loads ops := fun id pair found =>
    ((refines.pairs id pair).mp found).1
  refine ⟨tokens, tokens_count tokens, fun id pair found => ((refines.pairs id pair).mp found).2,
    fun id pair found => ?_, fun id pair found op mem created creates => ?_,
    fun id pair found => ?_, fun id pair found => (history_of_stored (stored id pair found)).1⟩
  · obtain ⟨_, op, mem, created, creates, _⟩ := history_of_stored (stored id pair found)
    exact ⟨op, mem, created, creates⟩
  · obtain ⟨_, op', mem', created', creates', bound⟩ := history_of_stored (stored id pair found)
    rw [creates.unique fresh mem mem' creates']
    exact bound
  · rw [events_of_mem refines (stored id pair found), Option.some.injEq, Entry.decided,
      decide_eq_true_eq]

/-! ### After a purge -/

theorem Pair.stale_eq_false_iff {pair : Pair} {now : Time} :
    pair.stale now = false ↔ now < pair.expires_at + TOMBSTONE_SECONDS := by
  rw [Pair.stale, decide_eq_false_iff_not, not_le]

/-- What an operation that purges leaves is not over its tombstone, and neither is
what it adds. -/
theorem not_stale_of_purge {loads : String → Loads} {l : Ledger} {op : Op} {purged : Time}
    (timed : Timed [op]) (purges : op.purgesAt = some purged) {pair : Pair}
    (mem : (⟨pair, false⟩ : Entry) ∈ l.next loads op) : pair.stale purged = false := by
  cases op with
  | waitStart purged' now pair_ids wait_seconds =>
      cases purges
      rcases List.mem_append.mp mem with left | opened
      · exact (mem_map_purged.mp left).2
      · cases opened
  | create purged' created drawn body ttl_seconds =>
      cases purges
      rcases List.mem_append.mp mem with left | opened
      · exact (mem_map_purged.mp left).2
      · obtain ⟨rfl, _⟩ := Entry.mk.inj (List.mem_singleton.mp opened)
        have later : purged ≤ created := List.rel_of_pairwise_cons timed List.mem_cons_self
        have tombstone : (0 : Time) < TOMBSTONE_SECONDS := by norm_num [TOMBSTONE_SECONDS]
        have ttl : (0 : Time) ≤ clampTtl ttl_seconds := Int.cast_nonneg (clampTtl_nonneg ttl_seconds)
        refine Pair.stale_eq_false_iff.mpr ?_
        calc purged ≤ created := later
          _ ≤ created + clampTtl ttl_seconds := le_add_of_nonneg_right ttl
          _ < created + clampTtl ttl_seconds + TOMBSTONE_SECONDS := lt_add_of_pos_right _ tombstone
  | _ => cases purges

section Run

variable {loads : String → Loads} {trace : List (Op × Reply)} {service : Service}
  (run : Run (step loads) .empty trace service) (fresh : Fresh (trace.map Prod.fst))

include run fresh

/-- Right after a purge the store holds no tombstone that is over. -/
theorem retains_of_purge {before : List (Op × Reply)} {op : Op} {reply : Reply} {purged : Time}
    (timed : Timed (trace.map Prod.fst)) (split : trace = before ++ [(op, reply)])
    (purges : op.purgesAt = some purged) : service.store.Retains (trace.map Prod.fst) purged := by
  have refines := refines_run run fresh
  have consistent := consistent_of_refines refines fresh
  have unexpired : ∀ id pair, service.store.pairs.get id = some pair →
      purged < pair.expires_at + TOMBSTONE_SECONDS := by
    intro id pair found
    have mem := ((refines.pairs id pair).mp found).1
    rw [split, List.map_append, List.map_singleton] at mem timed
    rw [ledger, List.foldl_append] at mem
    rw [Timed, List.flatMap_append, List.pairwise_append] at timed
    exact Pair.stale_eq_false_iff.mp (not_stale_of_purge timed.2.1 purges mem)
  refine ⟨unexpired, fun id pair found op' mem created creates => ?_⟩
  calc purged < pair.expires_at + TOMBSTONE_SECONDS := unexpired id pair found
    _ ≤ created + MAX_TTL_SECONDS + TOMBSTONE_SECONDS :=
        add_le_add_left (consistent.deadline id pair found op' mem created creates) _

/-- **The store is consistent after every run**, and right after every `create` and
every start of a wait it keeps no pair beyond its tombstone. -/
theorem store_consistent_of_run (timed : Timed (trace.map Prod.fst)) :
    service.store.Consistent (trace.map Prod.fst) ∧
    ∀ before op reply purged, trace = before ++ [(op, reply)] → op.purgesAt = some purged →
      service.store.Retains (trace.map Prod.fst) purged :=
  ⟨consistent_of_refines (refines_run run fresh) fresh,
    fun _ _ _ _ split purges => retains_of_purge run fresh timed split purges⟩

end Run

/-- One pair. -/
theorem onePair_consistent : onePairService.store.Consistent [onePair] ∧
    onePairService.store.Retains [onePair] 0 := by
  have timed : Timed [onePair] := List.pairwise_pair.mpr (le_refl 0)
  obtain ⟨consistent, retains⟩ := store_consistent_of_run (onePair_run fun _ => .valueError)
    (by decide) timed
  exact ⟨consistent, retains [] _ _ 0 rfl rfl⟩

end NinjaOne
