import Mathlib.Tactic.NormNum
import NinjaOne.Callbacks.Ledger

/-!
What a token is good for, in terms of the history alone.

`Issued` reads a run's operations: a `create` drew the token, its deadline is
not reached, and no `expire` named its pair since. Over any run whose clock never
goes back, a token gives access exactly when it is issued (`live_iff_issued`):
neither the purges nor the results recorded in between matter.

For `get_body` that is the whole answer. `receive` accepts exactly what is
issued, except that a body that makes `json.loads` raise `RecursionError` leaves
it without an answer: `capability_exact_iff`, `deepBody_raises`.
-/

namespace NinjaOne

/-! ### An entry over time -/

/-- Whether an operation revokes a pair. -/
def Op.revokes (pair_id : String) : Op → Prop
  | .expire _ pair_ids => pair_id ∈ pair_ids
  | _ => False

theorem Pair.cut_cut (pair : Pair) (now : Time) : (pair.cut now).cut now = pair.cut now := by
  simp only [Pair.cut, min_assoc, min_self]

/-- An `expire` cuts the deadlines of the pairs it names, once. -/
theorem Entry.foldl_cut (e : Entry) (now : Time) (pair_ids : List String) :
    pair_ids.foldl (fun e p => e.cut now p) e =
      if e.forgotten = false ∧ e.pair.pair_id ∈ pair_ids then { e with pair := e.pair.cut now }
      else e := by
  induction pair_ids generalizing e with
  | nil => exact (if_neg fun named => List.not_mem_nil named.2).symm
  | cons p rest ih =>
      rw [List.foldl_cons, ih]
      by_cases named : e.forgotten = false ∧ e.pair.pair_id = p
      · obtain ⟨kept, rfl⟩ := named
        have cut_here : e.cut now e.pair.pair_id = { e with pair := e.pair.cut now } :=
          if_pos ⟨kept, rfl⟩
        rw [cut_here, if_pos (c := e.forgotten = false ∧ e.pair.pair_id ∈ e.pair.pair_id :: rest)
          ⟨kept, List.mem_cons_self⟩]
        split
        · rw [Pair.cut_cut]
        · rfl
      · have later : (e.forgotten = false ∧ e.pair.pair_id ∈ p :: rest) ↔
            (e.forgotten = false ∧ e.pair.pair_id ∈ rest) := by
          refine and_congr_right fun kept => ?_
          rw [List.mem_cons, or_iff_right fun first => named ⟨kept, first⟩]
        rw [Entry.cut, if_neg named]
        simp only [later]

/-- An entry is live before its deadline, until it is forgotten. -/
theorem Entry.live_iff {e : Entry} {now : Time} :
    e.live now = true ↔ e.forgotten = false ∧ now < e.pair.expires_at := by
  simp only [Entry.live, Pair.expired, Bool.and_eq_true, Bool.not_eq_true', decide_eq_false_iff_not,
    not_le]

/-- No pair is forgotten before its deadline. -/
theorem Pair.not_stale {pair : Pair} {reading now : Time} (earlier : reading ≤ now)
    (fresh : now < pair.expires_at) : pair.stale reading = false := by
  have tombstone : (0 : Time) ≤ TOMBSTONE_SECONDS := by norm_num [TOMBSTONE_SECONDS]
  refine decide_eq_false (not_le.mpr ?_)
  calc reading ≤ now := earlier
    _ < pair.expires_at := fresh
    _ ≤ pair.expires_at + TOMBSTONE_SECONDS := le_add_of_nonneg_right tombstone

theorem Entry.live_purged (e : Entry) {reading now : Time} (earlier : reading ≤ now) :
    (e.purged reading).live now = true ↔ e.live now = true := by
  rw [Entry.live_iff, Entry.live_iff]
  constructor
  · rintro ⟨kept, fresh⟩
    exact ⟨(Bool.or_eq_false_iff.mp kept).1, fresh⟩
  · rintro ⟨kept, fresh⟩
    exact ⟨Bool.or_eq_false_iff.mpr ⟨kept, Pair.not_stale earlier fresh⟩, fresh⟩

theorem Entry.live_received (e : Entry) (loads : String → Loads) (at_reading : Time)
    (token : String) (raw : List UInt8) (content_type : Option String) (now : Time) :
    (e.received loads at_reading token raw content_type).live now = e.live now := by
  unfold Entry.received
  split
  · split
    · rfl
    · rename_i recorded records
      obtain ⟨status, _, rfl⟩ := Pair.record_iff.mp records
      rfl
  · rfl

/-- One step of an entry: it stays live unless the operation revokes it. -/
theorem Entry.live_act (loads : String → Loads) (e : Entry) (op : Op) {now : Time}
    (earlier : ∀ reading ∈ op.readings, reading ≤ now) :
    (e.act loads op).live now = true ↔ e.live now = true ∧ ¬ op.revokes e.pair.pair_id := by
  cases op with
  | create purged created drawn body ttl_seconds =>
      exact (e.live_purged (earlier purged List.mem_cons_self)).trans (and_iff_left not_false).symm
  | waitStart purged now' pair_ids wait_seconds =>
      exact (e.live_purged (earlier purged List.mem_cons_self)).trans (and_iff_left not_false).symm
  | receive now' token raw content_type =>
      rw [Entry.act, Entry.live_received]
      exact (and_iff_left not_false).symm
  | expire reading pair_ids =>
      have past := earlier reading List.mem_cons_self
      rw [Entry.act, Entry.foldl_cut, Op.revokes]
      by_cases named : e.forgotten = false ∧ e.pair.pair_id ∈ pair_ids
      · rw [if_pos named]
        constructor
        · intro live
          have fresh := (Entry.live_iff.mp live).2
          exact absurd ((lt_min_iff.mp fresh).2) (not_lt.mpr past)
        · rintro ⟨_, unnamed⟩
          exact absurd named.2 unnamed
      · rw [if_neg named]
        refine (and_iff_left_of_imp fun live named' => ?_).symm
        exact named ⟨(Entry.live_iff.mp live).1, named'⟩
  | _ => exact (and_iff_left not_false).symm

/-- Over some operations, all before `now`, an entry stays live unless one of
them revokes it. -/
theorem Entry.live_foldl (loads : String → Loads) (e : Entry) (after : List Op) {now : Time}
    (earlier : ∀ reading ∈ after.flatMap Op.readings, reading ≤ now) :
    (after.foldl (Entry.act loads) e).live now = true ↔
      e.live now = true ∧ ∀ op ∈ after, ¬ op.revokes e.pair.pair_id := by
  induction after generalizing e with
  | nil => simp
  | cons op rest ih =>
      rw [List.flatMap_cons] at earlier
      have first := e.live_act loads op fun r mem => earlier r (List.mem_append_left _ mem)
      have more := ih (e.act loads op) fun r mem => earlier r (List.mem_append_right _ mem)
      rw [List.foldl_cons, more, first, (e.same_act loads op).pair_id, List.forall_mem_cons,
        and_assoc]

/-! ### Issued tokens -/

def Drawn.token (drawn : Drawn) : Kind → String
  | .get => drawn.get_token
  | .post => drawn.post_token

/-- The history has issued `token` for a pair with this body, and it is good at
`now`. -/
def Issued (ops : List Op) (kind : Kind) (token : String) (now : Time) (body : String) : Prop :=
  ∃ before purged created drawn ttl_seconds after,
    ops = before ++ .create purged created drawn body ttl_seconds :: after ∧
      drawn.token kind = token ∧ now < created + clampTtl ttl_seconds ∧
      ∀ op ∈ after, ¬ op.revokes drawn.pair_id

/-- **A token gives access exactly when it is issued.** -/
theorem live_iff_issued {loads : String → Loads} {ops : List Op} {s : Store}
    (refines : Refines s (ledger loads ops)) {now : Time}
    (earlier : ∀ reading ∈ ops.flatMap Op.readings, reading ≤ now) (kind : Kind) (token body : String) :
    (∃ pair, s.livePairFor now token kind = some pair ∧ pair.body = body) ↔
      Issued ops kind token now body := by
  -- Both sides speak of an entry of the ledger and of its history.
  have history : ∀ (before : List Op) (purged created : Time) (drawn : Drawn) (body : String)
      (ttl_seconds : Int) (after : List Op),
      ops = before ++ .create purged created drawn body ttl_seconds :: after →
      ((entryAfter loads before created drawn body ttl_seconds after).live now = true ↔
        now < created + clampTtl ttl_seconds ∧ ∀ op ∈ after, ¬ op.revokes drawn.pair_id) := by
    rintro before purged created drawn body ttl_seconds after rfl
    rw [entryAfter, Entry.live_foldl, Entry.live_iff]
    · exact and_congr_left fun _ => and_iff_right rfl
    · intro reading mem
      refine earlier reading ?_
      rw [List.flatMap_append, List.flatMap_cons]
      exact List.mem_append_right _ (List.mem_append_right _ mem)
  constructor
  · rintro ⟨pair, live, rfl⟩
    obtain ⟨mem, tok, fresh⟩ := (livePairFor_iff refines).mp live
    obtain ⟨before, purged, created, drawn, body, ttl_seconds, after, split, eq⟩ := mem_ledger mem
    have same := Entry.same_foldl ⟨drawn.pair body ttl_seconds created
      (ledger loads before).length, false⟩ loads after
    rw [← entryAfter, ← eq] at same
    have accepted : (⟨pair, false⟩ : Entry).live now = true := by
      simp only [Entry.live, fresh, Bool.not_false, Bool.and_self]
    rw [eq, history before purged created drawn body ttl_seconds after split] at accepted
    have same_body : pair.body = body := same.body
    have same_token : pair.token kind = drawn.token kind := by
      rw [same.token kind]
      cases kind <;> rfl
    rw [same_body]
    exact ⟨before, purged, created, drawn, ttl_seconds, after, split, same_token.symm.trans tok,
      accepted⟩
  · rintro ⟨before, purged, created, drawn, ttl_seconds, after, split, tok, issued⟩
    have live := (history before purged created drawn body ttl_seconds after split).mpr issued
    have mem := entryAfter_mem loads before purged created drawn body ttl_seconds after
    rw [← split] at mem
    have same := Entry.same_foldl ⟨drawn.pair body ttl_seconds created
      (ledger loads before).length, false⟩ loads after
    rw [← entryAfter] at same
    generalize entryAfter loads before created drawn body ttl_seconds after = e at live mem same
    have own : e.pair.token kind = token := by
      rw [same.token kind, ← tok]
      cases kind <;> rfl
    exact ⟨e.pair, own ▸ livePairFor_of_live refines mem live kind, same.body⟩

/-! ### What the store answers -/

/-- `receive` returns `True` for an issued POST token and for nothing else, and
a refused call changes nothing. -/
def ReceivesExactly (loads : String → Loads) (s : Store) (ops : List Op) (now : Time)
    (token : String) (raw : List UInt8) (content_type : Option String) : Prop :=
  ((s.receive loads now token raw content_type).2 = .returned true ↔
    ∃ body, Issued ops .post token now body) ∧
  ((¬ ∃ body, Issued ops .post token now body) →
    s.receive loads now token raw content_type = (s, .returned false))

section Answers

variable {loads : String → Loads} {trace : List (Op × Reply)} {service : Service}
  (run : Run (step loads) .empty trace service) (fresh : Fresh (trace.map Prod.fst))

include run fresh

theorem getBody_iff_issued {now : Time} {token : String}
    (timed : Timed (trace.map Prod.fst ++ [.getBody now token])) (body : String) :
    service.store.getBody now token = some body ↔
      Issued (trace.map Prod.fst) .get token now body := by
  rw [← live_iff_issued (refines_run run fresh) (timed.earlier List.mem_cons_self)]
  exact Option.map_eq_some_iff

theorem livePost_iff_issued {now : Time} {token : String} {raw : List UInt8}
    {content_type : Option String}
    (timed : Timed (trace.map Prod.fst ++ [.receive now token raw content_type])) :
    (∃ pair, service.store.livePairFor now token .post = some pair) ↔
      ∃ body, Issued (trace.map Prod.fst) .post token now body := by
  have issued := live_iff_issued (refines_run run fresh) (timed.earlier List.mem_cons_self) .post
    token
  constructor
  · rintro ⟨pair, live⟩
    exact ⟨pair.body, (issued pair.body).mp ⟨pair, live, rfl⟩⟩
  · rintro ⟨body, history⟩
    obtain ⟨pair, live, _⟩ := (issued body).mpr history
    exact ⟨pair, live⟩

/-- **Tokens are exact capabilities.** After every run, `get_body` returns the
body of the pair the token was issued for, and `receive` accepts an issued POST
token, and neither accepts anything else; with one exception for `receive`: an
issued token whose body makes `json.loads` raise `RecursionError`. -/
theorem capability_exact_iff :
    (∀ now token, Timed (trace.map Prod.fst ++ [.getBody now token]) → ∀ body,
      (service.store.getBody now token = some body ↔
        Issued (trace.map Prod.fst) .get token now body)) ∧
    ∀ now token raw content_type,
      Timed (trace.map Prod.fst ++ [.receive now token raw content_type]) →
      (ReceivesExactly loads service.store (trace.map Prod.fst) now token raw content_type ↔
        ¬ ((∃ body, Issued (trace.map Prod.fst) .post token now body) ∧
          loads (Utf8.decodeReplace raw) = .recursionError)) := by
  refine ⟨fun now token timed => getBody_iff_issued run fresh timed,
    fun now token raw content_type timed => ?_⟩
  have issued := livePost_iff_issued run fresh timed
  cases live : service.store.livePairFor now token .post with
  | none =>
      have unissued : ¬ ∃ body, Issued (trace.map Prod.fst) .post token now body := by
        rw [← issued, live]
        rintro ⟨pair, some⟩
        cases some
      have refused := @receive_refused loads _ _ _ raw content_type live
      refine ⟨fun _ both => unissued both.1, fun _ => ⟨?_, fun _ => refused⟩⟩
      rw [refused]
      exact ⟨fun accepted => (by cases accepted), fun history => absurd history unissued⟩
  | some pair =>
      have history := issued.mp ⟨pair, live⟩
      by_cases raises : loads (Utf8.decodeReplace raw) = .recursionError
      · refine ⟨fun exact_here => ?_, fun spared => absurd ⟨history, raises⟩ spared⟩
        have accepted := exact_here.1.mpr history
        rw [receive_raised live raises] at accepted
        cases accepted
      · obtain ⟨recorded, _, accepted⟩ := @receive_accepted loads _ _ _ _ content_type _ live raises
        refine ⟨fun _ both => raises both.2, fun _ => ⟨?_, fun none => absurd history none⟩⟩
        rw [accepted]
        exact iff_of_true rfl history

end Answers

/-! ### A body nested too deeply -/

/-- One pair, created at time 0. -/
def onePair : Op := .create 0 0 ⟨"p", "g", "t"⟩ "payload" 600

/-- The service it leads to. -/
def onePairService : Service :=
  { store := (Store.empty.create 0 0 ⟨"p", "g", "t"⟩ "payload" 600).1, waits := [] }

theorem onePair_run (loads : String → Loads) : Run (step loads) .empty
    [(onePair, .created (Store.empty.create 0 0 ⟨"p", "g", "t"⟩ "payload" 600).2)]
    onePairService :=
  .cons rfl (.nil _)

/-- The pair itself. -/
def createdPair : Pair := (⟨"p", "g", "t"⟩ : Drawn).pair "payload" 600 0 0

theorem createdPair_deadline : createdPair.expires_at = 600 := by
  have ttl : clampTtl 600 = 600 := by decide
  change (0 : Time) + (clampTtl 600 : Time) = 600
  rw [ttl, zero_add]
  rfl

theorem createdPair_unexpired {now : Time} (early : now < 600) :
    createdPair.expired now = false :=
  decide_eq_false (not_le.mpr (lt_of_lt_of_eq early createdPair_deadline.symm))

theorem onePair_live {now : Time} (early : now < 600) :
    onePairService.store.livePairFor now "t" .post = some createdPair :=
  if_neg (Bool.eq_false_iff.mp (createdPair_unexpired early))

/-- The service after a POST that was recorded. -/
def onePairWith (recorded : Pair) : Service :=
  { onePairService with store := { onePairService.store with
      pairs := onePairService.store.pairs.set "p" recorded
      events := onePairService.store.events.set 0 true } }

theorem onePair_receive {loads : String → Loads} {now : Time} (early : now < 600)
    {raw : List UInt8} {content_type : Option String} {recorded : Pair}
    (records : createdPair.record loads raw content_type = some recorded) :
    onePairService.store.receive loads now "t" raw content_type =
      ((onePairWith recorded).store, .returned true) := by
  simp only [Store.receive, onePair_live early, records]
  rfl

theorem onePair_post_run {loads : String → Loads} {now : Time} (early : now < 600)
    {raw : List UInt8} {content_type : Option String} {recorded : Pair}
    (records : createdPair.record loads raw content_type = some recorded) :
    Run (step loads) .empty
      [(onePair, .created (Store.empty.create 0 0 ⟨"p", "g", "t"⟩ "payload" 600).2),
        (.receive now "t" raw content_type, .receive (.returned true))] (onePairWith recorded) := by
  refine .cons rfl (.cons ?_ (.nil _))
  have posted := onePair_receive early records
  change (let done := onePairService.store.receive loads now "t" raw content_type
    some (({ onePairService with store := done.1 } : Service), Reply.receive done.2)) = _
  rw [posted]
  rfl

theorem onePair_issued (kind : Kind) {now : Time} (early : now < 600) :
    Issued [onePair] kind ((⟨"p", "g", "t"⟩ : Drawn).token kind) now "payload" :=
  ⟨[], 0, 0, ⟨"p", "g", "t"⟩, 600, [], rfl, rfl, lt_of_lt_of_eq early createdPair_deadline.symm,
    fun op mem => by cases mem⟩

theorem onePair_timed {op : Op} (readings : op.readings = [1]) : Timed ([onePair] ++ [op]) := by
  have created : onePair.readings = [0, 0] := rfl
  simp [Timed, created, readings]

/-- What its tokens are good for at time 1. -/
theorem onePair_exact :
    (onePairService.store.getBody 1 "g" = some "payload" ↔
      Issued [onePair] .get "g" 1 "payload") ∧
    (ReceivesExactly (fun _ => .valueError) onePairService.store [onePair] 1 "t" [] none ↔
      ¬ ((∃ body, Issued [onePair] .post "t" 1 body) ∧ Loads.valueError = .recursionError)) :=
  have capabilities := capability_exact_iff (onePair_run fun _ => .valueError) (by decide)
  ⟨capabilities.1 1 "g" (onePair_timed rfl) "payload",
    capabilities.2 1 "t" [] none (onePair_timed rfl)⟩

/-- A parser that gives up on 1000 open brackets, as `json.loads` does. -/
def shallowLoads (text : String) : Loads :=
  if 1000 ≤ (text.toList.takeWhile (· = '[')).length then .recursionError else .valueError

theorem shallowLoads_brackets {n : Nat} (deep : 1000 ≤ n) :
    shallowLoads (Utf8.decodeReplace (List.replicate n 0x5B)) = .recursionError := by
  have ascii : ∀ b ∈ List.replicate n (0x5B : UInt8), b.toNat < 0x80 := by
    intro b mem
    rw [List.eq_of_mem_replicate mem]
    decide
  have text : (Utf8.decodeReplace (List.replicate n 0x5B)).toList = List.replicate n '[' := by
    rw [Utf8.toList_decodeReplace ascii, List.map_replicate]
    rfl
  have brackets : (List.replicate n '[').takeWhile (· = '[') = List.replicate n '[' := by
    rw [List.takeWhile_replicate]
    exact if_pos rfl
  rw [shallowLoads, text, brackets, List.length_replicate, if_pos deep]

/-- A POST of 100000 brackets to a live token raises instead of being recorded. -/
theorem deepBody_raises : ¬ ∀ (loads : String → Loads) (trace : List (Op × Reply))
    (service : Service), Run (step loads) .empty trace service → Fresh (trace.map Prod.fst) →
    ∀ now token raw content_type,
      Timed (trace.map Prod.fst ++ [.receive now token raw content_type]) →
      ReceivesExactly loads service.store (trace.map Prod.fst) now token raw content_type := by
  intro all
  have fresh : Fresh [onePair] := by decide
  have timed : ∀ raw, Timed ([onePair] ++ [.receive 1 "t" raw none]) := fun _ => onePair_timed rfl
  have raises := @shallowLoads_brackets 100000 (by decide)
  have run := onePair_run shallowLoads
  have issued : ∃ body, Issued [onePair] .post "t" 1 body :=
    ⟨"payload", onePair_issued .post (by norm_num)⟩
  have exact_here := all shallowLoads _ _ run fresh 1 "t" _ none (timed (List.replicate 100000 0x5B))
  obtain ⟨pair, live⟩ := (livePost_iff_issued run fresh (timed [])).mpr issued
  have accepted := exact_here.1.mpr issued
  rw [receive_raised live raises] at accepted
  cases accepted

end NinjaOne
