import NinjaOne.Callbacks.Results

/-!
What an explicit `expire` is worth.

The store keeps a revocation as a deadline and compares it with a fresh clock
reading at every use. So over clocks that may go back, a pair's tokens are good
again as soon as a reading comes before its deadline, the least of its own and of
the readings of every `expire` that named it (`deadlineAfter`), unless a purge
has forgotten the pair meanwhile (`PurgedSince`): `Entry.live_foldl_iff`.

`revocation_permanent_iff` says when a revoked pair stays closed, and
`stepped_back_revives` is a run whose clock is stepped back over a revocation.
-/

namespace NinjaOne

/-! ### The deadline, from the history -/

/-- The deadline an operation leaves to a pair. -/
def Op.cutsTo (pair_id : String) (deadline : Time) : Op → Time
  | .expire now pair_ids => if pair_id ∈ pair_ids then min deadline now else deadline
  | _ => deadline

/-- The deadline after some operations. -/
def deadlineAfter (pair_id : String) (deadline : Time) (ops : List Op) : Time :=
  ops.foldl (Op.cutsTo pair_id) deadline

theorem deadlineAfter_snoc (pair_id : String) (deadline : Time) (ops : List Op) (op : Op) :
    deadlineAfter pair_id deadline (ops ++ [op]) =
      op.cutsTo pair_id (deadlineAfter pair_id deadline ops) := by
  rw [deadlineAfter, deadlineAfter, List.foldl_append]
  rfl

theorem deadlineAfter_append (pair_id : String) (deadline : Time) (ops ops' : List Op) :
    deadlineAfter pair_id deadline (ops ++ ops') =
      deadlineAfter pair_id (deadlineAfter pair_id deadline ops) ops' := by
  rw [deadlineAfter, deadlineAfter, deadlineAfter, List.foldl_append]

theorem Op.cutsTo_le (pair_id : String) (deadline : Time) (op : Op) :
    op.cutsTo pair_id deadline ≤ deadline := by
  cases op with
  | expire now pair_ids =>
      rw [Op.cutsTo]
      split
      · exact min_le_left _ _
      · exact le_refl _
  | _ => exact le_refl _

/-- A deadline only moves towards the past. -/
theorem deadlineAfter_le (pair_id : String) (deadline : Time) (ops : List Op) :
    deadlineAfter pair_id deadline ops ≤ deadline := by
  induction ops generalizing deadline with
  | nil => exact le_refl _
  | cons op rest ih => exact le_trans (ih _) (op.cutsTo_le pair_id deadline)

/-- An `expire` that names the pair leaves it no more than its own reading. -/
theorem deadlineAfter_le_of_expire {pair_id : String} {pair_ids : List String}
    (named : pair_id ∈ pair_ids) (deadline now : Time) (earlier later : List Op) :
    deadlineAfter pair_id deadline (earlier ++ .expire now pair_ids :: later) ≤ now := by
  have cut : ∀ left, (Op.expire now pair_ids).cutsTo pair_id left = min left now := by
    intro left
    exact if_pos named
  rw [deadlineAfter_append]
  refine le_trans (deadlineAfter_le pair_id _ later) ?_
  rw [cut]
  exact min_le_right _ _

/-- A purge among the operations came after the pair's tombstone. -/
def PurgedSince (pair_id : String) (deadline : Time) (ops : List Op) : Prop :=
  ∃ earlier op later purged, ops = earlier ++ op :: later ∧ op.purgesAt = some purged ∧
    deadlineAfter pair_id deadline earlier + TOMBSTONE_SECONDS ≤ purged

theorem purgedSince_snoc {pair_id : String} {deadline : Time} {ops : List Op} {op : Op} :
    PurgedSince pair_id deadline (ops ++ [op]) ↔ PurgedSince pair_id deadline ops ∨
      ∃ purged, op.purgesAt = some purged ∧
        deadlineAfter pair_id deadline ops + TOMBSTONE_SECONDS ≤ purged := by
  constructor
  · rintro ⟨earlier, op', later, purged, split, purges, late⟩
    cases later using List.reverseRecOn with
    | nil =>
        obtain ⟨rfl, last⟩ := List.append_inj' split rfl
        obtain rfl := List.singleton_inj.mp last
        exact Or.inr ⟨purged, purges, late⟩
    | append_singleton later last _ =>
        rw [← List.cons_append, ← List.append_assoc] at split
        exact Or.inl ⟨earlier, op', later, purged, (List.append_inj' split rfl).1, purges, late⟩
  · rintro (⟨earlier, op', later, purged, rfl, purges, late⟩ | ⟨purged, purges, late⟩)
    · exact ⟨earlier, op', later ++ [op], purged, by rw [List.append_assoc, List.cons_append],
        purges, late⟩
    · exact ⟨ops, op, [], purged, rfl, purges, late⟩

/-- The pair's tokens are not accepted at `now`, by what was done since it was
created with this deadline. -/
def Closed (pair_id : String) (deadline : Time) (ops : List Op) (now : Time) : Prop :=
  PurgedSince pair_id deadline ops ∨ deadlineAfter pair_id deadline ops ≤ now

/-! ### The entry of a pair -/

theorem Entry.expires_at_received (e : Entry) (loads : String → Loads) (now : Time)
    (token : String) (raw : List UInt8) (content_type : Option String) :
    (e.received loads now token raw content_type).pair.expires_at = e.pair.expires_at := by
  unfold Entry.received
  split
  · split
    · rfl
    · rename_i recorded records
      obtain ⟨status, _, rfl⟩ := Pair.record_iff.mp records
      rfl
  · rfl

/-- The deadline of an entry not forgotten follows the operations. -/
theorem Entry.expires_at_act (e : Entry) (loads : String → Loads) (op : Op)
    (kept : e.forgotten = false) :
    (e.act loads op).pair.expires_at = op.cutsTo e.pair.pair_id e.pair.expires_at := by
  cases op with
  | receive now token raw content_type =>
      exact e.expires_at_received loads now token raw content_type
  | expire now pair_ids =>
      rw [Entry.act, Entry.foldl_cut, Op.cutsTo]
      by_cases named : e.pair.pair_id ∈ pair_ids
      · rw [if_pos ⟨kept, named⟩, if_pos named]
        rfl
      · rw [if_neg fun both => named both.2, if_neg named]
  | _ => rfl

/-- An entry that is not forgotten has not been forgotten before. -/
theorem Entry.kept_of_act {e : Entry} {loads : String → Loads} {op : Op}
    (kept : (e.act loads op).forgotten = false) : e.forgotten = false := by
  by_contra gone
  rw [Bool.not_eq_false] at gone
  rw [(e.forgotten_act loads op).mpr (Or.inl gone)] at kept
  cases kept

/-- While an entry is not forgotten its deadline is the history's. -/
theorem Entry.expires_at_foldl (e : Entry) (loads : String → Loads) (ops : List Op)
    (kept : (ops.foldl (Entry.act loads) e).forgotten = false) :
    (ops.foldl (Entry.act loads) e).pair.expires_at =
      deadlineAfter e.pair.pair_id e.pair.expires_at ops := by
  induction ops using List.reverseRecOn with
  | nil => rfl
  | append_singleton ops op ih =>
      rw [List.foldl_append] at kept ⊢
      have kept_before := Entry.kept_of_act kept
      have act := Entry.expires_at_act _ loads op kept_before
      rw [ih kept_before, (e.same_foldl loads ops).pair_id] at act
      rw [deadlineAfter_snoc]
      exact act

/-- The purges of the history forget an entry, and nothing else does. -/
theorem Entry.forgotten_foldl_iff {e : Entry} (loads : String → Loads) (ops : List Op)
    (kept : e.forgotten = false) : (ops.foldl (Entry.act loads) e).forgotten = true ↔
      PurgedSince e.pair.pair_id e.pair.expires_at ops := by
  induction ops using List.reverseRecOn with
  | nil =>
      refine iff_of_false (Bool.eq_false_iff.mp kept) ?_
      rintro ⟨earlier, op, later, _, split, _⟩
      exact List.append_ne_nil_of_right_ne_nil earlier (List.cons_ne_nil _ _) split.symm
  | append_singleton ops op ih =>
      rw [List.foldl_append, List.foldl_cons, List.foldl_nil, Entry.forgotten_act,
        purgedSince_snoc, ih]
      refine or_congr_right' fun unpurged => exists_congr fun purged => and_congr_right fun _ => ?_
      rw [← ih, Bool.not_eq_true] at unpurged
      rw [Pair.stale, decide_eq_true_eq, e.expires_at_foldl loads ops unpurged]

/-- **A pair's tokens are accepted unless its history has closed it**, whatever
the clock did. -/
theorem Entry.live_foldl_iff {e : Entry} (loads : String → Loads) (ops : List Op)
    (kept : e.forgotten = false) (now : Time) : (ops.foldl (Entry.act loads) e).live now = true ↔
      ¬ Closed e.pair.pair_id e.pair.expires_at ops now := by
  rw [Entry.live_iff, Closed, not_or, ← Entry.forgotten_foldl_iff loads ops kept,
    Bool.not_eq_true, not_le]
  exact and_congr_right fun here => by rw [e.expires_at_foldl loads ops here]

/-! ### Uses of a pair's tokens -/

/-- A `get_body` or a `receive` on one of the two tokens. -/
def Op.Uses (drawn : Drawn) : Op → Prop
  | .getBody _ token => token = drawn.get_token ∨ token = drawn.post_token
  | .receive _ token _ _ => token = drawn.get_token ∨ token = drawn.post_token
  | _ => False

/-- The reply of a `get_body` or a `receive` that was let through. -/
def Reply.Succeeds : Reply → Prop
  | .body text => text.isSome = true
  | .receive answer => answer = .returned true
  | _ => False

/-- What succeeds at `now` as long as the pair is open: a `get_body` on its GET
token, and a `receive` on its POST token of a body that `json.loads` copes with. -/
def Op.Tries (loads : String → Loads) (drawn : Drawn) (now : Time) : Op → Prop
  | .getBody reading token => reading = now ∧ token = drawn.get_token
  | .receive reading token raw _ => reading = now ∧ token = drawn.post_token ∧
      loads (Utf8.decodeReplace raw) ≠ .recursionError
  | _ => False

section Use

variable {loads : String → Loads} {s : Store} {l : Ledger} {e : Entry} {now : Time}

/-- A token of an entry gives access to that entry, for the one kind it is of. -/
theorem livePairFor_isSome_iff (refines : Refines s l) (mem : e ∈ l) (kind kind' : Kind) :
    (∃ pair, s.livePairFor now (e.pair.token kind) kind' = some pair) ↔
      kind = kind' ∧ e.live now = true := by
  constructor
  · rintro ⟨pair, live⟩
    obtain ⟨mem', tok, fresh⟩ := (livePairFor_iff refines).mp live
    obtain ⟨rfl, rfl⟩ := eq_of_token refines.strings mem mem' tok.symm
    exact ⟨rfl, by simp [Entry.live, fresh]⟩
  · rintro ⟨rfl, live⟩
    exact ⟨e.pair, livePairFor_of_live refines mem live kind⟩

theorem getBody_succeeds_iff (token : String) :
    (Reply.body (s.getBody now token)).Succeeds ↔
      ∃ pair, s.livePairFor now token .get = some pair := by
  rw [Reply.Succeeds, Store.getBody, Option.isSome_map, Option.isSome_iff_exists]

theorem receive_succeeds_iff (token : String) (raw : List UInt8) (content_type : Option String) :
    (Reply.receive (s.receive loads now token raw content_type).2).Succeeds ↔
      (∃ pair, s.livePairFor now token .post = some pair) ∧
        loads (Utf8.decodeReplace raw) ≠ .recursionError := by
  rw [Reply.Succeeds]
  cases live : s.livePairFor now token .post with
  | none =>
      rw [@receive_refused loads s now token raw content_type live]
      refine iff_of_false nofun ?_
      rintro ⟨⟨pair, found⟩, _⟩
      cases found
  | some pair =>
      by_cases raises : loads (Utf8.decodeReplace raw) = .recursionError
      · rw [@receive_raised loads s now token raw content_type pair live raises]
        exact iff_of_false nofun fun both => both.2 raises
      · obtain ⟨_, _, accepted⟩ := @receive_accepted loads s now token raw content_type pair live
          raises
        rw [accepted]
        exact iff_of_true rfl ⟨⟨pair, rfl⟩, raises⟩

end Use

section Step

variable {loads : String → Loads} {service service' : Service} {l : Ledger} {e : Entry}
  {drawn : Drawn} {op : Op} {reply : Reply}

/-- One use of an entry's tokens succeeds exactly when it is of the right kind
and the entry is live. -/
theorem use_succeeds_iff (refines : Refines service.store l) (mem : e ∈ l)
    (own : ∀ kind, e.pair.token kind = drawn.token kind)
    (taken : step loads service op = some (service', reply)) (uses : op.Uses drawn) :
    reply.Succeeds ↔ ∃ now, op.Tries loads drawn now ∧ e.live now = true := by
  have get : e.pair.token .get = drawn.get_token := own .get
  have post : e.pair.token .post = drawn.post_token := own .post
  have differ : drawn.post_token ≠ drawn.get_token := by
    intro same
    have both := (eq_of_token refines.strings mem mem
      (post.trans (same.trans get.symm))).2
    cases both
  cases op with
  | getBody now token =>
      obtain ⟨_, rfl⟩ := Prod.mk.inj (Option.some.inj taken)
      rw [getBody_succeeds_iff]
      simp only [Op.Tries, and_assoc, exists_eq_left']
      rcases uses with rfl | rfl
      · rw [← get, livePairFor_isSome_iff refines mem]
        exact and_congr_left fun _ => iff_of_true rfl rfl
      · rw [← post, livePairFor_isSome_iff refines mem, post]
        exact iff_of_false (fun both => by cases both.1) fun both => differ both.1
  | receive now token raw content_type =>
      obtain ⟨_, rfl⟩ := Prod.mk.inj (Option.some.inj taken)
      rw [receive_succeeds_iff]
      simp only [Op.Tries, and_assoc, exists_eq_left']
      rcases uses with rfl | rfl
      · rw [← get, livePairFor_isSome_iff refines mem, get]
        exact iff_of_false (fun both => by cases both.1.1) fun both => differ both.1.symm
      · rw [← post, livePairFor_isSome_iff refines mem, post]
        tauto
  | _ => cases uses

end Step

/-! ### After a revocation -/

/-- No use of the pair's tokens among these operations succeeded. -/
def StaysClosed (drawn : Drawn) (after : List (Op × Reply)) : Prop :=
  ∀ op r, (op, r) ∈ after → op.Uses drawn → ¬ r.Succeeds

/-- A try is a use of the pair's own token. -/
theorem Op.Tries.uses {loads : String → Loads} {drawn : Drawn} {op : Op} {now : Time}
    (tries : op.Tries loads drawn now) : op.Uses drawn := by
  cases op with
  | getBody reading token => exact Or.inl tries.2
  | receive reading token raw content_type => exact Or.inr tries.2.1
  | _ => cases tries

/-- An `expire` answers for the ids it was given. -/
theorem expire_named {s : Store} {now : Time} {pair_ids : List String} {p : String}
    {reply : ExpireReply} (mem : (p, reply) ∈ (s.expire now pair_ids).2) : p ∈ pair_ids := by
  obtain ⟨answer, assigned⟩ : ∃ answer : String → ExpireReply, (s.expire now pair_ids).2 =
      pair_ids.foldl (fun out p => Dict.assign p (answer p) out) [] := ⟨_, rfl⟩
  have listed : (s.expire now pair_ids).2 = (pair_ids.map fun p => (p, answer p)).foldl
      (fun out entry => Dict.assign entry.1 entry.2 out) [] := by
    rw [assigned, List.foldl_map]
  rw [listed] at mem
  rcases Dict.mem_foldl_assign mem with given | none
  · obtain ⟨q, here, eq⟩ := List.mem_map.mp given
    obtain ⟨rfl, _⟩ := Prod.mk.inj eq
    exact here
  · cases none

section History

variable {loads : String → Loads} {before : List (Op × Reply)} {purged created : Time}
  {drawn : Drawn} {body : String} {ttl_seconds : Int} {reply : Reply} {service : Service}

/-- **One use of a pair's tokens** in a run succeeds exactly when the history
since the pair was created has not closed it. -/
theorem use_succeeds_iff_open {since rest : List (Op × Reply)} {op : Op} {r : Reply}
    (run : Run (step loads) .empty (before ++
      (.create purged created drawn body ttl_seconds, reply) :: (since ++ (op, r) :: rest)) service)
    (fresh : Fresh ((before ++ (.create purged created drawn body ttl_seconds, reply) ::
      (since ++ (op, r) :: rest)).map Prod.fst)) (uses : op.Uses drawn) :
    r.Succeeds ↔ ∃ now, op.Tries loads drawn now ∧
      ¬ Closed drawn.pair_id (created + clampTtl ttl_seconds) (since.map Prod.fst) now := by
  rw [← List.cons_append, ← List.append_assoc] at run fresh
  obtain ⟨s, earlier, more⟩ := run.split
  cases more with
  | cons taken _ =>
      obtain ⟨l, refines, mem⟩ := refines_followed earlier (fresh_before fresh)
      have own : ∀ kind, (followed loads before created drawn body ttl_seconds
          since).pair.token kind = drawn.token kind := by
        intro kind
        rw [followed_same.token kind]
        cases kind <;> rfl
      rw [use_succeeds_iff refines mem own taken uses]
      refine exists_congr fun now => and_congr_right fun _ => ?_
      exact Entry.live_foldl_iff loads (since.map Prod.fst) rfl now

/-- A pair stays closed exactly when at every try the history since it was created
has closed it. -/
theorem staysClosed_iff {since after : List (Op × Reply)}
    (run : Run (step loads) .empty (before ++
      (.create purged created drawn body ttl_seconds, reply) :: (since ++ after)) service)
    (fresh : Fresh ((before ++ (.create purged created drawn body ttl_seconds, reply) ::
      (since ++ after)).map Prod.fst)) :
    StaysClosed drawn after ↔
      ∀ later op r rest now, after = later ++ (op, r) :: rest → op.Tries loads drawn now →
        Closed drawn.pair_id (created + clampTtl ttl_seconds) ((since ++ later).map Prod.fst)
          now := by
  have each : ∀ later op r rest, after = later ++ (op, r) :: rest → op.Uses drawn →
      (r.Succeeds ↔ ∃ now, op.Tries loads drawn now ∧
        ¬ Closed drawn.pair_id (created + clampTtl ttl_seconds) ((since ++ later).map Prod.fst)
          now) := by
    rintro later op r rest rfl uses
    rw [← List.append_assoc] at run fresh
    exact use_succeeds_iff_open run fresh uses
  constructor
  · intro stays later op r rest now split tries
    by_contra opened
    have uses := tries.uses
    have mem : (op, r) ∈ after := split ▸ List.mem_append_right _ List.mem_cons_self
    exact stays op r mem uses ((each later op r rest split uses).mpr ⟨now, tries, opened⟩)
  · intro closed op r mem uses succeeds
    obtain ⟨later, rest, split⟩ := List.append_of_mem mem
    obtain ⟨now, tries, opened⟩ := (each later op r rest split uses).mp succeeds
    exact opened (closed later op r rest now split tries)

/-- **When a revocation is permanent.** After an `expire` that answered `expired`
for a pair, no use of its tokens ever succeeds exactly when at every later try
the history has closed the pair; and so it is where no later try reads the clock
before the revocation did. -/
theorem revocation_permanent_iff {mid after : List (Op × Reply)} {revoked : Time}
    {pair_ids : List String} {results : List (String × ExpireReply)}
    (run : Run (step loads) .empty (before ++
      (.create purged created drawn body ttl_seconds, reply) ::
        (mid ++ (.expire revoked pair_ids, .expire results) :: after)) service)
    (fresh : Fresh ((before ++ (.create purged created drawn body ttl_seconds, reply) ::
      (mid ++ (.expire revoked pair_ids, .expire results) :: after)).map Prod.fst))
    (expired : (drawn.pair_id, .expired) ∈ results) :
    (StaysClosed drawn after ↔
      ∀ later op r rest now, after = later ++ (op, r) :: rest → op.Tries loads drawn now →
        Closed drawn.pair_id (created + clampTtl ttl_seconds)
          (mid.map Prod.fst ++ .expire revoked pair_ids :: later.map Prod.fst) now) ∧
    ((∀ op r now, (op, r) ∈ after → op.Tries loads drawn now → revoked ≤ now) →
      StaysClosed drawn after) := by
  have named : drawn.pair_id ∈ pair_ids := by
    obtain ⟨s, _, more⟩ := run.split
    cases more with
    | cons _ more =>
        obtain ⟨s', _, more⟩ := more.split
        cases more with
        | cons taken _ =>
            obtain ⟨_, answer⟩ := Prod.mk.inj (Option.some.inj taken)
            rw [← Reply.expire.inj answer] at expired
            exact expire_named expired
  rw [List.append_cons mid] at run fresh
  have exactly := staysClosed_iff run fresh
  simp only [List.append_assoc, List.singleton_append, List.map_append, List.map_cons] at exactly
  refine ⟨exactly, fun forwards => exactly.mpr ?_⟩
  intro later op r rest now split tries
  have mem : (op, r) ∈ after := split ▸ List.mem_append_right _ List.mem_cons_self
  refine Or.inr (le_trans ?_ (forwards op r now mem tries))
  exact deadlineAfter_le_of_expire named _ _ _ _

end History

/-! ### One pair revoked -/

/-- What a run has after creating one pair and revoking it at 100. -/
def revokedService : Service :=
  { onePairService with store := (onePairService.store.expire 100 ["p"]).1 }

/-- One pair, its revocation at 100, and a download at `now`. -/
theorem revoked_run (loads : String → Loads) (now : Time) : Run (step loads) .empty
    ([] ++ (onePair, .created (Store.empty.create 0 0 ⟨"p", "g", "t"⟩ "payload" 600).2) ::
      ([] ++ (.expire 100 ["p"], .expire [("p", .expired)]) ::
        [(.getBody now "g", .body (revokedService.store.getBody now "g"))])) revokedService :=
  .cons rfl (.cons rfl (.cons rfl (.nil _)))

/-- A download at 150 is refused. -/
theorem revoked_stays : StaysClosed ⟨"p", "g", "t"⟩
    [(.getBody 150 "g", .body (revokedService.store.getBody 150 "g"))] := by
  have permanent := revocation_permanent_iff (revoked_run (fun _ => .valueError) 150) (by decide)
    List.mem_cons_self
  refine permanent.2 ?_
  intro op r now mem tries
  obtain ⟨rfl, rfl⟩ := Prod.mk.inj (List.mem_singleton.mp mem)
  obtain ⟨rfl, _⟩ := tries
  norm_num

/-- A clock at 50 is before the deadline the revocation left. -/
theorem revoked_open_before : ¬ Closed "p" (0 + clampTtl 600) [.expire 100 ["p"]] 50 := by
  have ttl : clampTtl 600 = 600 := by decide
  rintro (⟨earlier, op, later, purged, split, purges, _⟩ | late)
  · have mem : op ∈ [Op.expire 100 ["p"]] := split ▸ List.mem_append_right _ List.mem_cons_self
    obtain rfl := List.mem_singleton.mp mem
    cases purges
  · have deadline : deadlineAfter "p" (0 + clampTtl 600) [.expire 100 ["p"]] =
        min (0 + (clampTtl 600 : Time)) 100 := by
      change (Op.expire 100 ["p"]).cutsTo "p" (0 + (clampTtl 600 : Time)) = _
      rw [Op.cutsTo, if_pos List.mem_cons_self]
    rw [deadline, ttl] at late
    norm_num at late

/-- A clock that is stepped back to 50 brings the revoked GET token back. -/
theorem stepped_back_revives : ¬ ∀ (loads : String → Loads) (before mid after : List (Op × Reply))
    (purged created revoked : Time) (drawn : Drawn) (body : String) (ttl_seconds : Int)
    (reply : Reply) (pair_ids : List String) (results : List (String × ExpireReply))
    (service : Service),
    Run (step loads) .empty (before ++ (.create purged created drawn body ttl_seconds, reply) ::
      (mid ++ (.expire revoked pair_ids, .expire results) :: after)) service →
    Fresh ((before ++ (.create purged created drawn body ttl_seconds, reply) ::
      (mid ++ (.expire revoked pair_ids, .expire results) :: after)).map Prod.fst) →
    (drawn.pair_id, .expired) ∈ results → StaysClosed drawn after := by
  intro all
  have run := revoked_run (fun _ => .valueError) 50
  have stays := all _ [] [] _ 0 0 100 ⟨"p", "g", "t"⟩ "payload" 600 _ ["p"] _ _ run (by decide)
    List.mem_cons_self
  have uses : (Op.getBody 50 "g").Uses ⟨"p", "g", "t"⟩ := Or.inl rfl
  have tries : (Op.getBody 50 "g").Tries (fun _ => .valueError) ⟨"p", "g", "t"⟩ 50 := ⟨rfl, rfl⟩
  have succeeds := (@use_succeeds_iff_open _ [] 0 0 ⟨"p", "g", "t"⟩ "payload" 600 _ _
    [(.expire 100 ["p"], .expire [("p", .expired)])] [] _ _ run (by decide) uses).mpr
    ⟨50, tries, revoked_open_before⟩
  exact stays _ _ List.mem_cons_self uses succeeds

end NinjaOne
