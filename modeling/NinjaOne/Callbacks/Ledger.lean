import Mathlib.Data.List.Pairwise
import NinjaOne.Callbacks.Store
import NinjaOne.Lib.Runs

/-!
The ledger: what the store is for, without its two maps.

A ledger lists every pair ever created, in order of creation, each with a note
whether it has been forgotten. An operation acts on each entry by itself
(`Entry.act`), and `create` adds one. No token is looked up and nothing is ever
removed, so what can happen to one pair over a run is a fold over its own entry.

`Refines` says that the store holds exactly the entries not forgotten, under
their ids and their tokens, and `refines_step` that every operation keeps this,
as long as `create` draws new strings. `refines_run` carries it over runs.
-/

namespace NinjaOne

/-! ### Entries -/

structure Entry where
  pair : Pair
  forgotten : Bool
deriving DecidableEq

def Pair.strings (pair : Pair) : List String := [pair.pair_id, pair.get_token, pair.post_token]

namespace Entry

/-- Whether the entry's tokens are accepted at `now`. -/
def live (e : Entry) (now : Time) : Bool := !e.forgotten && !e.pair.expired now

def purged (now : Time) (e : Entry) : Entry :=
  { e with forgotten := e.forgotten || e.pair.stale now }

/-- A POST to `token`. -/
def received (loads : String → Loads) (now : Time) (token : String) (raw : List UInt8)
    (content_type : Option String) (e : Entry) : Entry :=
  if e.live now = true ∧ e.pair.post_token = token then
    match e.pair.record loads raw content_type with
    | none => e
    | some recorded => { e with pair := recorded }
  else e

/-- An `expire` of one id. -/
def cut (now : Time) (pair_id : String) (e : Entry) : Entry :=
  if e.forgotten = false ∧ e.pair.pair_id = pair_id then { e with pair := e.pair.cut now } else e

/-- What an operation does to an entry. -/
def act (loads : String → Loads) (e : Entry) : Op → Entry
  | .create purged _ _ _ _ => e.purged purged
  | .waitStart purged _ _ _ => e.purged purged
  | .receive now token raw content_type => e.received loads now token raw content_type
  | .expire now pair_ids => pair_ids.foldl (fun e p => e.cut now p) e
  | _ => e

/-- Whether the entry's pair has a result. -/
def decided (e : Entry) : Bool := decide (e.pair.status ≠ .pending)

end Entry

abbrev Ledger := List Entry

/-- The entry an operation adds. -/
def Op.opened (count : Nat) : Op → Ledger
  | .create _ created drawn body ttl_seconds => [⟨drawn.pair body ttl_seconds created count, false⟩]
  | _ => []

def Ledger.next (loads : String → Loads) (l : Ledger) (op : Op) : Ledger :=
  l.map (fun e => e.act loads op) ++ op.opened l.length

/-- The ledger after some operations. -/
def ledger (loads : String → Loads) (ops : List Op) : Ledger := ops.foldl (Ledger.next loads) []

/-! ### What never changes in an entry -/

theorem Loads.status_ne_pending {parsed : Loads} {status : PairStatus}
    (eq : parsed.status = some status) : status ≠ .pending := by
  cases parsed with
  | recursionError => cases eq
  | _ =>
      cases eq
      decide

theorem Pair.record_iff {loads : String → Loads} {raw : List UInt8} {content_type : Option String}
    {pair recorded : Pair} : pair.record loads raw content_type = some recorded ↔
      ∃ status, (loads (Utf8.decodeReplace raw)).status = some status ∧
        pair.withResult status (Utf8.decodeReplace raw) content_type = recorded :=
  Option.map_eq_some_iff

/-- Fields of the pair that no operation changes. -/
structure Entry.Same (e e' : Entry) : Prop where
  strings : e'.pair.strings = e.pair.strings
  body : e'.pair.body = e.pair.body
  done : e'.pair.done = e.pair.done

theorem Entry.Same.refl (e : Entry) : e.Same e := ⟨rfl, rfl, rfl⟩

theorem Entry.Same.trans {e e' e'' : Entry} (h : e.Same e') (h' : e'.Same e'') : e.Same e'' :=
  ⟨h'.strings.trans h.strings, h'.body.trans h.body, h'.done.trans h.done⟩

theorem Entry.same_cut (e : Entry) (now : Time) (pair_id : String) : e.Same (e.cut now pair_id) := by
  unfold Entry.cut
  split
  · exact ⟨rfl, rfl, rfl⟩
  · exact .refl e

theorem Entry.same_received (e : Entry) (loads : String → Loads) (now : Time) (token : String)
    (raw : List UInt8) (content_type : Option String) :
    e.Same (e.received loads now token raw content_type) := by
  unfold Entry.received
  split
  · split
    · exact .refl e
    · rename_i recorded eq
      obtain ⟨status, _, rfl⟩ := Pair.record_iff.mp eq
      exact ⟨rfl, rfl, rfl⟩
  · exact .refl e

theorem Entry.same_act (e : Entry) (loads : String → Loads) (op : Op) : e.Same (e.act loads op) := by
  cases op with
  | receive now token raw content_type => exact e.same_received loads now token raw content_type
  | expire now pair_ids =>
      change e.Same (pair_ids.foldl (fun e p => e.cut now p) e)
      induction pair_ids generalizing e with
      | nil => exact .refl e
      | cons p rest ih => exact (e.same_cut now p).trans (ih _)
  | _ => exact ⟨rfl, rfl, rfl⟩

theorem Entry.strings_act (e : Entry) (loads : String → Loads) (op : Op) :
    (e.act loads op).pair.strings = e.pair.strings :=
  (e.same_act loads op).strings

theorem Entry.Same.pair_id {e e' : Entry} (same : e.Same e') : e'.pair.pair_id = e.pair.pair_id :=
  (List.cons.inj same.strings).1

theorem Entry.Same.token {e e' : Entry} (same : e.Same e') (kind : Kind) :
    e'.pair.token kind = e.pair.token kind := by
  obtain ⟨_, tokens⟩ := List.cons.inj same.strings
  obtain ⟨get, post⟩ := List.cons.inj tokens
  cases kind with
  | get => exact get
  | post => exact (List.cons.inj post).1

/-! ### The store and the ledger -/

/-- The store holds the entries not forgotten. -/
structure Refines (s : Store) (l : Ledger) : Prop where
  pairs : ∀ id pair, s.pairs.get id = some pair ↔ ⟨pair, false⟩ ∈ l ∧ pair.pair_id = id
  tokens : ∀ t id kind, s.by_token.get t = some (id, kind) ↔
    ∃ pair, ⟨pair, false⟩ ∈ l ∧ pair.pair_id = id ∧ pair.token kind = t
  /-- No two strings of the ledger are the same. -/
  strings : (l.flatMap fun e => e.pair.strings).Nodup
  dones : l.map (fun e => e.pair.done) = List.range l.length
  events : s.events = l.map Entry.decided

theorem refines_empty : Refines .empty [] where
  pairs id pair := by simp [Store.empty]
  tokens t id kind := by simp [Store.empty]
  strings := List.nodup_nil
  dones := rfl
  events := rfl

theorem Pair.token_mem_strings (pair : Pair) (kind : Kind) : pair.token kind ∈ pair.strings := by
  cases kind with
  | get => exact List.mem_cons_of_mem _ List.mem_cons_self
  | post => exact List.mem_cons_of_mem _ (List.mem_cons_of_mem _ List.mem_cons_self)

/-- Lists put together without a repetition have no element in common. -/
theorem eq_of_mem_flatMap {α β : Type} {l : List α} {f : α → List β} (nodup : (l.flatMap f).Nodup)
    {a a' : α} (mem : a ∈ l) (mem' : a' ∈ l) {x : β} (here : x ∈ f a) (there : x ∈ f a') :
    a = a' := by
  obtain ⟨_, apart⟩ := List.nodup_flatMap.mp nodup
  by_contra differ
  have symm : Std.Symm fun a a' : α => (f a).Disjoint (f a') :=
    ⟨fun _ _ disjoint _ here there => disjoint there here⟩
  exact List.Pairwise.forall (R := fun a a' : α => (f a).Disjoint (f a')) apart mem mem' differ
    here there

theorem Pair.mem_tokens_iff {pair : Pair} {t : String} :
    t ∈ [pair.get_token, pair.post_token] ↔ ∃ kind, pair.token kind = t := by
  rw [List.mem_pair]
  constructor
  · rintro (rfl | rfl)
    · exact ⟨.get, rfl⟩
    · exact ⟨.post, rfl⟩
  · rintro ⟨kind, rfl⟩
    cases kind with
    | get => exact Or.inl rfl
    | post => exact Or.inr rfl

section Unique

variable {l : Ledger} (strings : (l.flatMap fun e => e.pair.strings).Nodup)

include strings

/-- An entry is known by any of its strings. -/
theorem eq_of_common_string {e e' : Entry} (mem : e ∈ l) (mem' : e' ∈ l) {x : String}
    (here : x ∈ e.pair.strings) (there : x ∈ e'.pair.strings) : e = e' :=
  eq_of_mem_flatMap strings mem mem' here there

theorem eq_of_pair_id {e e' : Entry} (mem : e ∈ l) (mem' : e' ∈ l)
    (same : e.pair.pair_id = e'.pair.pair_id) : e = e' :=
  eq_of_common_string strings mem mem' List.mem_cons_self (same ▸ List.mem_cons_self)

theorem eq_of_token {e e' : Entry} (mem : e ∈ l) (mem' : e' ∈ l) {kind kind' : Kind}
    (same : e.pair.token kind = e'.pair.token kind') : e = e' ∧ kind = kind' := by
  have entry : e = e' := eq_of_common_string strings mem mem' (e.pair.token_mem_strings kind)
    (same ▸ e'.pair.token_mem_strings kind')
  subst entry
  refine ⟨rfl, ?_⟩
  obtain ⟨own, _⟩ := List.nodup_flatMap.mp strings
  have differ : e.pair.get_token ≠ e.pair.post_token := by
    have := own e mem
    simp only [Pair.strings, List.nodup_cons, List.mem_cons, List.not_mem_nil, or_false] at this
    exact this.2.1
  cases kind <;> cases kind'
  · rfl
  · exact absurd same differ
  · exact absurd same.symm differ
  · rfl

end Unique

/-! ### Each operation keeps the refinement -/

section Purge

variable {s : Store} {now : Time}

theorem purge_pairs {id : String} {pair : Pair} :
    (s.purge now).pairs.get id = some pair ↔
      s.pairs.get id = some pair ∧ pair.stale now = false := by
  simp only [Store.purge, Dict.get_popAll]
  split
  · rename_i popped
    obtain ⟨entry, mem, rfl⟩ := List.mem_map.mp popped
    obtain ⟨here, stale⟩ := List.mem_filter.mp mem
    have found := Dict.get_eq_some_iff.mpr here
    constructor
    · intro none
      cases none
    · rintro ⟨same, fresh⟩
      rw [found, Option.some.injEq] at same
      rw [same, fresh] at stale
      cases stale
  · rename_i kept
    constructor
    · intro found
      refine ⟨found, Bool.eq_false_iff.mpr fun stale => kept ?_⟩
      exact List.mem_map.mpr ⟨(id, pair),
        List.mem_filter.mpr ⟨Dict.get_eq_some_iff.mp found, stale⟩, rfl⟩
    · exact fun found => found.1

theorem purge_tokens {t : String} {hit : String × Kind} :
    (s.purge now).by_token.get t = some hit ↔ s.by_token.get t = some hit ∧
      ∀ id pair, s.pairs.get id = some pair → pair.stale now = true →
        ∀ kind, pair.token kind ≠ t := by
  have popped_iff : (t ∈ (s.pairs.entries.filter fun entry => entry.2.stale now).flatMap
      fun entry => [entry.2.get_token, entry.2.post_token]) ↔
      ∃ id pair, s.pairs.get id = some pair ∧ pair.stale now = true ∧
        ∃ kind, pair.token kind = t := by
    constructor
    · intro mem
      obtain ⟨⟨id, pair⟩, here, token⟩ := List.mem_flatMap.mp mem
      obtain ⟨here, stale⟩ := List.mem_filter.mp here
      exact ⟨id, pair, Dict.get_eq_some_iff.mpr here, stale, Pair.mem_tokens_iff.mp token⟩
    · rintro ⟨id, pair, found, stale, own⟩
      exact List.mem_flatMap.mpr ⟨(id, pair),
        List.mem_filter.mpr ⟨Dict.get_eq_some_iff.mp found, stale⟩, Pair.mem_tokens_iff.mpr own⟩
  simp only [Store.purge, Dict.get_popAll]
  split
  · rename_i popped
    obtain ⟨id, pair, found, stale, kind, token⟩ := popped_iff.mp popped
    constructor
    · intro none
      cases none
    · rintro ⟨_, kept⟩
      exact absurd token (kept id pair found stale kind)
  · rename_i kept
    constructor
    · intro found
      exact ⟨found, fun id pair here stale kind token =>
        kept (popped_iff.mpr ⟨id, pair, here, stale, kind, token⟩)⟩
    · exact fun found => found.1

theorem mem_map_purged {l : Ledger} {pair : Pair} :
    (⟨pair, false⟩ : Entry) ∈ l.map (Entry.purged now) ↔
      (⟨pair, false⟩ : Entry) ∈ l ∧ pair.stale now = false := by
  constructor
  · intro mem
    obtain ⟨⟨pair', forgotten⟩, here, eq⟩ := List.mem_map.mp mem
    injection eq with same kept
    subst same
    rw [Bool.or_eq_false_iff] at kept
    obtain ⟨rfl, fresh⟩ := kept
    exact ⟨here, fresh⟩
  · rintro ⟨here, fresh⟩
    exact List.mem_map.mpr ⟨_, here, by simp [Entry.purged, fresh]⟩

theorem refines_purge {l : Ledger} (refines : Refines s l) :
    Refines (s.purge now) (l.map (Entry.purged now)) where
  pairs id pair := by
    rw [purge_pairs, refines.pairs, mem_map_purged]
    exact and_right_comm
  tokens t id kind := by
    rw [purge_tokens, refines.tokens]
    constructor
    · rintro ⟨⟨pair, mem, own, token⟩, kept⟩
      have found := (refines.pairs pair.pair_id pair).mpr ⟨mem, rfl⟩
      have fresh : pair.stale now = false := Bool.eq_false_iff.mpr fun stale =>
        kept _ pair found stale kind token
      exact ⟨pair, mem_map_purged.mpr ⟨mem, fresh⟩, own, token⟩
    · rintro ⟨pair, mem, own, token⟩
      obtain ⟨mem, fresh⟩ := mem_map_purged.mp mem
      refine ⟨⟨pair, mem, own, token⟩, fun id' pair' found stale kind' token' => ?_⟩
      obtain ⟨mem', _⟩ := (refines.pairs id' pair').mp found
      have same := (eq_of_token refines.strings mem mem' 
        (token.trans token'.symm)).1
      injection same with same
      rw [← same, fresh] at stale
      cases stale
  strings := by
    rw [List.flatMap_map]
    exact refines.strings
  dones := by
    rw [List.map_map, List.length_map]
    exact refines.dones
  events := by
    rw [List.map_map]
    exact refines.events

end Purge

section Add

variable {s : Store} {pair : Pair}

theorem add_pairs {id : String} {held : Pair} :
    (s.add pair).pairs.get id = some held ↔
      id = pair.pair_id ∧ held = pair ∨ id ≠ pair.pair_id ∧ s.pairs.get id = some held := by
  simp only [Store.add, Dict.get_set]
  by_cases here : id = pair.pair_id
  · rw [if_pos here, Option.some.injEq, or_iff_left fun other => other.1 here, and_iff_right here]
    exact eq_comm
  · rw [if_neg here, or_iff_right fun same => here same.1, and_iff_right here]

theorem add_tokens (differ : pair.get_token ≠ pair.post_token) {t id : String} {kind : Kind} :
    (s.add pair).by_token.get t = some (id, kind) ↔
      pair.token kind = t ∧ id = pair.pair_id ∨
        (∀ kind', pair.token kind' ≠ t) ∧ s.by_token.get t = some (id, kind) := by
  simp only [Store.add, Dict.get_set]
  by_cases own : ∃ kind', pair.token kind' = t
  · obtain ⟨kind', rfl⟩ := own
    rw [or_iff_left fun other => other.1 kind' rfl]
    cases kind' <;> cases kind
    all_goals
      simp only [Pair.token, differ, differ.symm, if_true, if_false, Option.some.injEq,
        Prod.mk.injEq, reduceCtorEq, and_true, and_false, true_and, false_and]
    all_goals exact eq_comm
  · have none : ∀ kind', pair.token kind' ≠ t := fun kind' token => own ⟨kind', token⟩
    have not_post : t ≠ pair.post_token := (none .post).symm
    have not_get : t ≠ pair.get_token := (none .get).symm
    rw [if_neg not_post, if_neg not_get, or_iff_right fun same => none kind same.1,
      and_iff_right none]

/-- A new pair. -/
theorem refines_add {l : Ledger} (refines : Refines s l)
    (pending : pair.status = .pending) (done : pair.done = s.events.length)
    (own : pair.strings.Nodup) (fresh : ∀ e ∈ l, ∀ x ∈ pair.strings, x ∉ e.pair.strings) :
    Refines (s.add pair) (l ++ [⟨pair, false⟩]) where
  pairs id pair' := by
    have mem_iff : (⟨pair', false⟩ : Entry) ∈ l ++ [⟨pair, false⟩] ↔
        (⟨pair', false⟩ : Entry) ∈ l ∨ pair' = pair := by
      rw [List.mem_append, List.mem_singleton, Entry.mk.injEq, and_iff_left rfl]
    rw [add_pairs, refines.pairs, mem_iff]
    constructor
    · rintro (⟨rfl, rfl⟩ | ⟨_, old, same⟩)
      · exact ⟨Or.inr rfl, rfl⟩
      · exact ⟨Or.inl old, same⟩
    · rintro ⟨old | rfl, same⟩
      · refine Or.inr ⟨fun here => ?_, old, same⟩
        exact fresh _ old _ List.mem_cons_self ((same.trans here) ▸ List.mem_cons_self)
      · exact Or.inl ⟨same.symm, rfl⟩
  tokens t id kind := by
    have differ : pair.get_token ≠ pair.post_token := by
      simp only [Pair.strings, List.nodup_cons, List.mem_cons, List.not_mem_nil, or_false] at own
      exact own.2.1
    rw [add_tokens differ, refines.tokens]
    constructor
    · rintro (⟨token, rfl⟩ | ⟨_, pair', old, same, token⟩)
      · exact ⟨pair, List.mem_append_right _ (List.mem_singleton_self _), rfl, token⟩
      · exact ⟨pair', List.mem_append_left _ old, same, token⟩
    · rintro ⟨pair', mem, same, token⟩
      rcases List.mem_append.mp mem with old | new
      · refine Or.inr ⟨fun kind' token' => ?_, pair', old, same, token⟩
        exact fresh _ old _ (pair.token_mem_strings kind')
          ((token.trans token'.symm) ▸ pair'.token_mem_strings kind)
      · cases List.mem_singleton.mp new
        exact Or.inl ⟨token, same.symm⟩
  strings := by
    rw [List.flatMap_append, List.flatMap_singleton, List.nodup_append]
    refine ⟨refines.strings, own, fun x mem y there eq => ?_⟩
    subst eq
    obtain ⟨e, here, old⟩ := List.mem_flatMap.mp mem
    exact fresh e here x there old
  dones := by
    have length : s.events.length = l.length := by rw [refines.events, List.length_map]
    rw [List.map_append, refines.dones, List.length_append, List.length_singleton, List.range_succ,
      List.map_singleton, done, length]
  events := by
    rw [Store.add, List.map_append, refines.events, List.map_singleton]
    simp [Entry.decided, pending]

end Add

section Update

variable {s : Store} {l : Ledger} {pair pair' : Pair} {change : Entry → Entry}

/-- The entries not forgotten are the same but for the one pair that changes. -/
theorem mem_changed_iff (mem : (⟨pair, false⟩ : Entry) ∈ l)
    (here : change ⟨pair, false⟩ = ⟨pair', false⟩)
    (others : ∀ e ∈ l, e ≠ ⟨pair, false⟩ → change e = e) (p : Pair) :
    (⟨p, false⟩ : Entry) ∈ l.map change ↔ p = pair' ∨ (⟨p, false⟩ : Entry) ∈ l ∧ p ≠ pair := by
  constructor
  · intro changed
    obtain ⟨e, e_mem, eq⟩ := List.mem_map.mp changed
    by_cases this_one : e = ⟨pair, false⟩
    · rw [this_one, here] at eq
      exact Or.inl (Entry.mk.inj eq).1.symm
    · rw [others e e_mem this_one] at eq
      subst eq
      exact Or.inr ⟨e_mem, fun p_eq => this_one (by rw [p_eq])⟩
  · rintro (rfl | ⟨e_mem, differ⟩)
    · exact List.mem_map.mpr ⟨_, mem, here⟩
    · exact List.mem_map.mpr ⟨_, e_mem, others _ e_mem fun eq => differ (Entry.mk.inj eq).1⟩

/-- A change of one entry's pair, under its own id. -/
theorem refines_set (refines : Refines s l) (mem : (⟨pair, false⟩ : Entry) ∈ l)
    (same : (⟨pair, false⟩ : Entry).Same ⟨pair', false⟩)
    (here : change ⟨pair, false⟩ = ⟨pair', false⟩)
    (others : ∀ e ∈ l, e ≠ ⟨pair, false⟩ → change e = e) {events : List Bool}
    (decided : events = (l.map change).map Entry.decided) :
    Refines { s with pairs := s.pairs.set pair.pair_id pair', events := events }
      (l.map change) := by
  have id_same : pair'.pair_id = pair.pair_id := same.pair_id
  have all_same : ∀ e ∈ l, e.Same (change e) := by
    intro e here'
    by_cases eq : e = ⟨pair, false⟩
    · rw [eq, here]
      exact same
    · rw [others e here' eq]
      exact .refl e
  have mem_iff := mem_changed_iff mem here others
  refine ⟨fun id p => ?_, fun t id kind => ?_, ?_, ?_, decided⟩
  · simp only [Dict.get_set, mem_iff]
    by_cases at_id : id = pair.pair_id
    · subst at_id
      rw [if_pos rfl, Option.some.injEq]
      constructor
      · rintro rfl
        exact ⟨Or.inl rfl, id_same⟩
      · rintro ⟨rfl | ⟨old, differ⟩, p_id⟩
        · rfl
        · exact absurd (Entry.mk.inj (eq_of_pair_id refines.strings old mem p_id)).1 differ
    · rw [if_neg at_id, refines.pairs]
      constructor
      · rintro ⟨old, p_id⟩
        exact ⟨Or.inr ⟨old, fun eq => at_id (by rw [← p_id, eq])⟩, p_id⟩
      · rintro ⟨rfl | ⟨old, _⟩, p_id⟩
        · exact absurd (p_id.symm.trans id_same) at_id
        · exact ⟨old, p_id⟩
  · rw [refines.tokens]
    constructor
    · rintro ⟨p, old, p_id, token⟩
      by_cases eq : p = pair
      · subst eq
        exact ⟨pair', (mem_iff pair').mpr (Or.inl rfl), id_same.trans p_id,
          (same.token kind).trans token⟩
      · exact ⟨p, (mem_iff p).mpr (Or.inr ⟨old, eq⟩), p_id, token⟩
    · rintro ⟨p, changed, p_id, token⟩
      rcases (mem_iff p).mp changed with rfl | ⟨old, _⟩
      · exact ⟨pair, mem, id_same.symm.trans p_id, (same.token kind).symm.trans token⟩
      · exact ⟨p, old, p_id, token⟩
  · rw [List.flatMap_map, List.flatMap_congr fun e e_mem => (all_same e e_mem).strings]
    exact refines.strings
  · rw [List.map_map, List.length_map, ← refines.dones]
    exact List.map_congr_left fun e e_mem => (all_same e e_mem).done

/-- Nothing changes. -/
theorem refines_same (refines : Refines s l) (none : ∀ e ∈ l, change e = e) :
    Refines s (l.map change) := by
  rw [List.map_congr_left none, List.map_id']
  exact refines

end Update

/-- What a token gives access to, in terms of the ledger. -/
theorem livePairFor_iff {s : Store} {l : Ledger} (refines : Refines s l) {now : Time}
    {token : String} {kind : Kind} {pair : Pair} :
    s.livePairFor now token kind = some pair ↔
      (⟨pair, false⟩ : Entry) ∈ l ∧ pair.token kind = token ∧ pair.expired now = false := by
  unfold Store.livePairFor
  cases hit : s.by_token.get token with
  | none =>
      constructor
      · intro none
        cases none
      · rintro ⟨mem, tok, _⟩
        rw [(refines.tokens token pair.pair_id kind).mpr ⟨pair, mem, rfl, tok⟩] at hit
        cases hit
  | some found =>
      obtain ⟨id, kind'⟩ := found
      obtain ⟨pair', mem', own, tok'⟩ := (refines.tokens token id kind').mp hit
      have get := (refines.pairs id pair').mpr ⟨mem', own⟩
      simp only [get]
      constructor
      · intro live
        by_cases same : kind' = kind
        · subst same
          rw [if_neg (not_not.mpr rfl)] at live
          by_cases gone : pair'.expired now = true
          · rw [if_pos gone] at live
            cases live
          · rw [if_neg gone, Option.some.injEq] at live
            subst live
            exact ⟨mem', tok', Bool.eq_false_iff.mpr gone⟩
        · rw [if_pos same] at live
          cases live
      · rintro ⟨mem, tok, fresh⟩
        obtain ⟨entry, kinds⟩ := eq_of_token refines.strings mem' mem (tok'.trans tok.symm)
        have same := (Entry.mk.inj entry).1
        subst same
        rw [if_neg (not_not.mpr kinds), fresh]
        rfl

/-- An entry a token is accepted for is held by the store. -/
theorem Entry.eq_of_live {e : Entry} {now : Time} (live : e.live now = true) :
    e = ⟨e.pair, false⟩ ∧ e.pair.expired now = false := by
  obtain ⟨pair, forgotten⟩ := e
  simp only [Entry.live, Bool.and_eq_true, Bool.not_eq_true'] at live
  obtain ⟨rfl, fresh⟩ := live
  exact ⟨rfl, fresh⟩

section Receive

variable {s : Store} {l : Ledger} {loads : String → Loads} {now : Time} {token : String}
  {raw : List UInt8} {content_type : Option String}

/-- A live entry is what its tokens give access to. -/
theorem livePairFor_of_live (refines : Refines s l) {e : Entry} (mem : e ∈ l)
    (live : e.live now = true) (kind : Kind) :
    s.livePairFor now (e.pair.token kind) kind = some e.pair := by
  obtain ⟨eq, fresh⟩ := Entry.eq_of_live live
  exact (livePairFor_iff refines).mpr ⟨eq ▸ mem, rfl, fresh⟩

/-- An entry's place in the ledger is the reference of its event. -/
theorem getElem_done (refines : Refines s l) {i : Nat} (lt : i < l.length) :
    l[i].pair.done = i := by
  have at_i := List.getElem_of_eq refines.dones (i := i) (by simpa using lt)
  simpa using at_i

/-- An event is set exactly when its pair has a result. -/
theorem events_of_mem (refines : Refines s l) {e : Entry} (mem : e ∈ l) :
    s.events[e.pair.done]? = some e.decided := by
  obtain ⟨i, lt, rfl⟩ := List.getElem_of_mem mem
  rw [refines.events, getElem_done refines lt, List.getElem?_map, List.getElem?_eq_getElem lt]
  rfl

/-- A POST that is refused changes no entry. -/
theorem received_of_refused (refines : Refines s l) {e : Entry} (mem : e ∈ l)
    (refused : s.livePairFor now token .post = none) :
    e.received loads now token raw content_type = e := by
  rw [Entry.received, if_neg]
  rintro ⟨live, rfl⟩
  have found := livePairFor_of_live refines mem live .post
  rw [Pair.token, refused] at found
  cases found

/-- Setting a pair's event marks that pair, and no other, as decided. -/
theorem events_set (refines : Refines s l) {pair recorded : Pair}
    (mem : (⟨pair, false⟩ : Entry) ∈ l) (decided : recorded.status ≠ .pending)
    {change : Entry → Entry} (here : change ⟨pair, false⟩ = ⟨recorded, false⟩)
    (others : ∀ e ∈ l, e ≠ ⟨pair, false⟩ → change e = e) :
    s.events.set pair.done true = (l.map change).map Entry.decided := by
  obtain ⟨j, j_lt, at_j⟩ := List.getElem_of_mem mem
  have j_eq : pair.done = j := by
    have := getElem_done refines j_lt
    rw [at_j] at this
    exact this
  rw [refines.events, j_eq]
  refine List.ext_getElem (by simp) fun i lt lt' => ?_
  have i_lt : i < l.length := by simpa using lt
  simp only [List.getElem_set, List.getElem_map]
  by_cases same : j = i
  · subst same
    rw [if_pos rfl, at_j, here]
    exact (decide_eq_true decided).symm
  · rw [if_neg same]
    have differ : l[i] ≠ ⟨pair, false⟩ := by
      intro eq
      have := getElem_done refines i_lt
      rw [eq] at this
      exact same (j_eq.symm.trans this)
    rw [others _ (List.getElem_mem i_lt) differ]

theorem refines_receive (refines : Refines s l) :
    Refines (s.receive loads now token raw content_type).1
      (l.map (Entry.received loads now token raw content_type)) := by
  unfold Store.receive
  cases found : s.livePairFor now token .post with
  | none => exact refines_same refines fun e mem => received_of_refused refines mem found
  | some pair =>
      obtain ⟨mem, tok, fresh⟩ := (livePairFor_iff refines).mp found
      have others : ∀ e ∈ l, e ≠ ⟨pair, false⟩ →
          e.received loads now token raw content_type = e := by
        intro e e_mem differ
        rw [Entry.received, if_neg]
        rintro ⟨live, rfl⟩
        have same := livePairFor_of_live refines e_mem live .post
        rw [Pair.token, found, Option.some.injEq] at same
        exact differ (same ▸ (Entry.eq_of_live live).1)
      have accepts : (⟨pair, false⟩ : Entry).live now = true ∧ pair.post_token = token :=
        ⟨by simp [Entry.live, fresh], tok⟩
      cases records : pair.record loads raw content_type with
      | none =>
          simp only [records]
          refine refines_same refines fun e e_mem => ?_
          by_cases this_one : e = ⟨pair, false⟩
          · rw [this_one, Entry.received, if_pos accepts, records]
          · exact others e e_mem this_one
      | some recorded =>
          obtain ⟨status, decided, eq⟩ := Pair.record_iff.mp records
          have here : (⟨pair, false⟩ : Entry).received loads now token raw content_type =
              ⟨recorded, false⟩ := by
            rw [Entry.received, if_pos accepts, records]
          have same : (⟨pair, false⟩ : Entry).Same ⟨recorded, false⟩ := by
            rw [← eq]
            exact ⟨rfl, rfl, rfl⟩
          have marked : recorded.status ≠ .pending := by
            rw [← eq]
            exact Loads.status_ne_pending decided
          simp only [records]
          exact refines_set refines mem same here others
            (events_set refines mem marked here others)

end Receive

theorem refines_expireOne {s : Store} {l : Ledger} (refines : Refines s l) (now : Time)
    (pair_id : String) : Refines (s.expireOne now pair_id) (l.map fun e => e.cut now pair_id) := by
  unfold Store.expireOne
  cases found : s.pairs.get pair_id with
  | none =>
      refine refines_same refines fun e mem => ?_
      rw [Entry.cut, if_neg]
      rintro ⟨kept, own⟩
      obtain ⟨pair, forgotten⟩ := e
      have kept : forgotten = false := kept
      subst kept
      rw [(refines.pairs pair_id pair).mpr ⟨mem, own⟩] at found
      cases found
  | some pair =>
      obtain ⟨mem, own⟩ := (refines.pairs pair_id pair).mp found
      subst own
      have here : (⟨pair, false⟩ : Entry).cut now pair.pair_id = ⟨pair.cut now, false⟩ :=
        if_pos ⟨rfl, rfl⟩
      have others : ∀ e ∈ l, e ≠ ⟨pair, false⟩ → e.cut now pair.pair_id = e := by
        intro e e_mem differ
        rw [Entry.cut, if_neg]
        rintro ⟨_, own⟩
        exact differ (eq_of_pair_id refines.strings e_mem mem own)
      have same : (⟨pair, false⟩ : Entry).Same ⟨pair.cut now, false⟩ := ⟨rfl, rfl, rfl⟩
      refine refines_set refines mem same here others ?_
      rw [refines.events, List.map_map]
      refine List.map_congr_left fun e _ => ?_
      simp only [Function.comp_apply, Entry.decided, Entry.cut]
      split <;> rfl

theorem refines_expire {s : Store} {l : Ledger} (refines : Refines s l) (now : Time)
    (pair_ids : List String) : Refines (s.expire now pair_ids).1
      (l.map fun e => pair_ids.foldl (fun e p => e.cut now p) e) := by
  unfold Store.expire
  induction pair_ids generalizing s l with
  | nil => exact refines_same refines fun _ _ => rfl
  | cons p rest ih =>
      have more := ih (refines_expireOne refines now p)
      rw [List.map_map] at more
      exact more

/-! ### Runs -/

/-- An operation draws strings that are new to the ledger. -/
def DrawsNew (l : Ledger) (op : Op) : Prop :=
  op.drawn.Nodup ∧ ∀ e ∈ l, ∀ x ∈ op.drawn, x ∉ e.pair.strings

/-- **Every operation keeps the refinement.** -/
theorem refines_step {loads : String → Loads} {service service' : Service} {l : Ledger} {op : Op}
    {reply : Reply} (refines : Refines service.store l) (new : DrawsNew l op)
    (taken : step loads service op = some (service', reply)) :
    Refines service'.store (l.next loads op) := by
  cases op with
  | create purged created drawn body ttl_seconds =>
      obtain ⟨rfl, _⟩ := Prod.mk.inj (Option.some.inj taken)
      have count : l.length = (service.store.purge purged).events.length := by
        rw [Store.purge, refines.events, List.length_map]
      change Refines _ (l.map (Entry.purged purged) ++
        [⟨drawn.pair body ttl_seconds created l.length, false⟩])
      rw [count]
      refine refines_add (refines_purge refines) rfl rfl new.1 fun e mem x mine => ?_
      obtain ⟨e', mem', rfl⟩ := List.mem_map.mp mem
      exact new.2 e' mem' x mine
  | waitStart purged now pair_ids wait_seconds =>
      obtain ⟨rfl, _⟩ := Prod.mk.inj (Option.some.inj taken)
      change Refines _ (l.map (Entry.purged purged) ++ [])
      rw [List.append_nil]
      exact refines_purge refines
  | receive now token raw content_type =>
      obtain ⟨rfl, _⟩ := Prod.mk.inj (Option.some.inj taken)
      change Refines _ (l.map (Entry.received loads now token raw content_type) ++ [])
      rw [List.append_nil]
      exact refines_receive refines
  | expire now pair_ids =>
      obtain ⟨rfl, _⟩ := Prod.mk.inj (Option.some.inj taken)
      change Refines _ (l.map (fun e => pair_ids.foldl (fun e p => e.cut now p) e) ++ [])
      rw [List.append_nil]
      exact refines_expire refines now pair_ids
  | getBody now token =>
      obtain ⟨rfl, _⟩ := Prod.mk.inj (Option.some.inj taken)
      change Refines _ (l.map (fun e => e) ++ [])
      rw [List.append_nil, List.map_id']
      exact refines
  | status now pair_id =>
      obtain ⟨rfl, _⟩ := Prod.mk.inj (Option.some.inj taken)
      change Refines _ (l.map (fun e => e) ++ [])
      rw [List.append_nil, List.map_id']
      exact refines
  | waitEnd wait readings timed_out =>
      obtain ⟨_, _, _, _, rfl, _⟩ := step_waitEnd taken
      change Refines _ (l.map (fun e => e) ++ [])
      rw [List.append_nil, List.map_id']
      exact refines

/-- The strings of a ledger are the ones that were drawn. -/
theorem strings_ledger (loads : String → Loads) (ops : List Op) :
    (ledger loads ops).flatMap (fun e => e.pair.strings) = ops.flatMap Op.drawn := by
  induction ops using List.reverseRecOn with
  | nil => rfl
  | append_singleton before op ih =>
      have acted : ((ledger loads before).map fun e => e.act loads op).flatMap
          (fun e => e.pair.strings) = (ledger loads before).flatMap fun e => e.pair.strings := by
        rw [List.flatMap_map]
        exact List.flatMap_congr fun e _ => e.strings_act loads op
      have opened : (op.opened (ledger loads before).length).flatMap (fun e => e.pair.strings) =
          op.drawn := by
        cases op <;> rfl
      rw [ledger, List.foldl_append, List.foldl_cons, List.foldl_nil, ← ledger, Ledger.next,
        List.flatMap_append, acted, opened, ih, List.flatMap_append, List.flatMap_singleton]

theorem drawsNew_of_fresh {loads : String → Loads} {before after : List Op} {op : Op}
    (fresh : Fresh (before ++ op :: after)) : DrawsNew (ledger loads before) op := by
  unfold Fresh at fresh
  rw [List.flatMap_append, List.flatMap_cons, List.nodup_append, List.nodup_append] at fresh
  obtain ⟨_, ⟨own, _, _⟩, apart⟩ := fresh
  refine ⟨own, fun e mem x mine old => ?_⟩
  have drawn : x ∈ before.flatMap Op.drawn := by
    rw [← strings_ledger loads]
    exact List.mem_flatMap.mpr ⟨e, mem, old⟩
  exact apart x drawn x (List.mem_append_left _ mine) rfl

/-- **After every run with fresh strings the store refines the ledger.** -/
theorem refines_run {loads : String → Loads} {trace : List (Op × Reply)} {service : Service}
    (run : Run (step loads) .empty trace service) (fresh : Fresh (trace.map Prod.fst)) :
    Refines service.store (ledger loads (trace.map Prod.fst)) :=
  run.simulates (Ledger.next loads) (fun service l => Refines service.store l) DrawsNew
    (fun _ _ _ _ _ refines new taken => refines_step refines new taken)
    refines_empty fun _ _ _ split => drawsNew_of_fresh (split ▸ fresh)

/-! ### Histories of entries -/

theorem mem_foldl_next {loads : String → Loads} {l : Ledger} {e : Entry} (mem : e ∈ l)
    (after : List Op) :
    after.foldl (Entry.act loads) e ∈ after.foldl (Ledger.next loads) l := by
  induction after generalizing l e with
  | nil => exact mem
  | cons op rest ih =>
      exact ih (List.mem_append_left _ (List.mem_map.mpr ⟨e, mem, rfl⟩))

/-- An entry of a ledger, followed through what came after. -/
theorem mem_ledger_append {loads : String → Loads} {ops : List Op} {e : Entry}
    (mem : e ∈ ledger loads ops) (after : List Op) :
    after.foldl (Entry.act loads) e ∈ ledger loads (ops ++ after) := by
  rw [ledger, List.foldl_append]
  exact mem_foldl_next mem after

/-- The entry of a `create`, followed through what came after it. -/
def entryAfter (loads : String → Loads) (before : List Op) (created : Time) (drawn : Drawn)
    (body : String) (ttl_seconds : Int) (after : List Op) : Entry :=
  after.foldl (Entry.act loads)
    ⟨drawn.pair body ttl_seconds created (ledger loads before).length, false⟩

theorem entryAfter_mem (loads : String → Loads) (before : List Op) (purged created : Time)
    (drawn : Drawn) (body : String) (ttl_seconds : Int) (after : List Op) :
    entryAfter loads before created drawn body ttl_seconds after ∈
      ledger loads (before ++ .create purged created drawn body ttl_seconds :: after) := by
  rw [ledger, List.foldl_append, List.foldl_cons, ← ledger]
  exact mem_foldl_next (List.mem_append_right _ List.mem_cons_self) after

/-- The entries of a ledger are those of the `create`s, each followed through
what came after. -/
theorem mem_ledger {loads : String → Loads} {ops : List Op} {e : Entry}
    (mem : e ∈ ledger loads ops) :
    ∃ before purged created drawn body ttl_seconds after,
      ops = before ++ .create purged created drawn body ttl_seconds :: after ∧
        e = entryAfter loads before created drawn body ttl_seconds after := by
  induction ops using List.reverseRecOn generalizing e with
  | nil => cases mem
  | append_singleton ops op ih =>
      rw [ledger, List.foldl_append, List.foldl_cons, List.foldl_nil, ← ledger] at mem
      rcases List.mem_append.mp mem with acted | opened
      · obtain ⟨e', mem', rfl⟩ := List.mem_map.mp acted
        obtain ⟨before, purged, created, drawn, body, ttl_seconds, after, rfl, rfl⟩ := ih mem'
        refine ⟨before, purged, created, drawn, body, ttl_seconds, after ++ [op], ?_, ?_⟩
        · rw [List.append_assoc, List.cons_append]
        · rw [entryAfter, entryAfter, List.foldl_append]
          rfl
      · cases op with
        | create purged created drawn body ttl_seconds =>
            exact ⟨ops, purged, created, drawn, body, ttl_seconds, [], rfl,
              List.mem_singleton.mp opened⟩
        | _ => cases opened

theorem Entry.same_foldl (e : Entry) (loads : String → Loads) (after : List Op) :
    e.Same (after.foldl (Entry.act loads) e) := by
  induction after generalizing e with
  | nil => exact .refl e
  | cons op rest ih => exact (e.same_act loads op).trans (ih _)

end NinjaOne
