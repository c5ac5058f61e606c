import NinjaOne.Callbacks.Capability
import NinjaOne.Tools.Callbacks

/-!
What a waiting agent is told.

A `wait` ends with one status for each id it started with, whatever happened in
between (`waited_statuses`). The tool writes them into one list and caps the
answer, and the cap keeps a prefix of the list: every pair asked about is
answered for exactly when all the entries fit together, `wait_answers_all_iff`.
One large body takes other pairs' statuses, or its own, with it:
`largeBody_unanswered`.
-/

namespace NinjaOne

/-! ### A wait over a run -/

/-- The wait at `wait` is this call, or has ended. -/
def Tracks (service : Service) (wait : Nat) (call : Wait) : Prop :=
  service.waits[wait]? = some (some call) ∨ service.waits[wait]? = some none

theorem Tracks.snoc {service : Service} {wait : Nat} {call : Wait} (tracks : Tracks service wait call)
    (store : Store) (more : Option Wait) :
    Tracks { store := store, waits := service.waits ++ [more] } wait call := by
  have bound : wait < service.waits.length := by
    rcases tracks with here | ended
    · exact (List.getElem?_eq_some_iff.mp here).1
    · exact (List.getElem?_eq_some_iff.mp ended).1
  unfold Tracks
  rw [List.getElem?_append_left bound]
  exact tracks

theorem tracks_step {loads : String → Loads} {service service' : Service} {wait : Nat} {call : Wait}
    {op : Op} {reply : Reply} (tracks : Tracks service wait call)
    (taken : step loads service op = some (service', reply)) : Tracks service' wait call := by
  cases op with
  | waitStart purged now pair_ids wait_seconds =>
      obtain ⟨rfl, _⟩ := Prod.mk.inj (Option.some.inj taken)
      exact tracks.snoc _ _
  | waitEnd ended readings timed_out =>
      obtain ⟨call', found, _, _, rfl, _⟩ := step_waitEnd taken
      unfold Tracks
      rw [List.getElem?_set]
      split
      · rename_i same
        subst same
        rw [if_pos (List.getElem?_eq_some_iff.mp found).1]
        exact Or.inr rfl
      · exact tracks
  | _ =>
      obtain ⟨rfl, _⟩ := Prod.mk.inj (Option.some.inj taken)
      exact tracks

theorem tracks_run {loads : String → Loads} {trace : List (Op × Reply)} {service service' : Service}
    {wait : Nat} {call : Wait} (tracks : Tracks service wait call)
    (run : Run (step loads) service trace service') : Tracks service' wait call :=
  Run.induction (P := fun _ service => Tracks service wait call) tracks
    (fun _ _ _ _ _ _ tracks taken => tracks_step tracks taken) run

/-- Different ids are answered in order, one for one. -/
theorem statuses_eq {s : Store} {ids : List String} (nodup : ids.Nodup) {readings : List Time}
    (length : readings.length = ids.length) :
    s.statuses ids readings = (ids.zip readings).map fun (p, now) => (p, s.status now p) := by
  have keys : ((ids.zip readings).map fun (p, now) => (p, s.status now p)).map Prod.fst = ids := by
    rw [List.map_map]
    exact List.map_fst_zip (Nat.le_of_eq length.symm)
  have appended := @Dict.foldl_assign_of_nodup _ _ _ [] _ (keys.symm ▸ nodup)
    fun _ _ => List.not_mem_nil
  rw [List.foldl_map] at appended
  exact appended

/-- A wait still open is the call it started as. -/
theorem call_of_open {loads : String → Loads} {service started service' : Service}
    {purged now wait_seconds : Time} {ids : List String} {wait : Nat} {mid : List (Op × Reply)}
    {call : Wait}
    (starts : step loads service (.waitStart purged now ids wait_seconds) =
      some (started, .waiting wait))
    (run : Run (step loads) started mid service')
    (found : service'.waits[wait]? = some (some call)) :
    call = ⟨ids, wait_seconds, started.store.waiting now ids⟩ := by
  obtain ⟨rfl, reply⟩ := Prod.mk.inj (Option.some.inj starts)
  obtain rfl : service.waits.length = wait := Reply.waiting.inj reply
  have tracks := tracks_run (Or.inl List.getElem?_concat_length) run
  rcases tracks with here | ended
  · rw [found, Option.some.injEq, Option.some.injEq] at here
    exact here
  · rw [found] at ended
    cases ended

/-- **A wait is answered for the ids it started with**, from the store at its end. -/
theorem waited_statuses {loads : String → Loads} {service started service' service'' : Service}
    {purged now wait_seconds : Time} {ids : List String} {wait : Nat} {mid : List (Op × Reply)}
    {readings : List Time} {timed_out : Bool} {results : List (String × StatusReply)}
    (starts : step loads service (.waitStart purged now ids wait_seconds) =
      some (started, .waiting wait))
    (run : Run (step loads) started mid service')
    (ends : step loads service' (.waitEnd wait readings timed_out) =
      some (service'', .waited results)) :
    readings.length = ids.length ∧ results = service'.store.statuses ids readings := by
  obtain ⟨call, found, _, length, _, reply⟩ := step_waitEnd ends
  obtain rfl := call_of_open starts run found
  exact ⟨length, Reply.waited.inj reply⟩

/-! ### The answer -/

/-- Whether an entry of `results` is about `p`. -/
def entryFor (p : String) (entry : Json) : Bool :=
  match entry.field "pair_id" with
  | .str q => q = p
  | _ => false

/-- For each requested id the answer has exactly one entry, with the status the
store has for it at the end of the wait. -/
def AnswersAll (s : Store) (pair_ids : List String) (readings : List Time) (answer : Answer) :
    Prop :=
  ∃ entries, answer.value.field "results" = .arr entries ∧
    ∀ p ∈ pair_ids, ∃ now, (p, now) ∈ (fromKeys pair_ids).zip readings ∧
      entries.filter (entryFor p) = [resultEntry p (s.status now p)]

/-- How long the untruncated answer is: the entries, the commas between them and
`{"results":[]}`. -/
def entriesLength (s : Store) (ids : List String) (readings : List Time) : Nat :=
  ((ids.zip readings).map fun (p, now) => size (resultEntry p (s.status now p))).sum +
    (ids.length - 1) + 14

theorem entryFor_resultEntry (p q : String) (r : StatusReply) :
    entryFor p (resultEntry q r) = decide (q = p) := rfl

theorem filter_resultEntries (p : String) (results : List (String × StatusReply)) :
    (resultEntries results).filter (entryFor p) =
      resultEntries (results.filter fun result => result.1 = p) := by
  have same : (entryFor p ∘ fun result : String × StatusReply => resultEntry result.1 result.2) =
      fun result => decide (result.1 = p) :=
    funext fun result => entryFor_resultEntry p result.1 result.2
  rw [resultEntries, List.filter_map, same]
  rfl

theorem field_waitAnswer (results : List (String × StatusReply)) :
    (waitAnswer results).value.field "results" = .arr ((resultEntries results).take
      (keptCount [("results", .arr (resultEntries results))] "results" (resultEntries results)
        MAX_CHARS)) :=
  field_capped_key rfl rfl (by decide)

/-- The cap removes no entry exactly when they fit. -/
theorem take_entries_iff (results : List (String × StatusReply)) :
    (resultEntries results).take (keptCount [("results", .arr (resultEntries results))] "results"
      (resultEntries results) MAX_CHARS) = resultEntries results ↔
      resultEntries results = [] ∨
        size (.obj [("results", .arr (resultEntries results))]) ≤ MAX_CHARS := by
  rw [← Int.ofNat_le]
  exact take_keptCount_eq_iff (by simp [markers]) rfl

theorem size_results (entries : List Json) : size (.obj [("results", .arr entries)]) =
    (entries.map size).sum + (entries.length - 1) + 14 := by
  have key : (quote "results").length = 9 := by decide
  rw [size_obj, List.map_singleton, List.sum_singleton, memberSize, key, size_arr]
  simp only [List.length_singleton]
  omega

section Answered

variable {s : Store} {pair_ids : List String} {readings : List Time}

/-- If every id has its entry in the answer, none has been cut off. -/
theorem take_of_answersAll {results : List (String × StatusReply)}
    (keys : results.map Prod.fst = fromKeys pair_ids)
    (all : AnswersAll s pair_ids readings (waitAnswer results)) :
    (resultEntries results).take (keptCount [("results", .arr (resultEntries results))] "results"
      (resultEntries results) MAX_CHARS) = resultEntries results := by
  obtain ⟨entries, field, once⟩ := all
  rw [field_waitAnswer] at field
  have shown := Json.arr.inj field
  generalize keptCount _ _ _ _ = k at shown ⊢
  have covered : fromKeys pair_ids ⊆ (fromKeys pair_ids).take k := by
    intro p asked
    obtain ⟨now, _, single⟩ := once p (mem_fromKeys.mp asked)
    rw [← shown, resultEntries, ← List.map_take, ← resultEntries, filter_resultEntries] at single
    have some_result : (results.take k).filter (fun result => result.1 = p) ≠ [] := by
      intro none
      rw [none] at single
      cases single
    obtain ⟨result, mem⟩ := List.exists_mem_of_ne_nil _ some_result
    obtain ⟨mem, same⟩ := List.mem_filter.mp mem
    rw [← keys, ← List.map_take]
    exact List.mem_map.mpr ⟨result, mem, of_decide_eq_true same⟩
  have count := ((nodup_fromKeys pair_ids).subperm covered).length_le
  rw [List.length_take, ← keys, List.length_map] at count
  refine List.take_of_length_le ?_
  rw [resultEntries, List.length_map]
  exact le_trans count (Nat.min_le_left _ _)

theorem answersAll_of_take {results : List (String × StatusReply)}
    (eq : results = ((fromKeys pair_ids).zip readings).map fun (p, now) => (p, s.status now p))
    (keys : results.map Prod.fst = fromKeys pair_ids)
    (uncut : (resultEntries results).take (keptCount [("results", .arr (resultEntries results))]
      "results" (resultEntries results) MAX_CHARS) = resultEntries results) :
    AnswersAll s pair_ids readings (waitAnswer results) := by
  refine ⟨resultEntries results, by rw [field_waitAnswer, uncut], fun p asked => ?_⟩
  have listed : p ∈ results.map Prod.fst := keys ▸ mem_fromKeys.mpr asked
  obtain ⟨result, mem, rfl⟩ := List.mem_map.mp listed
  have single := Dict.filter_key (keys ▸ nodup_fromKeys pair_ids) mem
  rw [eq] at mem
  obtain ⟨⟨p, now⟩, read, rfl⟩ := List.mem_map.mp mem
  exact ⟨now, read, by rw [filter_resultEntries, single]; rfl⟩

/-- The answer to a wait is complete exactly when its entries fit together. -/
theorem answersAll_iff (length : readings.length = (fromKeys pair_ids).length) :
    AnswersAll s pair_ids readings (waitAnswer (s.statuses (fromKeys pair_ids) readings)) ↔
      entriesLength s (fromKeys pair_ids) readings ≤ MAX_CHARS := by
  have eq := statuses_eq (s := s) (nodup_fromKeys pair_ids) length
  have keys : (s.statuses (fromKeys pair_ids) readings).map Prod.fst = fromKeys pair_ids := by
    rw [eq, List.map_map]
    exact List.map_fst_zip (Nat.le_of_eq length.symm)
  have whole : size (.obj [("results", .arr (resultEntries
      (s.statuses (fromKeys pair_ids) readings)))]) =
        entriesLength s (fromKeys pair_ids) readings := by
    rw [size_results, resultEntries, List.length_map, ← List.length_map Prod.fst, keys, eq,
      List.map_map, List.map_map]
    rfl
  rw [← whole]
  constructor
  · intro all
    rcases (take_entries_iff _).mp (take_of_answersAll keys all) with none | fits
    · rw [none]
      decide
    · exact fits
  · exact fun fits => answersAll_of_take eq keys ((take_entries_iff _).mpr (Or.inr fits))

end Answered

/-- **A wait answers for every pair asked about** exactly when the entries of all
of them fit into one answer. -/
theorem wait_answers_all_iff {loads : String → Loads} {before mid : List (Op × Reply)}
    {service service' : Service} {purged now : Time} {pair_ids : List String} {wait_seconds : Int}
    {wait : Nat} {readings : List Time} {timed_out : Bool} {results : List (String × StatusReply)}
    (run : Run (step loads) .empty
      (before ++ (waitCall purged now pair_ids wait_seconds, .waiting wait) :: mid) service)
    (ends : step loads service (.waitEnd wait readings timed_out) =
      some (service', .waited results)) (few : (fromKeys pair_ids).length ≤ 50) :
    AnswersAll service.store pair_ids readings (waitAnswer results) ↔
      entriesLength service.store (fromKeys pair_ids) readings ≤ MAX_CHARS := by
  obtain ⟨asked, _, rest⟩ := run.split
  cases rest with
  | cons starts rest =>
      have ids : waitIds pair_ids = fromKeys pair_ids := List.take_of_length_le few
      rw [waitCall, ids] at starts
      obtain ⟨length, rfl⟩ := waited_statuses starts rest ends
      exact answersAll_iff length

/-- One pair, asked about twice in one call. -/
theorem onePair_waited :
    AnswersAll (onePairService.store.purge 2) ["p", "p"] [3]
      (waitAnswer ((onePairService.store.purge 2).statuses (waitIds ["p", "p"]) [3])) ↔
        entriesLength (onePairService.store.purge 2) (fromKeys ["p", "p"]) [3] ≤ MAX_CHARS :=
  wait_answers_all_iff (Run.snoc_iff.mpr ⟨_, onePair_run fun _ => .valueError,
    (rfl : step _ onePairService (waitCall 2 2 ["p", "p"] 0) = some (_, .waiting 0))⟩)
    (rfl : step _ _ (.waitEnd 0 [3] true) = some (_, .waited _)) (by decide)

/-! ### A large body -/

/-- An answer is longer than any body in it. -/
theorem entriesLength_of_body {s : Store} {ids : List String} {readings : List Time} {p : String}
    {now : Time} (asked : (p, now) ∈ ids.zip readings) {body : String}
    (shown : ("body", .str body) ∈ (s.status now p).fields) :
    body.length < entriesLength s ids readings := by
  have text := length_lt_size_str body
  have value : size (.str body) < size (resultEntry p (s.status now p)) :=
    size_le_size_obj (List.mem_cons_of_mem _ shown)
  have entry : size (resultEntry p (s.status now p)) ≤
      ((ids.zip readings).map fun (p, now) => size (resultEntry p (s.status now p))).sum :=
    List.le_sum_of_mem (List.mem_map.mpr ⟨(p, now), asked, rfl⟩)
  unfold entriesLength
  omega

/-- The pair with a body of 20000 letters posted to it, which are not JSON. -/
def largePair : Pair :=
  createdPair.withResult .malformed (Utf8.decodeReplace (List.replicate 20000 0x61)) none

theorem largePair_text : (Utf8.decodeReplace (List.replicate 20000 0x61)).length = 20000 := by
  have ascii : ∀ b ∈ List.replicate 20000 (0x61 : UInt8), b.toNat < 0x80 := by
    intro b mem
    rw [List.eq_of_mem_replicate mem]
    decide
  rw [← String.length_toList, Utf8.toList_decodeReplace ascii, List.length_map,
    List.length_replicate]

/-- The body of one pair takes its own status out of the answer. -/
theorem largeBody_unanswered : ¬ ∀ (loads : String → Loads) (before mid : List (Op × Reply))
    (service service' : Service) (purged now : Time) (pair_ids : List String) (wait_seconds : Int)
    (wait : Nat) (readings : List Time) (timed_out : Bool) (results : List (String × StatusReply)),
    Run (step loads) .empty
      (before ++ (waitCall purged now pair_ids wait_seconds, .waiting wait) :: mid) service →
    step loads service (.waitEnd wait readings timed_out) = some (service', .waited results) →
    (fromKeys pair_ids).length ≤ 50 →
    AnswersAll service.store pair_ids readings (waitAnswer results) := by
  intro all
  have records : createdPair.record (fun _ => .valueError) (List.replicate 20000 0x61) none =
      some largePair := rfl
  have run := Run.snoc_iff.mpr ⟨_, onePair_post_run (by norm_num : (1 : Time) < 600) records,
    (rfl : step _ (onePairWith largePair) (waitCall 2 2 ["p"] 0) = some (_, .waiting 0))⟩
  have answered := all _ _ [] _ _ 2 2 ["p"] 0 0 [3] true _ run rfl (by decide)
  change AnswersAll ((onePairWith largePair).store.purge 2) ["p"] [3]
    (waitAnswer (Store.statuses _ (fromKeys ["p"]) [3])) at answered
  rw [answersAll_iff (by decide)] at answered
  have kept : largePair.stale 2 = false :=
    Pair.not_stale (le_refl 2) (lt_of_lt_of_eq (by norm_num) createdPair_deadline.symm)
  have held : ((onePairWith largePair).store.purge 2).pairs.get "p" = some largePair :=
    purge_pairs.mpr ⟨rfl, kept⟩
  have shown : ("body", .str (Utf8.decodeReplace (List.replicate 20000 0x61))) ∈
      (((onePairWith largePair).store.purge 2).status 3 "p").fields := by
    rw [Store.status, held]
    exact List.mem_cons_of_mem _ (List.mem_cons_of_mem _ List.mem_cons_self)
  have asked : ("p", (3 : Time)) ∈ (fromKeys ["p"]).zip [3] := List.mem_cons_self
  have tooLong := entriesLength_of_body asked shown
  rw [largePair_text] at tooLong
  exact absurd answered (not_le.mpr tooLong)

end NinjaOne
