import NinjaOne.Callbacks.Route

/-!
What a POST to a live URL leaves behind.

`receive` decodes the bytes with replacement characters and then asks
`json.loads` about the text. A POST is recorded unless that raises something
other than `ValueError` (`recorded_iff`, `deepBody_unrecorded`). And a body that is
not UTF-8 can still decode to JSON: it is reported as received although it is
not what was sent (`received_intact_iff`, `latinBody_altered`).
-/

namespace NinjaOne

/-- Whether the text is JSON, and not too deep. -/
def Parses (loads : String → Loads) (text : String) : Prop := ∃ data, loads text = .value data

/-! ### Bodies that raise -/

/-- The POST was accepted, and the pair now holds it: its status, its text, its
content type, and its event. -/
structure Recorded (loads : String → Loads) (s : Store) (now : Time) (token : String)
    (raw : List UInt8) (content_type : Option String) (pair : Pair) : Prop where
  accepted : (s.receive loads now token raw content_type).2 = .returned true
  posted : ∃ posted,
    (s.receive loads now token raw content_type).1.pairs.get pair.pair_id = some posted ∧
      (posted.status = .received ∧ Parses loads (Utf8.decodeReplace raw) ∨
        posted.status = .malformed ∧ ¬ Parses loads (Utf8.decodeReplace raw)) ∧
      posted.received_body = some (Utf8.decodeReplace raw) ∧
      posted.received_content_type = content_type ∧
      (s.receive loads now token raw content_type).1.events[posted.done]? = some true

/-- What always holds of the store holds after every run. -/
theorem sound_of_run {loads : String → Loads} {trace : List (Op × Reply)} {service : Service}
    (run : Run (step loads) .empty trace service) : service.store.Sound :=
  Run.induction (P := fun _ service => service.store.Sound) Store.Sound.empty
    (fun _ _ _ _ _ _ sound taken => sound.step taken) run

theorem Loads.status_received_iff {loads : String → Loads} {text : String} {status : PairStatus}
    (parsed : (loads text).status = some status) :
    status = .received ∧ Parses loads text ∨ status = .malformed ∧ ¬ Parses loads text := by
  unfold Parses
  cases loaded : loads text with
  | value data =>
      rw [loaded] at parsed
      cases parsed
      exact Or.inl ⟨rfl, data, rfl⟩
  | valueError =>
      rw [loaded] at parsed
      cases parsed
      refine Or.inr ⟨rfl, ?_⟩
      rintro ⟨data, value⟩
      cases value
  | recursionError =>
      rw [loaded] at parsed
      cases parsed

section Live

variable {loads : String → Loads} {trace : List (Op × Reply)} {service : Service} {now : Time}
  {token : String} {raw : List UInt8} {content_type : Option String} {pair : Pair}

/-- The store after an accepted POST. -/
theorem receive_posted (live : service.store.livePairFor now token .post = some pair)
    (parses : loads (Utf8.decodeReplace raw) ≠ .recursionError) :
    ∃ status, (loads (Utf8.decodeReplace raw)).status = some status ∧
      (service.store.receive loads now token raw content_type).2 = .returned true ∧
      (service.store.receive loads now token raw content_type).1.pairs.get pair.pair_id =
        some (pair.withResult status (Utf8.decodeReplace raw) content_type) ∧
      (service.store.receive loads now token raw content_type).1.events =
        service.store.events.set pair.done true := by
  obtain ⟨recorded, records, accepted⟩ :=
    @receive_accepted loads _ _ _ _ content_type _ live parses
  obtain ⟨status, parsed, rfl⟩ := Pair.record_iff.mp records
  rw [accepted]
  exact ⟨status, parsed, rfl, by rw [Dict.get_set, if_pos rfl], rfl⟩

variable (run : Run (step loads) .empty trace service)
  (live : service.store.livePairFor now token .post = some pair)

include run live

theorem recorded_of_loads (parses : loads (Utf8.decodeReplace raw) ≠ .recursionError) :
    Recorded loads service.store now token raw content_type pair := by
  have sound := sound_of_run run
  obtain ⟨status, parsed, accepted, held, events⟩ :=
    @receive_posted loads _ _ _ _ content_type _ live parses
  refine ⟨accepted, _, held, Loads.status_received_iff parsed, rfl, rfl, ?_⟩
  rw [events]
  exact List.getElem?_set_self (sound.bounded _ _ (sound.livePair live))

/-- **A POST to a live URL is recorded** unless its body makes `json.loads` raise
`RecursionError`. -/
theorem recorded_iff : Recorded loads service.store now token raw content_type pair ↔
    loads (Utf8.decodeReplace raw) ≠ .recursionError := by
  constructor
  · intro recorded raises
    have accepted := recorded.accepted
    rw [receive_raised live raises] at accepted
    cases accepted
  · exact recorded_of_loads run live

end Live

/-- A POST of `ok` to the one pair. -/
theorem okBody_recorded :
    Recorded (fun _ => .valueError) onePairService.store 1 "t" [0x6F, 0x6B] none createdPair ↔
      Loads.valueError ≠ .recursionError :=
  recorded_iff (onePair_run fun _ => .valueError) (onePair_live (by norm_num))

/-- A POST of 100000 brackets leaves its pair without a result. -/
theorem deepBody_unrecorded : ¬ ∀ (loads : String → Loads) (trace : List (Op × Reply))
    (service : Service), Run (step loads) .empty trace service →
    ∀ now token raw content_type pair, service.store.livePairFor now token .post = some pair →
      Recorded loads service.store now token raw content_type pair := by
  intro all
  have live := onePair_live (by norm_num : (1 : Time) < 600)
  have recorded := all shallowLoads _ _ (onePair_run _) 1 "t" (List.replicate 100000 0x5B) none _
    live
  have accepted := recorded.accepted
  rw [receive_raised live (shallowLoads_brackets (by decide))] at accepted
  cases accepted

/-! ### Bytes that are not UTF-8 -/

/-- If the POST is classified as received, what is stored is what was sent. -/
def ReceivedIntact (loads : String → Loads) (s : Store) (now : Time) (token : String)
    (raw : List UInt8) (content_type : Option String) (pair : Pair) : Prop :=
  (s.receive loads now token raw content_type).2 = .returned true →
    ∀ posted,
      (s.receive loads now token raw content_type).1.pairs.get pair.pair_id = some posted →
        posted.status = .received →
          ∃ body, posted.received_body = some body ∧ Utf8.encode body = raw

section Live

variable {loads : String → Loads} {trace : List (Op × Reply)} {service : Service} {now : Time}
  {token : String} {raw : List UInt8} {content_type : Option String} {pair : Pair}
  (run : Run (step loads) .empty trace service)
  (live : service.store.livePairFor now token .post = some pair)

include run live

/-- **A result reported as received is what was sent** exactly when the body was
UTF-8, or does not read as JSON. -/
theorem received_intact_iff : ReceivedIntact loads service.store now token raw content_type pair ↔
    Utf8.Valid raw ∨ ¬ Parses loads (Utf8.decodeReplace raw) := by
  constructor
  · intro intact
    by_cases parses : Parses loads (Utf8.decodeReplace raw)
    · obtain ⟨data, value⟩ := parses
      have spared : loads (Utf8.decodeReplace raw) ≠ .recursionError := by
        rw [value]
        nofun
      obtain ⟨status, parsed, accepted, held, _⟩ :=
        @receive_posted loads _ _ _ _ content_type _ live spared
      have received : some PairStatus.received = some status := by
        rw [← parsed, value]
        rfl
      obtain ⟨body, stored, same⟩ := intact accepted _ held (Option.some.inj received).symm
      have text : Utf8.decodeReplace raw = body := Option.some.inj stored
      exact Or.inl (Utf8.encode_decode_iff.mp (text.symm ▸ same))
    · exact Or.inr parses
  · intro spared accepted posted held received
    have recorded : Recorded loads service.store now token raw content_type pair := by
      refine recorded_of_loads run live fun raises => ?_
      rw [receive_raised live raises] at accepted
      cases accepted
    obtain ⟨posted', held', kind, stored, _⟩ := recorded.posted
    have same : posted = posted' := Option.some.inj (held.symm.trans held')
    subst same
    refine ⟨_, stored, Utf8.encode_decode_iff.mpr ?_⟩
    rcases kind with ⟨_, parses⟩ | ⟨malformed, _⟩
    · exact spared.resolve_right fun unread => unread parses
    · rw [malformed] at received
      cases received

end Live

/-- A POST of `ok` is not reported as received. -/
theorem okBody_intact :
    ReceivedIntact (fun _ => .valueError) onePairService.store 1 "t" [0x6F, 0x6B] none createdPair ↔
      Utf8.Valid [0x6F, 0x6B] ∨ ¬ Parses (fun _ => .valueError) (Utf8.decodeReplace [0x6F, 0x6B]) :=
  received_intact_iff (onePair_run fun _ => .valueError) (onePair_live (by norm_num))

/-- A parser for one text, a string of one replacement character. -/
def replacedLoads (text : String) : Loads :=
  if text = "\"\uFFFD\"" then .value (.str "\uFFFD") else .valueError

/-- `"é"` in Latin-1 is reported as received, and is not what was sent. -/
theorem latinBody_altered : ¬ ∀ (loads : String → Loads) (trace : List (Op × Reply))
    (service : Service), Run (step loads) .empty trace service →
    ∀ now token raw content_type pair, service.store.livePairFor now token .post = some pair →
      ReceivedIntact loads service.store now token raw content_type pair := by
  intro all
  have live := onePair_live (by norm_num : (1 : Time) < 600)
  have text : Utf8.decodeReplace [0x22, 0xE9, 0x22] = "\"\uFFFD\"" := by decide
  have value : replacedLoads (Utf8.decodeReplace [0x22, 0xE9, 0x22]) = .value (.str "\uFFFD") := by
    rw [replacedLoads, if_pos text]
  have spared : replacedLoads (Utf8.decodeReplace [0x22, 0xE9, 0x22]) ≠ .recursionError := by
    rw [value]
    nofun
  have altered : Utf8.encode (Utf8.decodeReplace [0x22, 0xE9, 0x22]) ≠ [0x22, 0xE9, 0x22] := by
    decide
  have intact := all replacedLoads _ _ (onePair_run _) 1 "t" [0x22, 0xE9, 0x22] none _ live
  obtain ⟨status, parsed, accepted, held, _⟩ :=
    @receive_posted replacedLoads onePairService 1 "t" [0x22, 0xE9, 0x22] none _ live spared
  rw [value] at parsed
  cases parsed
  obtain ⟨body, stored, same⟩ := intact accepted _ held rfl
  cases stored
  exact altered same

end NinjaOne
