import NinjaOne.ApiRequest
import NinjaOne.Attempts
import NinjaOne.JsonReader

/-!
What a caller reads in an answer.

Tools cut, filter and wrap what the upstream sends. None of this leaves the
values that JSON has a text for (`answer_genuine`), so that the text of every
answer is read back to the value the tool made: `ApiTool.answer_reads_back`.
-/

namespace NinjaOne

open JsonReader

variable {readFloat : String → Option PyFloat}

/-! ### Parts of values -/

section Parts

variable {items : List Json} {fields : List (String × Json)} {key : String} {value : Json}

theorem genuine_take (genuine : ∀ x ∈ items, Genuine readFloat x) (k : Nat) :
    Genuine readFloat (.arr (items.take k)) :=
  .arr fun x mem => genuine x (List.mem_of_mem_take mem)

theorem genuine_setField (genuine : Genuine readFloat (.obj fields))
    (own : Genuine readFloat value) : Genuine readFloat (.obj (setField key value fields)) := by
  cases genuine with
  | obj nodup all =>
      refine .obj (Dict.nodup_keys_assign nodup) fun field mem => ?_
      rcases Dict.mem_assign mem with rfl | old
      · exact own
      · exact all field old

theorem genuine_nil : Genuine readFloat (.obj []) :=
  .obj List.nodup_nil fun _ mem => absurd mem List.not_mem_nil

theorem genuine_cons (fresh : key ∉ fields.map Prod.fst) (own : Genuine readFloat value)
    (genuine : Genuine readFloat (.obj fields)) :
    Genuine readFloat (.obj ((key, value) :: fields)) := by
  cases genuine with
  | obj nodup all =>
      exact .obj (List.nodup_cons.mpr ⟨fresh, nodup⟩) (List.forall_mem_cons.mpr ⟨own, all⟩)

theorem genuine_singleton (genuine : Genuine readFloat value) :
    Genuine readFloat (.obj [(key, value)]) :=
  genuine_cons List.not_mem_nil genuine genuine_nil

theorem genuine_getField (genuine : Genuine readFloat (.obj fields)) (key : String) :
    Genuine readFloat (getField fields key) := by
  cases genuine with
  | obj nodup all =>
      cases found : fields.lookup key with
      | none => rw [getField, found]; exact .null
      | some value =>
          have mem := (Dict.get_eq_some_iff (d := ⟨fields, nodup⟩)).mp found
          rw [getField, found]
          exact all _ mem

theorem genuine_orElse {x y : Json} (first : Genuine readFloat x) (second : Genuine readFloat y) :
    Genuine readFloat (x.orElse y) := by
  unfold Json.orElse
  split
  · exact first
  · exact second

end Parts

/-! ### What the serialiser leaves -/

theorem genuine_tooLarge (length : Nat) : Genuine readFloat (tooLarge length) :=
  genuine_cons (by simp) (.bool _) (genuine_singleton (.str _))

theorem genuine_wrappedItems {items : List Json} (genuine : ∀ x ∈ items, Genuine readFloat x)
    (k : Nat) : Genuine readFloat (wrappedItems "items" items k) :=
  genuine_cons (by simp) (genuine_take genuine k)
    (genuine_cons (by simp) (.bool _) (genuine_singleton (.int _)))

theorem genuine_listAt {fields : List (String × Json)} (genuine : Genuine readFloat (.obj fields))
    (key : String) : ∀ x ∈ listAt fields key, Genuine readFloat x := by
  have own := genuine_getField genuine key
  unfold listAt
  split
  · rename_i items found
    rw [found] at own
    cases own with
    | arr all => exact all
  · exact fun _ mem => absurd mem List.not_mem_nil

theorem genuine_dumpJsonCapped {data : Json} (genuine : Genuine readFloat data)
    (max_chars : Int) : Genuine readFloat (dumpJsonCapped data max_chars).value := by
  unfold dumpJsonCapped
  dsimp only
  split
  · exact genuine
  · split
    · cases genuine with
      | arr all => exact genuine_wrappedItems all _
    · split
      · exact genuine_setField (genuine_setField (genuine_setField (genuine_setField genuine
          (genuine_take (genuine_listAt genuine _) _)) (.bool _)) (.str _)) (.int _)
      · exact genuine_tooLarge _
    · exact genuine_tooLarge _

theorem genuine_errorEnvelope {message : Json} (genuine : Genuine readFloat message)
    (code : String) (retryable : Bool) :
    Genuine readFloat (errorEnvelope code message retryable).value :=
  genuine_singleton (genuine_cons (by simp) (.str _)
    (genuine_cons (by simp) genuine (genuine_singleton (.bool _))))

/-! ### What the filters leave -/

theorem bind_ok {α β : Type} {x : Except Exn α} {f : α → Except Exn β} {b : β}
    (done : x >>= f = .ok b) : ∃ a, x = .ok a ∧ f a = .ok b := by
  cases x with
  | error e => cases done
  | ok a => exact ⟨a, rfl, done⟩

theorem filterRows_subset {keep : Json → Except Exn Bool} {rows kept : List Json}
    (done : filterRows keep rows = .ok kept) : kept ⊆ rows := by
  induction rows generalizing kept with
  | nil =>
      cases done
      exact List.Subset.refl _
  | cons row rest ih =>
      obtain ⟨shown, _, done⟩ := bind_ok done
      obtain ⟨more, found, same⟩ := bind_ok done
      cases same
      have later : more ⊆ row :: rest := List.subset_cons_of_subset _ (ih found)
      split
      · exact List.cons_subset.mpr ⟨List.mem_cons_self, later⟩
      · exact later

theorem genuine_iter {data : Json} (genuine : Genuine readFloat data) {items : List Json}
    (done : data.iter = .ok items) : ∀ x ∈ items, Genuine readFloat x := by
  cases genuine with
  | arr all =>
      cases done
      exact all
  | obj nodup all =>
      cases done
      exact List.forall_mem_map.mpr fun _ _ => .str _
  | str s =>
      cases done
      exact List.forall_mem_map.mpr fun _ _ => .str _
  | _ => cases done

theorem genuine_filterByName (py : PyText) {name_filter : Option String} {data kept : Json}
    (genuine : Genuine readFloat data) (done : filterByName py data name_filter = .ok kept) :
    Genuine readFloat kept := by
  unfold filterByName at done
  split at done
  · cases done
    exact genuine
  · obtain ⟨items, found, done⟩ := bind_ok done
    obtain ⟨rows, filtered, same⟩ := bind_ok done
    cases same
    have all := genuine_iter genuine found
    exact .arr fun x mem => all x (filterRows_subset filtered mem)

theorem genuine_filterFields (py : PyText) {name_filter : Option String}
    {fields filtered kept : List (String × Json)}
    (all : ∀ field ∈ fields, Genuine readFloat field.2)
    (genuine : Genuine readFloat (.obj filtered))
    (done : filterFields py name_filter fields filtered = .ok kept) :
    Genuine readFloat (.obj kept) := by
  induction fields generalizing filtered with
  | nil =>
      cases done
      exact genuine
  | cons field rest ih =>
      obtain ⟨key, value⟩ := field
      rw [List.forall_mem_cons] at all
      unfold filterFields at done
      split at done
      · obtain ⟨shown, found, done⟩ := bind_ok done
        exact ih all.2 (genuine_setField genuine (genuine_filterByName py all.1 found)) done
      · exact ih all.2 genuine done

theorem genuine_filterNamedLists (py : PyText) {name_filter : Option String} {data kept : Json}
    (genuine : Genuine readFloat data)
    (done : filterNamedLists py data name_filter = .ok kept) : Genuine readFloat kept := by
  unfold filterNamedLists at done
  split at done
  · cases done
    exact genuine
  · split at done
    · obtain ⟨filtered, found, same⟩ := bind_ok done
      cases same
      cases genuine with
      | obj nodup all => exact genuine_filterFields py all (.obj nodup all) found
    · obtain ⟨_, _, done⟩ := bind_ok done
      obtain ⟨_, _, raised⟩ := bind_ok done
      cases raised

theorem genuine_extractTickets {response : Json} (genuine : Genuine readFloat response) :
    ∀ row ∈ extractTickets response, Genuine readFloat row := by
  cases genuine with
  | arr all => exact all
  | @obj fields nodup all =>
      have own : ∀ key rows, getField fields key = .arr rows →
          ∀ row ∈ rows, Genuine readFloat row := by
        intro key rows found
        have listed := genuine_getField (.obj nodup all) key
        rw [found] at listed
        cases listed with
        | arr all => exact all
      unfold extractTickets
      dsimp only
      split
      · exact own _ _ ‹_›
      · split
        · exact own _ _ ‹_›
        · exact fun _ mem => absurd mem List.not_mem_nil
  | _ => exact fun _ mem => absurd mem List.not_mem_nil

theorem genuine_maxId {rows : List Json} (genuine : ∀ row ∈ rows, Genuine readFloat row)
    {id : Json} (done : maxId rows = .ok id) : Genuine readFloat id := by
  induction rows generalizing id with
  | nil =>
      cases done
      exact .null
  | cons row rest ih =>
      rw [List.forall_mem_cons] at genuine
      obtain ⟨own, found, done⟩ := bind_ok done
      obtain ⟨more, later, done⟩ := bind_ok done
      have first : Genuine readFloat own := by
        unfold ticketGet at found
        split at found
        · cases found
          exact genuine_getField genuine.1 _
        · cases found
      have others := ih genuine.2 later
      split at done
      · cases done
        split
        · exact first
        · exact others
      · cases done
        exact first
      · cases done
        exact others

theorem genuine_ticketsAnswer (py : PyText) {status : Option String}
    {organization_id device_id : Option Int} {page_size : Int} {response : Json} {answer : Answer}
    (genuine : Genuine readFloat response)
    (done : ticketsAnswer py status organization_id device_id page_size response = .ok answer) :
    Genuine readFloat answer.value := by
  have rows := genuine_extractTickets genuine
  obtain ⟨matched, filtered, done⟩ := bind_ok done
  have shown : Genuine readFloat (.arr matched) :=
    .arr fun row mem => rows row (filterRows_subset filtered mem)
  have page : ∀ {cursor : Json}, Genuine readFloat cursor → ∀ has_more : Bool,
      Genuine readFloat (.obj [("tickets", .arr matched), ("count", .int matched.length),
        ("scanned", .int (extractTickets response).length), ("hasMore", .bool has_more),
        ("cursor", cursor)]) :=
    fun next has_more => genuine_cons (by simp) shown (genuine_cons (by simp) (.int _)
      (genuine_cons (by simp) (.int _) (genuine_cons (by simp) (.bool has_more)
        (genuine_singleton next))))
  dsimp only at done
  split at done
  · obtain ⟨cursor, found, same⟩ := bind_ok done
    cases same
    exact genuine_dumpJsonCapped (page (genuine_maxId rows found) _) _
  · obtain ⟨cursor, found, same⟩ := bind_ok done
    cases found
    cases same
    exact genuine_dumpJsonCapped (page .null _) _

/-! ### What the tools answer -/

/-- An answer made of a value that JSON has a text for is such a value. -/
theorem answer_genuine (tool : ApiTool) (py : PyText) {result : Json} {answer : Answer}
    (genuine : Genuine readFloat result) (done : tool.answer py result = .ok answer) :
    Genuine readFloat answer.value := by
  cases tool
  case getAutomationScripts =>
    obtain ⟨kept, filtered, same⟩ := bind_ok done
    cases same
    exact genuine_dumpJsonCapped (genuine_singleton (genuine_filterByName py genuine filtered)) _
  case getDeviceScriptingOptions =>
    obtain ⟨kept, filtered, same⟩ := bind_ok done
    cases same
    exact genuine_dumpJsonCapped (genuine_filterNamedLists py genuine filtered) _
  case getTickets => exact genuine_ticketsAnswer py genuine done
  case getOrganizationCustomFields =>
    have none : Genuine readFloat (dumpJsonCapped (.obj [("fields", .obj []),
        ("note", .str "no custom fields configured for this organization")])).value :=
      genuine_dumpJsonCapped (genuine_cons (by simp) genuine_nil (genuine_singleton (.str _))) _
    cases genuine with
    | @obj fields nodup all =>
        cases fields with
        | nil =>
            rw [← Except.ok.inj done]
            exact none
        | cons field rest =>
            rw [← Except.ok.inj done]
            exact genuine_dumpJsonCapped (genuine_singleton (.obj nodup all)) _
    | _ =>
        rw [← Except.ok.inj done]
        exact none
  all_goals
    rw [← Except.ok.inj done]
    refine genuine_dumpJsonCapped ?_ _
    first
      | exact genuine
      | exact genuine_singleton genuine
      | exact genuine_cons (by simp) (.bool _) (genuine_singleton genuine)

/-- Every JSON body the upstream sends is one that a text stands for. -/
def SendsJson (readFloat : String → Option PyFloat) (upstream : Upstream) : Prop :=
  ∀ attempt req resp, upstream attempt req = .response resp → ∀ data, resp.json = .value data →
    ∃ text, readJson readFloat text = some data

theorem genuine_parseBody {resp : Response}
    (json : ∀ data, resp.json = .value data → Genuine readFloat data) {data : Json}
    (done : parseBody resp = .ok data) : Genuine readFloat data := by
  unfold parseBody at done
  split at done
  · cases done
    exact .null
  · split at done
    · cases done
      exact json _ ‹_›
    · cases done
      exact genuine_singleton (.str _)
    · cases done

theorem genuine_extractError (py : PyText) {resp : Response}
    (json : ∀ data, resp.json = .value data → Genuine readFloat data) {message : Json}
    (done : extractError py resp = .ok message) : Genuine readFloat message := by
  unfold extractError at done
  split at done
  · rename_i detail value
    have genuine := json detail value
    split at done
    · cases done
      exact genuine_orElse (genuine_getField genuine _) (genuine_orElse (genuine_getField genuine _)
        (genuine_orElse (genuine_getField genuine _) (.str _)))
    · cases done
      exact .str _
  · cases done
    exact .str _
  · cases done

theorem genuine_conclude (py : PyText) (url : String) {out : Outcome}
    (json : ∀ resp, out = .response resp → ∀ data, resp.json = .value data →
      Genuine readFloat data) :
    (∀ data, conclude py url out = .ok data → Genuine readFloat data) ∧
      ∀ e, conclude py url out = .error (.ninjaOneError e) → Genuine readFloat e.message := by
  cases out with
  | requestError e =>
      constructor
      · intro data done
        cases done
      · intro e raised
        cases raised
        exact .str _
  | response resp =>
      have own := json resp rfl
      constructor
      · intro data done
        obtain ⟨_, _, parsed⟩ := bind_ok done
        exact genuine_parseBody own parsed
      · intro e raised
        obtain ⟨_, message, extracted, rfl⟩ := (conclude_ninjaOneError_iff py url).mp raised
        exact genuine_extractError py own extracted

namespace ApiTool

theorem genuine_answered (faithful : Faithful readFloat) (tool : ApiTool) (py : PyText)
    (client : Option NinjaOneClient) {upstream : Upstream} (json : SendsJson readFloat upstream)
    {answer : Answer} (answered : (tool.run py client upstream).result = .ok answer) :
    Genuine readFloat answer.value := by
  cases client with
  | none =>
      rw [run_none] at answered
      cases answered
      exact genuine_errorEnvelope (.str _) _ _
  | some client =>
      rw [run_request] at answered
      simp only [Traced.answering, request_result] at answered
      obtain ⟨ofData, ofError⟩ := @genuine_conclude readFloat py
        (client.base_url ++ tool.path) _ fun resp out data value =>
          (json _ _ resp out data value).elim fun _ read => genuine_of_readJson faithful read
      split at answered
      · exact answer_genuine tool py (ofData _ ‹_›) answered
      · cases answered
        exact genuine_errorEnvelope (ofError _ ‹_›) _ _
      · cases answered

/-- **What a tool answers can be read**: the text of an answer, shortened or not,
filtered or not, or an error, is read back to the value that the tool made of
what the upstream sent. -/
theorem answer_reads_back (faithful : Faithful readFloat) (tool : ApiTool) (py : PyText)
    (client : Option NinjaOneClient) {upstream : Upstream} (json : SendsJson readFloat upstream)
    {answer : Answer} (answered : (tool.run py client upstream).result = .ok answer) :
    readJson readFloat answer.text = some answer.value :=
  readJson_compact_of_genuine (tool.genuine_answered faithful py client json answered)

/-- One device, with a number that is none of the integers. -/
def oneDevice : Json := .arr [.obj [("id", .int 7), ("load", .float oneAndHalf)]]

theorem oneDevice_sent : SendsJson readOneAndHalf (answering fun _ => oneDevice) := by
  rintro attempt req resp ⟨⟩ data ⟨⟩
  have load : Genuine readOneAndHalf (.float oneAndHalf) := .float ⟨by decide, by decide, rfl⟩
  exact ⟨_, readJson_compact_of_genuine (.arr (List.forall_mem_singleton.mpr
    (genuine_cons (by decide) (.int 7) (genuine_singleton load))))⟩

theorem oneDevice_reads_back :
    readJson readOneAndHalf (dumpJsonCapped (.obj [("devices", oneDevice)])).text =
      some (dumpJsonCapped (.obj [("devices", oneDevice)])).value := by
  refine answer_reads_back readOneAndHalf_faithful (getDevices none none none) .ascii
    (some (.init "t" "https://app.ninjarmm.com")) oneDevice_sent ?_
  rw [run_request]
  exact answering_request _ _ _ _ _ _ (serves_answering _) _

end ApiTool

end NinjaOne
