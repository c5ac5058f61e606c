import NinjaOne.Cursor
import NinjaOne.Tools.Automation

/-!
Which response bodies the list-processing tools answer.

`ninjaone_get_automation_scripts`, `ninjaone_get_device_scripting_options` and
`ninjaone_get_tickets` go through the elements of a body whose shape nobody
checked. What they iterate over, call `get` on or copy decides whether a call
answers or raises: `list_call_answers_iff` gives the shapes each of them handles,
`emptyBody_raises` a body that is not one of them.
-/

namespace NinjaOne

/-! ### The filters -/

/-- Only an object has `get`. -/
def IsObject (x : Json) : Prop := ∃ fields, x = .obj fields

theorem nameMatches_succeeds_iff (py : PyText) (needle : String) (item : Json) :
    Succeeds (nameMatches py needle item) ↔ IsObject item := by
  cases item with
  | obj fields => exact iff_of_true (succeeds_ok _) ⟨fields, rfl⟩
  | _ => exact iff_of_false nofun nofun

/-- Lists of objects can be filtered by name, and so can what iterates over
nothing. -/
def Nameable (items : Json) : Prop :=
  match items with
  | .arr items => ∀ item ∈ items, IsObject item
  | .obj fields => fields = []
  | .str s => s = ""
  | _ => False

/-- The elements of an iterable that is neither a list nor empty are no objects. -/
theorem strings_nameable_iff {α : Type} {elements : List α} {text : α → String} :
    (∀ item ∈ elements.map fun element => Json.str (text element), IsObject item) ↔
      elements = [] := by
  rw [List.forall_mem_map]
  cases elements with
  | nil => exact iff_of_true nofun rfl
  | cons element rest => exact iff_of_false (fun all => nomatch all element List.mem_cons_self) nofun

theorem filterByName_succeeds_iff (py : PyText) (items : Json) (name_filter : Option String) :
    Succeeds (filterByName py items name_filter) ↔
      Unfiltered name_filter ∨ Nameable items := by
  unfold filterByName
  by_cases unfiltered : Unfiltered name_filter
  · rw [if_pos unfiltered]
    exact iff_of_true (succeeds_ok items) (Or.inl unfiltered)
  · rw [if_neg unfiltered, or_iff_right unfiltered, succeeds_bind_iff]
    simp only [succeeds_map_iff, filterRows_succeeds_iff, nameMatches_succeeds_iff]
    have through : ∀ elements, items.iter = .ok elements →
        ((∃ found, items.iter = .ok found ∧ ∀ item ∈ found, IsObject item) ↔
          ∀ item ∈ elements, IsObject item) := by
      intro elements iter
      simp only [iter, Except.ok.injEq, exists_eq_left']
    cases items with
    | arr items => exact through items rfl
    | obj fields => exact (through _ rfl).trans strings_nameable_iff
    | str s =>
        rw [through _ rfl, strings_nameable_iff, Nameable, String.toList_eq_nil_iff]
    | _ => exact iff_of_false (fun ⟨_, raised, _⟩ => nomatch raised) id

/-- On a list that it recognises, `_filter_named_lists` can filter. -/
theorem filterByName_of_isNamedList (py : PyText) {value : Json} (named : isNamedList value)
    (name_filter : Option String) : Succeeds (filterByName py value name_filter) := by
  refine (filterByName_succeeds_iff py value name_filter).mpr (Or.inr ?_)
  cases value with
  | arr items =>
      intro item mem
      have object := List.all_eq_true.mp (Bool.and_eq_true_iff.mp named).2 item mem
      cases item with
      | obj fields => exact ⟨fields, rfl⟩
      | _ => cases object
  | _ => cases named

theorem filterFields_succeeds (py : PyText) (name_filter : Option String)
    (fields filtered : List (String × Json)) :
    Succeeds (filterFields py name_filter fields filtered) := by
  induction fields generalizing filtered with
  | nil => exact succeeds_ok filtered
  | cons field rest ih =>
      unfold filterFields
      split
      · rename_i named
        obtain ⟨kept, filter⟩ := filterByName_of_isNamedList py named name_filter
        exact succeeds_bind_iff.mpr ⟨kept, filter, ih _⟩
      · exact ih filtered

/-- `_filter_named_lists` filters objects only. -/
theorem filterNamedLists_succeeds_iff (py : PyText) (data : Json)
    (name_filter : Option String) :
    Succeeds (filterNamedLists py data name_filter) ↔
      Unfiltered name_filter ∨ IsObject data := by
  unfold filterNamedLists
  by_cases unfiltered : Unfiltered name_filter
  · rw [if_pos unfiltered]
    exact iff_of_true (succeeds_ok data) (Or.inl unfiltered)
  · rw [if_neg unfiltered, or_iff_right unfiltered]
    have raises : ∀ copied : Except Exn Unit,
        ¬ Succeeds (copied >>= fun _ => (.error .attributeError : Except Exn Json)) := by
      intro copied done
      obtain ⟨_, _, no⟩ := succeeds_bind_iff.mp done
      exact not_succeeds_error _ no
    cases data with
    | obj fields =>
        exact iff_of_true (succeeds_map_iff.mpr (filterFields_succeeds py name_filter fields fields))
          ⟨fields, rfl⟩
    | _ =>
        refine iff_of_false (fun done => ?_) nofun
        obtain ⟨elements, _, rest⟩ := succeeds_bind_iff.mp done
        exact raises _ rest

/-- A list of pairs gets through `dict(data)`, and no further. -/
example : filterNamedLists .ascii (.arr [.str "ab"]) (some "x") = .error .attributeError := rfl

/-! ### The ticket rows -/

section Tickets

variable (py : PyText) (status : Option String) (organization_id device_id : Option Int)

theorem ticketGet_succeeds_iff {t : Json} {key : String} :
    Succeeds (ticketGet t key) ↔ IsObject t := by
  cases t with
  | obj fields => exact iff_of_true ⟨_, rfl⟩ ⟨fields, rfl⟩
  | _ => exact iff_of_false nofun nofun

theorem ticketGet_of_not_object {t : Json} (object : ¬ IsObject t) (key : String) :
    ticketGet t key = .error .attributeError := by
  cases t with
  | obj fields => exact absurd ⟨fields, rfl⟩ object
  | _ => rfl

/-- A row that is not an object passes only when there is nothing to test. -/
theorem ticketMatches_succeeds_iff (t : Json) :
    Succeeds (ticketMatches py t status organization_id device_id) ↔
      IsObject t ∨ status = none ∧ organization_id = none ∧ device_id = none := by
  by_cases object : IsObject t
  · refine iff_of_true ?_ (Or.inl object)
    obtain ⟨fields, rfl⟩ := object
    rw [ticketMatches_obj]
    exact succeeds_ok _
  · have get := ticketGet_of_not_object object
    have label : statusLabel py t = .error .attributeError := by
      rw [statusLabel, get]
      rfl
    rw [or_iff_right object]
    unfold ticketMatches
    cases status with
    | some status =>
        rw [label]
        exact iff_of_false (not_succeeds_error .attributeError) nofun
    | none =>
        cases organization_id with
        | some organization_id =>
            rw [get "clientId"]
            exact iff_of_false (not_succeeds_error .attributeError) nofun
        | none =>
            cases device_id with
            | some device_id =>
                rw [get "nodeId"]
                exact iff_of_false (not_succeeds_error .attributeError) nofun
            | none => exact iff_of_true ⟨true, rfl⟩ ⟨rfl, rfl, rfl⟩

theorem maxId_succeeds_iff (rows : List Json) :
    Succeeds (maxId rows) ↔ ∀ t ∈ rows, IsObject t := by
  induction rows with
  | nil => exact iff_of_true (succeeds_ok _) nofun
  | cons t rest ih =>
      rw [List.forall_mem_cons, ← ih, ← @ticketGet_succeeds_iff t "id"]
      constructor
      · intro done
        obtain ⟨id, get, done⟩ := succeeds_bind_iff.mp done
        obtain ⟨more, found, _⟩ := succeeds_bind_iff.mp done
        exact ⟨⟨id, get⟩, ⟨more, found⟩⟩
      · rintro ⟨⟨id, get⟩, ⟨more, found⟩⟩
        exact ⟨_, maxId_cons (ticketGet_succeeds_iff.mp ⟨id, get⟩) found⟩

/-- Rows that are not objects are scanned only on a short page without filters. -/
theorem ticketsAnswer_succeeds_iff (page_size : Int) (response : Json) :
    Succeeds (ticketsAnswer py status organization_id device_id page_size response) ↔
      (∀ t ∈ extractTickets response, IsObject t) ∨
        (status = none ∧ organization_id = none ∧ device_id = none) ∧
          ((extractTickets response).length : Int) < page_size := by
  unfold ticketsAnswer
  generalize extractTickets response = rows
  have answer_iff : ∀ answer : Json → Answer,
      Succeeds (if decide (page_size ≤ rows.length) then do
          let next_cursor ← maxId rows
          .ok (answer next_cursor)
        else do
          let next_cursor ← .ok .null
          .ok (answer next_cursor)) ↔
        (∀ t ∈ rows, IsObject t) ∨ (rows.length : Int) < page_size := by
    intro answer
    by_cases short : (rows.length : Int) < page_size
    · rw [decide_eq_false (not_le.mpr short)]
      exact iff_of_true (succeeds_ok (answer .null)) (Or.inr short)
    · rw [decide_eq_true (not_lt.mp short), or_iff_left short]
      exact succeeds_map_iff.trans (maxId_succeeds_iff rows)
  have matched_iff : Succeeds (filterRows
      (fun t => ticketMatches py t status organization_id device_id) rows) ↔
      (∀ t ∈ rows, IsObject t) ∨
        status = none ∧ organization_id = none ∧ device_id = none := by
    rw [filterRows_succeeds_iff]
    simp only [ticketMatches_succeeds_iff]
    by_cases untested : status = none ∧ organization_id = none ∧ device_id = none
    · exact iff_of_true (fun _ _ => Or.inr untested) (Or.inr untested)
    · simp only [or_iff_left untested]
  rw [succeeds_bind_iff, or_and_left, ← matched_iff]
  exact (exists_congr fun matched => and_congr_right fun _ => answer_iff _).trans exists_and_right

end Tickets

/-! ### The tools -/

/-- A call of one of the tools that go through the elements of a body. -/
inductive ListCall where
  | automationScripts (name_filter : Option String) (limit after : Option Int)
  | scriptingOptions (device_id : Int) (name_filter : Option String)
  | tickets (board_id : Int) (status : Option String)
      (organization_id device_id limit cursor : Option Int)

namespace ListCall

def run (call : ListCall) (py : PyText) (client : Option NinjaOneClient) (upstream : Upstream) :
    ToolRun :=
  match call with
  | automationScripts name_filter limit after =>
      ninjaoneGetAutomationScripts py client name_filter limit after upstream
  | scriptingOptions device_id name_filter =>
      ninjaoneGetDeviceScriptingOptions py client device_id name_filter upstream
  | tickets board_id status organization_id device_id limit cursor =>
      ninjaoneGetTickets py client board_id status organization_id device_id limit cursor upstream

/-- What a call makes of the parsed body. -/
def answer (call : ListCall) (py : PyText) (data : Json) : Except Exn Answer :=
  match call with
  | automationScripts name_filter _ _ => do
      let result ← filterByName py data name_filter
      .ok (dumpJsonCapped (.obj [("scripts", result)]))
  | scriptingOptions _ name_filter => do
      let result ← filterNamedLists py data name_filter
      .ok (dumpJsonCapped result)
  | tickets _ status organization_id device_id limit _ =>
      ticketsAnswer py status organization_id device_id (pageSize limit) data

/-- The bodies a call handles. -/
def Handles (call : ListCall) (data : Json) : Prop :=
  match call with
  | automationScripts name_filter _ _ => Unfiltered name_filter ∨ Nameable data
  | scriptingOptions _ name_filter => Unfiltered name_filter ∨ IsObject data
  | tickets _ status organization_id device_id limit _ =>
      (∀ t ∈ extractTickets data, IsObject t) ∨
        (status = none ∧ organization_id = none ∧ device_id = none) ∧
          ((extractTickets data).length : Int) < pageSize limit

theorem answer_succeeds_iff (call : ListCall) (py : PyText) (data : Json) :
    Succeeds (call.answer py data) ↔ call.Handles data := by
  cases call with
  | automationScripts name_filter limit after =>
      exact succeeds_map_iff.trans (filterByName_succeeds_iff py data name_filter)
  | scriptingOptions device_id name_filter =>
      exact succeeds_map_iff.trans (filterNamedLists_succeeds_iff py data name_filter)
  | tickets board_id status organization_id device_id limit cursor =>
      exact ticketsAnswer_succeeds_iff py status organization_id device_id (pageSize limit) data

/-- The request a call sends. -/
def request (call : ListCall) (client : NinjaOneClient) : ClientRequest :=
  match call with
  | automationScripts _ limit after =>
      client.clientRequest "GET" "/api/v2/automation/scripts"
        (if limit.isSome ∨ after.isSome then
          some [("pageSize", Json.ofInt? (limit.map fun n => min n MAX_PAGE_SIZE)),
            ("after", .ofInt? after)]
        else none) none
  | scriptingOptions device_id _ =>
      client.clientRequest "GET"
        ("/api/v2/device/" ++ toString device_id ++ "/scripting/options") none none
  | tickets board_id _ _ _ limit cursor => boardRun client board_id limit cursor

end ListCall

section Call

variable (py : PyText) (client : NinjaOneClient) (method path : String)
  (params : Option (List (String × Json))) (json_body : Option Json) {upstream : Upstream}
  {resp : Response}

/-- What a tool makes of a successful response, it makes of the parsed body. -/
theorem answering_below
    (out : upstream (lastAttempt upstream (client.clientRequest method path params json_body))
      (client.clientRequest method path params json_body) = .response resp)
    (below : resp.status_code < 400) (answer : Json → Except Exn Answer) :
    ((client.request py method path params json_body upstream).answering answer).result =
      parseBody resp >>= answer := by
  simp only [Traced.answering, request_result, out, conclude_below py _ below]
  cases parsed : parseBody resp with
  | ok data => rfl
  | error x =>
      rw [parseBody_error parsed]
      rfl

/-- A call that ends with a successful response answers from the parsed body. -/
theorem answering_succeeds_iff
    (out : upstream (lastAttempt upstream (client.clientRequest method path params json_body))
      (client.clientRequest method path params json_body) = .response resp)
    (below : resp.status_code < 400) (answer : Json → Except Exn Answer) :
    Succeeds ((client.request py method path params json_body upstream).answering answer).result ↔
      ∃ data, parseBody resp = .ok data ∧ Succeeds (answer data) := by
  rw [answering_below py client method path params json_body out below answer]
  exact succeeds_bind_iff

end Call

/-- **A list-processing tool answers a successful response** exactly when its body
can be parsed and has a shape that the call handles. -/
theorem list_call_answers_iff (call : ListCall) (py : PyText) (client : NinjaOneClient)
    {upstream : Upstream} {resp : Response}
    (out : upstream (lastAttempt upstream (call.request client)) (call.request client) =
      .response resp)
    (below : resp.status_code < 400) :
    (∃ answer, (call.run py (some client) upstream).result = .ok answer) ↔
      ∃ data, parseBody resp = .ok data ∧ call.Handles data := by
  simp only [← call.answer_succeeds_iff py]
  cases call with
  | automationScripts name_filter limit after =>
      exact answering_succeeds_iff py client _ _ _ _ out below _
  | scriptingOptions device_id name_filter =>
      exact answering_succeeds_iff py client _ _ _ _ out below _
  | tickets board_id status organization_id device_id limit cursor =>
      exact answering_succeeds_iff py client _ _ _ _ out below _

/-- A list with one script is answered, filtered or not. -/
theorem oneScript_answered : ∃ answer, ((ListCall.automationScripts (some "boot") none none).run
    .ascii (some (.init "t" "https://app.ninjarmm.com")) fun _ _ => .response ⟨200, [], [0x5B],
      .value (.arr [.obj [("name", .str "Reboot")]]), ""⟩).result = .ok answer := by
  refine (list_call_answers_iff _ .ascii (.init "t" "https://app.ninjarmm.com") rfl
    (by decide)).mpr ⟨_, rfl, Or.inr ?_⟩
  intro item mem
  exact ⟨_, List.mem_singleton.mp mem⟩

/-- A filtered listing raises on an empty body. -/
theorem emptyBody_raises : ¬ ∀ (call : ListCall) (py : PyText) (client : NinjaOneClient)
    (upstream : Upstream) (resp : Response),
    upstream (lastAttempt upstream (call.request client)) (call.request client) =
      .response resp →
    resp.status_code < 400 →
    ∃ answer, (call.run py (some client) upstream).result = .ok answer := by
  intro all
  obtain ⟨answer, answered⟩ := all (.automationScripts (some "boot") none none) .ascii
    (.init "t" "https://app.ninjarmm.com") (fun _ _ => .response ⟨204, [], [], .valueError, ""⟩)
    _ rfl (by decide)
  cases answered

end NinjaOne
