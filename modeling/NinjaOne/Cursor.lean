import NinjaOne.Attempts
import NinjaOne.Board

/-!
The cursor of a ticket page.

`ninjaone_get_tickets` computes `hasMore` from the page size it asked for and the
cursor from the ids it got, each on its own. They agree on a page of tickets when
the page is short or one of its rows has an integer id: `cursor_advances_iff`.
A negative limit makes every page a full one, the empty page too, and then
`hasMore` comes with no cursor: `emptyPage_stalls`.
-/

namespace NinjaOne

/-- A call ends with a successful response whose body is parsed to `data`. -/
def Returns (upstream : Upstream) (req : ClientRequest) (data : Json) : Prop :=
  ∃ resp, upstream (lastAttempt upstream req) req = .response resp ∧
    resp.status_code < 400 ∧ parseBody resp = .ok data

theorem request_returns (py : PyText) (client : NinjaOneClient) (method path : String)
    (params : Option (List (String × Json))) (json_body : Option Json) {upstream : Upstream}
    {data : Json} (returns : Returns upstream (client.clientRequest method path params json_body)
      data) :
    (client.request py method path params json_body upstream).result = .ok data := by
  obtain ⟨resp, out, below, parsed⟩ := returns
  rw [request_result, out, conclude_below _ _ below, parsed]

/-- The request for a page of a board. -/
def boardRun (client : NinjaOneClient) (board_id : Int) (limit cursor : Option Int) :
    ClientRequest :=
  client.clientRequest "POST" ("/api/v2/ticketing/trigger/board/" ++ toString board_id ++ "/run")
    none (some (.obj ([("pageSize", Json.int (pageSize limit))] ++
      optField "lastCursorId" (.ofInt? cursor))))

/-! ### The answer to a page -/

/-- The integer ids of a page. -/
def pageIds (rows : List Json) : Set Int := {n | ∃ t ∈ rows, (t.field "id").asInt = some n}

theorem highestId_eq_some_iff {rows : List Json} {n : Int} :
    highestId rows = some n ↔ IsGreatest (pageIds rows) n := by
  have ids : ∀ m, m ∈ rows.filterMap (fun row => (row.field "id").asInt) ↔ m ∈ pageIds rows :=
    fun m => List.mem_filterMap
  rw [highestId, List.max?_eq_some_iff, ids]
  exact and_congr_right fun _ => forall_congr' fun m => imp_congr_left (ids m)

theorem highestId_eq_none_iff {rows : List Json} :
    highestId rows = none ↔ ¬ ∃ t ∈ rows, (t.field "id").asInt.isSome := by
  rw [highestId, List.max?_eq_none_iff, List.filterMap_eq_nil_iff]
  simp only [not_exists, not_and, Bool.not_eq_true, Option.isSome_eq_false_iff,
    Option.isNone_iff_eq_none]

/-- What the tool makes of a page of objects, before the size cap. -/
def pageAnswer (matched : List Json) (scanned : Nat) (has_more : Bool) (cursor : Json) :
    List (String × Json) :=
  [("tickets", .arr matched), ("count", .int matched.length), ("scanned", .int scanned),
    ("hasMore", .bool has_more), ("cursor", cursor)]

/-- `hasMore: true` comes with a page that is not empty, and with the greatest of
its integer ids as the cursor. -/
def Advances (rows : List Json) (value : Json) : Prop :=
  value.field "hasMore" = .bool true →
    rows ≠ [] ∧ (∃ t ∈ rows, value.field "cursor" = t.field "id") ∧
      ∃ n, (value.field "cursor").asInt = some n ∧ IsGreatest (pageIds rows) n

/-- The size cap changes neither `hasMore` nor the cursor. -/
theorem advances_capped_iff {rows matched : List Json} {scanned : Nat} {has_more : Bool}
    {cursor : Json} (scalar : ∀ items, cursor ≠ .arr items) :
    Advances rows (dumpJsonCapped (.obj (pageAnswer matched scanned has_more cursor))).value ↔
      (has_more = true → rows ≠ [] ∧ (∃ t ∈ rows, cursor = t.field "id") ∧
        ∃ n, cursor.asInt = some n ∧ IsGreatest (pageIds rows) n) := by
  have only : listKeys (pageAnswer matched scanned has_more cursor) = ["tickets"] := by
    cases cursor with
    | arr items => exact absurd rfl (scalar items)
    | _ => rfl
  have unchanged : ∀ k, k ≠ "tickets" → k ∉ markers →
      (dumpJsonCapped (.obj (pageAnswer matched scanned has_more cursor))).value.field k =
        getField (pageAnswer matched scanned has_more cursor) k := fun k =>
    @field_capped_other MAX_CHARS _ _ matched only rfl k
  have flag : getField (pageAnswer matched scanned has_more cursor) "hasMore" =
      .bool has_more := rfl
  have at_cursor : getField (pageAnswer matched scanned has_more cursor) "cursor" = cursor := rfl
  rw [Advances, unchanged "hasMore" (by decide) (by decide),
    unchanged "cursor" (by decide) (by decide), flag, at_cursor, Json.bool.injEq]

/-- A full page advances exactly when it has an integer id. -/
theorem advances_page_iff {rows matched : List Json} {id : Json} (page_size : Int)
    (objects : ∀ t ∈ rows, ∃ fields, t = .obj fields) (found : maxId rows = .ok id) :
    Advances rows (dumpJsonCapped (.obj (pageAnswer matched rows.length
        (decide (page_size ≤ rows.length))
        (if page_size ≤ rows.length then id else .null)))).value ↔
      (rows.length : Int) < page_size ∨ ∃ t ∈ rows, (t.field "id").asInt.isSome := by
  have null : ∀ items, Json.null ≠ .arr items := nofun
  by_cases short : (rows.length : Int) < page_size
  · have ends : ¬ page_size ≤ rows.length := not_le.mpr short
    refine iff_of_true ?_ (Or.inl short)
    rw [if_neg ends, advances_capped_iff null, decide_eq_false ends]
    exact nofun
  · have full : page_size ≤ rows.length := not_lt.mp short
    rw [or_iff_right short, if_pos full]
    rcases maxId_of_objects objects with ⟨default, empty⟩ | ⟨t, mem, first, n, highest, integer⟩
    · cases found.symm.trans default
      refine iff_of_false ?_ (highestId_eq_none_iff.mp empty)
      rw [advances_capped_iff null]
      intro advances
      obtain ⟨_, integer, _⟩ := (advances (decide_eq_true full)).2.2
      cases integer
    · cases found.symm.trans first
      have scalar : ∀ items, t.field "id" ≠ .arr items := by
        intro items list
        rw [list] at integer
        cases integer
      refine iff_of_true ?_ ⟨t, mem, by rw [integer]; rfl⟩
      rw [advances_capped_iff scalar]
      intro _
      exact ⟨List.ne_nil_of_mem mem, ⟨t, mem, rfl⟩, n, integer, highestId_eq_some_iff.mp highest⟩

section Page

variable (py : PyText) (status : Option String) (organization_id device_id : Option Int)

/-- A page of objects is answered, with its first greatest id as the cursor of a
full page. -/
theorem ticketsAnswer_of_objects (page_size : Int) {response id : Json}
    (objects : ∀ t ∈ extractTickets response, ∃ fields, t = .obj fields)
    (found : maxId (extractTickets response) = .ok id) :
    ticketsAnswer py status organization_id device_id page_size response =
      .ok (dumpJsonCapped (.obj (pageAnswer
        ((extractTickets response).filter (keeps py status organization_id device_id))
        (extractTickets response).length
        (decide (page_size ≤ (extractTickets response).length))
        (if page_size ≤ (extractTickets response).length then id else .null)))) := by
  simp only [ticketsAnswer, filterRows_matches py status organization_id device_id objects, found]
  by_cases full : page_size ≤ (extractTickets response).length
  · simp only [full, if_true, decide_true]
    rfl
  · simp only [full, if_false, decide_false]
    rfl

/-- **`hasMore: true` comes with a cursor that advances** exactly when the page has
fewer rows than were asked for, or one of its rows has an integer id. -/
theorem cursor_advances_iff (client : NinjaOneClient) (board_id : Int)
    (limit cursor : Option Int) {upstream : Upstream} {response : Json}
    (objects : ∀ t ∈ extractTickets response, ∃ fields, t = .obj fields)
    (returns : Returns upstream (boardRun client board_id limit cursor) response) :
    Advances (extractTickets response) (ninjaoneGetTickets py (some client) board_id status
        organization_id device_id limit cursor upstream).value ↔
      ((extractTickets response).length : Int) < pageSize limit ∨
        ∃ t ∈ extractTickets response, (t.field "id").asInt.isSome := by
  obtain ⟨id, found⟩ : ∃ id, maxId (extractTickets response) = .ok id := by
    rcases maxId_of_objects objects with ⟨default, _⟩ | ⟨t, _, first, _⟩
    · exact ⟨_, default⟩
    · exact ⟨_, first⟩
  simp only [Traced.value, ninjaoneGetTickets, withClient, NinjaOneClient.post, Traced.answering,
    request_returns py client _ _ _ _ returns,
    ticketsAnswer_of_objects py status organization_id device_id (pageSize limit) objects found]
  exact advances_page_iff (pageSize limit) objects found

end Page

/-! ### A page that advances and a page that stalls -/

/-- The upstream that answers with `rows`, as a bare array. -/
def ticketPage (rows : List Json) : Upstream := answering fun _ => .arr rows

theorem ticketPage_returns (rows : List Json) (req : ClientRequest) :
    Returns (ticketPage rows) req (.arr rows) := by
  have below : (200 : Int) < 400 := by decide
  exact ⟨_, rfl, below, rfl⟩

/-- A full page of one ticket. -/
theorem fullPage_advances : Advances [.obj [("id", .int 7)]] (ninjaoneGetTickets .ascii
    (some (.init "t" "https://app.ninjarmm.com")) 1 none none none (some 1) none
    (ticketPage [.obj [("id", .int 7)]])).value := by
  refine (@cursor_advances_iff .ascii none none none (.init "t" "https://app.ninjarmm.com") 1
    (some 1) none _ (.arr [.obj [("id", .int 7)]]) ?_ (ticketPage_returns _ _)).mpr ?_
  · intro t mem
    exact ⟨_, List.mem_singleton.mp mem⟩
  · exact Or.inr ⟨_, List.mem_singleton_self _, rfl⟩

/-- With the limit -1 an empty page says there is more, and gives no cursor. -/
theorem emptyPage_stalls : ¬ ∀ (py : PyText) (client : NinjaOneClient) (board_id : Int)
    (status : Option String) (organization_id device_id limit cursor : Option Int)
    (upstream : Upstream) (response : Json),
    (∀ t ∈ extractTickets response, ∃ fields, t = .obj fields) →
    Returns upstream (boardRun client board_id limit cursor) response →
    Advances (extractTickets response) (ninjaoneGetTickets py (some client) board_id status
      organization_id device_id limit cursor upstream).value := by
  intro all
  have advances := all .ascii (.init "t" "https://app.ninjarmm.com") 1 none none none (some (-1))
    none (ticketPage []) (.arr []) nofun (ticketPage_returns _ _)
  exact (advances rfl).1 rfl

end NinjaOne
