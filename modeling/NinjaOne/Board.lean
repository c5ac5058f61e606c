import NinjaOne.Paging
import NinjaOne.Tools.Tickets

/-!
Reading a ticket board through `ninjaone_get_tickets`, from no cursor on, until
`hasMore` is false.

The board endpoint pages by ticket id. The tool computes `hasMore` and `cursor`
from all the rows it fetched, before filtering and before the size cap, so the
traversal itself never goes wrong: it fetches exactly the pages of
`Keyset.chunks` (`board_visits`). What it may lose is what the cap cuts from a
page, because the cursor has moved past those tickets: `board_traversed_iff` and
`longTicket_lost`.
-/

namespace NinjaOne

/-! ### The endpoint -/

/-- A ticket board: ticket objects with distinct integer ids, in any order. -/
structure Board where
  tickets : List Json
  ids : ∀ t ∈ tickets, ∃ n, t.field "id" = .int n
  distinct : (tickets.map rowId).Nodup

/-- The board's tickets in ascending id order. -/
def Board.sorted (board : Board) : List Json :=
  board.tickets.mergeSort fun t u => decide (rowId t ≤ rowId u)

/-- One of the shapes a board-run response arrives in. -/
structure Envelope where
  wrap : List Json → Json
  opens : ∀ rows, extractTickets (wrap rows) = rows

/-- A bare array. -/
def Envelope.bare : Envelope := ⟨.arr, fun _ => rfl⟩

/-- An integer member of a request's JSON body. -/
def ClientRequest.intMember (req : ClientRequest) (name : String) : Option Int :=
  req.json.bind fun body => (body.field name).asInt

/-- The board-run endpoint: the first `pageSize` tickets with an id above
`lastCursorId`. -/
def boardEndpoint (envelope : Envelope) (board : Board) (req : ClientRequest) : Json :=
  envelope.wrap (Keyset.page rowId board.sorted ((req.intMember "pageSize").getD 0).toNat
    (req.intMember "lastCursorId"))

theorem Board.mem_sorted {board : Board} {t : Json} : t ∈ board.sorted ↔ t ∈ board.tickets :=
  (List.mergeSort_perm _ _).mem_iff

theorem Board.sorted_increasing (board : Board) : Keyset.Increasing rowId board.sorted := by
  have ordered : board.sorted.Pairwise fun t u => rowId t ≤ rowId u := by
    refine (List.pairwise_mergeSort ?_ ?_ board.tickets).imp of_decide_eq_true
    · intro t u v tu uv
      exact decide_eq_true ((of_decide_eq_true tu).trans (of_decide_eq_true uv))
    · intro t u
      simpa using Int.le_total (rowId t) (rowId u)
  have apart : board.sorted.Pairwise fun t u => rowId t ≠ rowId u := by
    have := ((List.mergeSort_perm board.tickets fun t u => decide (rowId t ≤ rowId u)).map
      rowId).nodup_iff.mpr board.distinct
    exact List.pairwise_map.mp this
  exact (ordered.and apart).imp fun h => Int.lt_iff_le_and_ne.mpr h

/-- The sorted board as a list to page through. -/
def Board.listing (board : Board) : Listing where
  rows := board.sorted
  ids := fun t mem => board.ids t (board.mem_sorted.mp mem)
  increasing := board.sorted_increasing

/-! ### The filters -/

section Filters

variable (py : PyText) (status : Option String) (organization_id device_id : Option Int)

/-- The test of `_ticket_matches`, as a predicate. -/
def keeps (t : Json) : Bool :=
  match ticketMatches py t status organization_id device_id with
  | .ok kept => kept
  | .error _ => false

/-- On an object the test never raises. -/
theorem ticketMatches_obj (fields : List (String × Json)) :
    ticketMatches py (.obj fields) status organization_id device_id =
      .ok (keeps py status organization_id device_id (.obj fields)) := by
  have read : ∀ key, ticketGet (.obj fields) key = .ok (getField fields key) := fun _ => rfl
  have label : ∃ s, statusLabel py (.obj fields) = .ok s := by
    unfold statusLabel
    rw [read]
    cases getField fields "status" <;> exact ⟨_, rfl⟩
  obtain ⟨s, label⟩ := label
  have total : ∃ kept, ticketMatches py (.obj fields) status organization_id device_id =
      .ok kept := by
    unfold ticketMatches
    simp only [label, read]
    cases status <;> cases organization_id <;> cases device_id
    all_goals
      simp only [bind, Except.bind]
      repeat' split
    all_goals exact ⟨_, rfl⟩
  obtain ⟨kept, total⟩ := total
  rw [keeps, total]

/-- `_ticket_matches` picks the matching objects out of a page. -/
theorem filterRows_matches {rows : List Json} (objects : ∀ t ∈ rows, ∃ fields, t = .obj fields) :
    filterRows (fun t => ticketMatches py t status organization_id device_id) rows =
      .ok (rows.filter (keeps py status organization_id device_id)) := by
  refine filterRows_of_total fun t mem => ?_
  obtain ⟨fields, rfl⟩ := objects t mem
  exact ticketMatches_obj py status organization_id device_id fields

end Filters

/-! ### One page -/

theorem highestId_cons (t : Json) (rest : List Json) :
    highestId (t :: rest) = (t.field "id").asInt.elim (highestId rest)
      fun n => some ((highestId rest).elim n (max n)) := by
  unfold highestId
  rw [List.filterMap_cons]
  cases (t.field "id").asInt with
  | none => rfl
  | some n => exact List.max?_cons

theorem ticketGet_obj {t : Json} (object : ∃ fields, t = .obj fields) (key : String) :
    ticketGet t key = .ok (t.field key) := by
  obtain ⟨fields, rfl⟩ := object
  rfl

theorem maxId_cons {t later : Json} {rest : List Json} (object : ∃ fields, t = .obj fields)
    (more : maxId rest = .ok later) :
    maxId (t :: rest) = .ok (match (t.field "id").asInt, later.asInt with
      | some n, some m => if m ≤ n then t.field "id" else later
      | some _, none => t.field "id"
      | none, _ => later) := by
  rw [maxId, ticketGet_obj object, more]
  simp only [bind, Except.bind]
  cases (t.field "id").asInt with
  | none => rfl
  | some n => cases later.asInt <;> rfl

/-- On objects `max` never raises: it finds an id of theirs that stands for the
highest integer, or falls back to the default. -/
theorem maxId_of_objects {rows : List Json} (objects : ∀ t ∈ rows, ∃ fields, t = .obj fields) :
    maxId rows = .ok .null ∧ highestId rows = none ∨
      ∃ t ∈ rows, maxId rows = .ok (t.field "id") ∧
        ∃ n, highestId rows = some n ∧ (t.field "id").asInt = some n := by
  induction rows with
  | nil => exact Or.inl ⟨rfl, rfl⟩
  | cons t rest ih =>
      have object := objects t List.mem_cons_self
      rw [highestId_cons]
      rcases ih fun u mem => objects u (List.mem_cons_of_mem _ mem) with
        ⟨more, empty⟩ | ⟨u, mem, more, m, highest, other⟩
      · rw [maxId_cons object more, empty]
        cases own : (t.field "id").asInt with
        | none => exact Or.inl ⟨rfl, rfl⟩
        | some n => exact Or.inr ⟨t, List.mem_cons_self, rfl, n, rfl, own⟩
      · rw [maxId_cons object more, highest, other]
        cases own : (t.field "id").asInt with
        | none => exact Or.inr ⟨u, List.mem_cons_of_mem _ mem, rfl, m, rfl, other⟩
        | some n =>
            by_cases le : m ≤ n
            · refine Or.inr ⟨t, List.mem_cons_self, ?_, n, ?_, own⟩
              · simp only [if_pos le]
              · exact congrArg some (max_eq_left le)
            · refine Or.inr ⟨u, List.mem_cons_of_mem _ mem, ?_, m, ?_, other⟩
              · simp only [if_neg le]
              · exact congrArg some (max_eq_right (le_of_not_ge le))

theorem objects_of_ids {rows : List Json} (ids : ∀ t ∈ rows, ∃ n, t.field "id" = .int n) :
    ∀ t ∈ rows, ∃ fields, t = .obj fields := by
  intro t mem
  obtain ⟨n, id⟩ := ids t mem
  cases t with
  | obj fields => exact ⟨fields, rfl⟩
  | _ => cases id

/-- The cursor of a page of objects with integer ids is their highest id. -/
theorem maxId_eq {rows : List Json} (ids : ∀ t ∈ rows, ∃ n, t.field "id" = .int n) :
    maxId rows = .ok (.ofInt? (highestId rows)) := by
  rcases maxId_of_objects (objects_of_ids ids) with
    ⟨found, empty⟩ | ⟨t, mem, found, n, highest, integer⟩
  · rw [found, empty]
    rfl
  · obtain ⟨m, own⟩ := ids t mem
    rw [own] at integer
    cases integer
    rw [found, highest, own]
    rfl

/-- The object the tool builds from a page of `rows`, before the size cap. -/
def pageData (keep : Json → Bool) (page_size : Int) (rows : List Json) : List (String × Json) :=
  [("tickets", .arr (rows.filter keep)), ("count", .int (rows.filter keep).length),
    ("scanned", .int rows.length), ("hasMore", .bool (decide (page_size ≤ rows.length))),
    ("cursor", if page_size ≤ rows.length then .ofInt? (highestId rows) else .null)]

theorem ticketsAnswer_page (py : PyText) (status : Option String)
    (organization_id device_id : Option Int) (page_size : Int) (envelope : Envelope)
    {rows : List Json} (ids : ∀ t ∈ rows, ∃ n, t.field "id" = .int n) :
    ticketsAnswer py status organization_id device_id page_size (envelope.wrap rows) =
      .ok (dumpJsonCapped (.obj
        (pageData (keeps py status organization_id device_id) page_size rows))) := by
  simp only [ticketsAnswer, envelope.opens, filterRows_matches py status organization_id device_id
    (objects_of_ids ids), maxId_eq ids, pageData]
  by_cases full : page_size ≤ rows.length
  · simp only [full, if_true, decide_true]
    rfl
  · simp only [full, if_false, decide_false]
    rfl

/-- Each call answers with the board's page after its cursor. -/
theorem ninjaoneGetTickets_result (py : PyText) (client : NinjaOneClient) (board_id : Int)
    (status : Option String) (organization_id device_id limit cursor : Option Int)
    (envelope : Envelope) (board : Board) {upstream : Upstream}
    (serves : Serves upstream (boardEndpoint envelope board)) :
    (ninjaoneGetTickets py (some client) board_id status organization_id device_id limit cursor
      upstream).value = (dumpJsonCapped (.obj
        (pageData (keeps py status organization_id device_id) (pageSize limit)
          (Keyset.page rowId board.sorted (pageSize limit).toNat cursor)))).value := by
  have served : boardEndpoint envelope board (client.clientRequest "POST"
      ("/api/v2/ticketing/trigger/board/" ++ toString board_id ++ "/run") none
      (some (.obj ([("pageSize", Json.int (pageSize limit))] ++
        optField "lastCursorId" (.ofInt? cursor))))) =
      envelope.wrap (Keyset.page rowId board.sorted (pageSize limit).toNat cursor) := by
    cases cursor <;> rfl
  have ids : ∀ t ∈ Keyset.page rowId board.sorted (pageSize limit).toNat cursor,
      ∃ n, t.field "id" = .int n := by
    intro t mem
    exact board.listing.ids t
      ((Keyset.remaining_suffix board.sorted_increasing cursor).subset (List.mem_of_mem_take mem))
  simp only [Traced.value, ninjaoneGetTickets, withClient, NinjaOneClient.post,
    answering_request py client _ _ _ _ serves, served,
    ticketsAnswer_page py status organization_id device_id (pageSize limit) envelope ids]

/-! ### What the caller reads back -/

section Reading

variable (keep : Json → Bool) (page_size : Int) (rows : List Json)

/-- Where the caller goes on: at the answer's cursor, until `hasMore` is false. -/
def nextCursor (value : Json) : Option (Option Int) :=
  if (value.field "hasMore").truthy then some (value.field "cursor").asInt else none

theorem listKeys_pageData : listKeys (pageData keep page_size rows) = ["tickets"] := by
  unfold pageData
  split
  · cases highestId rows <;> rfl
  · rfl

theorem getField_pageData : getField (pageData keep page_size rows) "tickets" =
    .arr (rows.filter keep) := rfl

/-- The cap changes neither `hasMore` nor `cursor`. -/
theorem nextCursor_pageData :
    nextCursor (dumpJsonCapped (.obj (pageData keep page_size rows))).value =
      if page_size ≤ rows.length then some (highestId rows) else none := by
  have unchanged : ∀ k, k ≠ "tickets" → k ∉ markers →
      (dumpJsonCapped (.obj (pageData keep page_size rows))).value.field k =
        getField (pageData keep page_size rows) k := fun k =>
    field_capped_other (listKeys_pageData keep page_size rows)
      (getField_pageData keep page_size rows)
  rw [nextCursor, unchanged "hasMore" (by decide) (by decide),
    unchanged "cursor" (by decide) (by decide)]
  by_cases full : page_size ≤ rows.length
  · simp only [pageData, full, if_true, decide_true]
    cases highestId rows <;> rfl
  · simp only [pageData, full, if_false, decide_false]
    rfl

/-- The tickets shown are a prefix of the page's matches. -/
theorem shownRows_pageData :
    shownRows "tickets" (dumpJsonCapped (.obj (pageData keep page_size rows))).value =
      (rows.filter keep).take
        (keptCount (pageData keep page_size rows) "tickets" (rows.filter keep) MAX_CHARS) := by
  simp only [shownRows, field_capped_key (listKeys_pageData keep page_size rows)
    (getField_pageData keep page_size rows) (by decide : "tickets" ∉ markers)]

/-- All of a page's matches are shown exactly when there are none or the whole
answer is within the cap. -/
theorem shownRows_eq_iff :
    shownRows "tickets" (dumpJsonCapped (.obj (pageData keep page_size rows))).value =
        rows.filter keep ↔
      rows.filter keep = [] ∨ size (.obj (pageData keep page_size rows)) ≤ MAX_CHARS := by
  have fresh : ∀ m ∈ markers, m ∉ (pageData keep page_size rows).map Prod.fst := by
    intro m mem
    simp only [pageData, List.map_cons, List.map_nil]
    revert m
    decide
  rw [shownRows_pageData, take_keptCount_eq_iff fresh (getField_pageData keep page_size rows),
    Int.ofNat_le]

end Reading

/-! ### The traversal -/

/-- The arguments a caller keeps the same over all pages. -/
structure TicketQuery where
  board_id : Int
  status : Option String
  organization_id : Option Int
  device_id : Option Int
  limit : Option Int

namespace TicketQuery

variable (query : TicketQuery) (py : PyText) (client : NinjaOneClient)

/-- What the caller reads back from the call with `cursor`. -/
def value (upstream : Upstream) (cursor : Option Int) : Json :=
  (ninjaoneGetTickets py (some client) query.board_id query.status query.organization_id
    query.device_id query.limit cursor upstream).value

/-- The tickets the query asks for. -/
def matching (t : Json) : Bool := keeps py query.status query.organization_id query.device_id t

/-- The traversal ends, and shows the board's matching tickets, each once and in
order. -/
def Traversed (upstream : Upstream) (board : Board) : Prop :=
  ∃ cursors, Keyset.Visits (fun cursor => nextCursor (query.value py client upstream cursor)) none
      cursors ∧
    cursors.flatMap (fun cursor => shownRows "tickets" (query.value py client upstream cursor)) =
      board.sorted.filter (query.matching py)

end TicketQuery

section Traversal

variable (query : TicketQuery) (py : PyText) (client : NinjaOneClient)
  (positive : ∀ n ∈ query.limit, 1 ≤ n) (envelope : Envelope) (board : Board)
  {upstream : Upstream} (serves : Serves upstream (boardEndpoint envelope board))

include serves

/-- Over its whole traversal the caller is shown all matching tickets exactly
when no page it goes through is cut. -/
theorem shown_all_iff {cursors : List (Option Int)}
    (pages : cursors.map (Keyset.page rowId board.sorted (pageSize query.limit).toNat) =
      Keyset.chunks (pageSize query.limit).toNat board.sorted) :
    cursors.flatMap (fun cursor => shownRows "tickets" (query.value py client upstream cursor)) =
        board.sorted.filter (query.matching py) ↔
      ∀ rows ∈ Keyset.chunks (pageSize query.limit).toNat board.sorted,
        rows.filter (query.matching py) = [] ∨
          size (.obj (pageData (query.matching py) (pageSize query.limit) rows)) ≤ MAX_CHARS := by
  have value := fun cursor => ninjaoneGetTickets_result py client query.board_id query.status
    query.organization_id query.device_id query.limit cursor envelope board serves
  have shown : (fun cursor => shownRows "tickets" (query.value py client upstream cursor)) =
      fun cursor => shownRows "tickets" (dumpJsonCapped (.obj (pageData (query.matching py)
        (pageSize query.limit)
        (Keyset.page rowId board.sorted (pageSize query.limit).toNat cursor)))).value :=
    funext fun cursor => congrArg (shownRows "tickets") (value cursor)
  have whole : board.sorted.filter (query.matching py) = cursors.flatMap fun cursor =>
      (Keyset.page rowId board.sorted (pageSize query.limit).toNat cursor).filter
        (query.matching py) := by
    calc board.sorted.filter (query.matching py)
        = (cursors.map (Keyset.page rowId board.sorted
            (pageSize query.limit).toNat)).flatten.filter (query.matching py) := by
          rw [pages, Keyset.chunks_flatten]
      _ = cursors.flatMap fun cursor => (Keyset.page rowId board.sorted
            (pageSize query.limit).toNat cursor).filter (query.matching py) := by
          rw [List.filter_flatten, List.map_map, List.flatMap_def]
          rfl
  rw [shown, whole, Keyset.flatMap_eq_iff_of_prefix, ← pages, List.forall_mem_map]
  · exact forall₂_congr fun cursor _ => shownRows_eq_iff _ _ _
  · intro cursor
    rw [shownRows_pageData]
    exact List.take_prefix _ _

include positive

/-- Whatever the filters and the cap do, the traversal ends and fetches exactly
the pages of the sorted board. -/
theorem board_visits :
    ∃ cursors, Keyset.Visits (fun cursor => nextCursor (query.value py client upstream cursor))
        none cursors ∧
      cursors.map (Keyset.page rowId board.sorted (pageSize query.limit).toNat) =
        Keyset.chunks (pageSize query.limit).toNat board.sorted := by
  have pos : 1 ≤ pageSize query.limit := pageSize_pos fun n mem => by
    have := positive n mem
    omega
  have continues : ∀ cursor, nextCursor (query.value py client upstream cursor) =
      if pageSize query.limit ≤
          (Keyset.page rowId board.sorted (pageSize query.limit).toNat cursor).length then
        some (highestId (Keyset.page rowId board.sorted (pageSize query.limit).toNat cursor))
      else none := by
    intro cursor
    rw [TicketQuery.value, ninjaoneGetTickets_result py client query.board_id query.status
      query.organization_id query.device_id query.limit cursor envelope board serves,
      nextCursor_pageData]
  refine Keyset.visits_chunks (by omega) (fun cursor short => ?_) (fun cursor full => ?_) none
  · rw [continues, if_neg]
    rw [Keyset.page, List.length_take]
    omega
  · have reaches : pageSize query.limit ≤
        (Keyset.page rowId board.sorted (pageSize query.limit).toNat cursor).length := by
      rw [Keyset.page, List.length_take]
      omega
    rw [continues, if_pos reaches]
    exact ⟨_, rfl, remaining_highestId board.listing cursor (by omega) full⟩

/-- **The caller is shown the board's matching tickets, each once and in order**,
exactly when, for every page of the sorted board, the page has no match or its
whole answer is within the cap. -/
theorem board_traversed_iff :
    query.Traversed py client upstream board ↔
      ∀ rows ∈ Keyset.chunks (pageSize query.limit).toNat board.sorted,
        rows.filter (query.matching py) = [] ∨
          size (.obj (pageData (query.matching py) (pageSize query.limit) rows)) ≤ MAX_CHARS := by
  obtain ⟨cursors, visits, pages⟩ := board_visits query py client positive envelope board serves
  have all_iff := shown_all_iff query py client envelope board serves pages
  constructor
  · rintro ⟨cursors', visits', all⟩
    rw [Keyset.Visits.unique _ visits' visits] at all
    exact all_iff.mp all
  · intro fits
    exact ⟨cursors, visits, all_iff.mpr fits⟩

end Traversal

/-! ### A ticket that is lost -/

/-- A board with a single ticket. -/
def oneTicket (summary : String) : Board where
  tickets := [.obj [("id", .int 7), ("summary", .str summary)]]
  ids := fun t mem => ⟨7, by rw [List.mem_singleton.mp mem]; rfl⟩
  distinct := List.pairwise_singleton _ _

/-- All tickets of board 1, on pages of the default size. -/
def allTickets : TicketQuery := ⟨1, none, none, none, none⟩

theorem allTickets_chunks (summary : String) :
    Keyset.chunks (pageSize allTickets.limit).toNat (oneTicket summary).sorted =
      [[.obj [("id", .int 7), ("summary", .str summary)]]] := by
  have page : (pageSize allTickets.limit).toNat = 50 := rfl
  have sorted : (oneTicket summary).sorted =
      [.obj [("id", .int 7), ("summary", .str summary)]] := List.mergeSort_singleton _
  rw [page, sorted, Keyset.chunks.eq_def, if_neg]
  rw [List.length_singleton, not_and]
  exact fun _ => by decide

/-- A short ticket is shown. -/
theorem shortTicket_traversed :
    allTickets.Traversed .ascii (.init "t" "https://app.ninjarmm.com")
      (answering (boardEndpoint .bare (oneTicket "Printer offline"))) (oneTicket "Printer offline") := by
  refine (board_traversed_iff allTickets .ascii (.init "t" "https://app.ninjarmm.com")
    (fun n mem => by cases mem) .bare (oneTicket "Printer offline") (serves_answering _)).mpr ?_
  rw [allTickets_chunks]
  intro rows mem
  rw [List.mem_singleton.mp mem]
  exact Or.inr (by decide +kernel)

/-- A ticket longer than the cap never is: the first page cuts it and says there
is nothing more. -/
theorem longTicket_lost :
    ¬ allTickets.Traversed .ascii (.init "t" "https://app.ninjarmm.com")
      (answering (boardEndpoint .bare (oneTicket (String.ofList (List.replicate 20001 'a')))))
      (oneTicket (String.ofList (List.replicate 20001 'a'))) := by
  generalize long : String.ofList (List.replicate 20001 'a') = summary
  have length : MAX_CHARS ≤ summary.length := by
    rw [← long, String.length_ofList, List.length_replicate]
    decide
  rintro ⟨cursors, visits, all⟩
  have serves := serves_answering (boardEndpoint .bare (oneTicket summary))
  obtain ⟨cursors', visits', pages⟩ := board_visits allTickets .ascii
    (.init "t" "https://app.ninjarmm.com") (fun n mem => by cases mem) .bare (oneTicket summary)
    serves
  rw [Keyset.Visits.unique _ visits visits'] at all
  have fits := (shown_all_iff allTickets .ascii (.init "t" "https://app.ninjarmm.com") .bare
    (oneTicket summary) serves pages).mp all
  rw [allTickets_chunks] at fits
  rcases fits _ List.mem_cons_self with none | within
  · cases none
  · -- The answer holds the ticket, and the ticket its summary.
    have summary_lt := length_lt_size_str summary
    have ticket_gt : size (.str summary) <
        size (.obj [("id", .int 7), ("summary", .str summary)]) :=
      size_le_size_obj (List.mem_cons_of_mem _ List.mem_cons_self)
    have rows_gt : size (.obj [("id", .int 7), ("summary", .str summary)]) <
        size (.arr [.obj [("id", .int 7), ("summary", .str summary)]]) :=
      size_le_size_arr List.mem_cons_self
    have answer_gt : size (.arr [.obj [("id", .int 7), ("summary", .str summary)]]) <
        size (.obj (pageData (allTickets.matching .ascii) (pageSize allTickets.limit)
          [.obj [("id", .int 7), ("summary", .str summary)]])) :=
      size_le_size_obj (k := "tickets") List.mem_cons_self
    omega

end NinjaOne
