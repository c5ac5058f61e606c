import NinjaOne.Tools.Common

/-!
`tools/tickets.py`: the boards, listing a board's tickets with client-side
filters, creating and updating tickets, and the log of one.

The board-run response is untyped: rows are whatever the list contains, so
reading a field of a row that is not an object raises `AttributeError`.
-/

namespace NinjaOne

/-- `_extract_tickets`: the three shapes a board-run response may have. -/
def extractTickets (response : Json) : List Json :=
  match response with
  | .arr rows => rows
  | .obj fields =>
      match getField fields "tickets" with
      | .arr rows => rows
      | _ =>
          match getField fields "data" with
          | .arr rows => rows
          | _ => []
  | _ => []

/-- `ticket.get(key)`. -/
def ticketGet (ticket : Json) (key : String) : Except Exn Json :=
  match ticket with
  | .obj fields => .ok (getField fields key)
  | _ => .error .attributeError

/-- `_status_label`. -/
def statusLabel (py : PyText) (ticket : Json) : Except Exn String := do
  match ← ticketGet ticket "status" with
  | .str s => .ok s
  | .obj status =>
      .ok (strJson py ((getField status "displayName").orElse
        ((getField status "name").orElse (.str ""))))
  | _ => .ok ""

/-- `_ticket_matches`, filter by filter. -/
def ticketMatches (py : PyText) (ticket : Json) (status : Option String)
    (organization_id device_id : Option Int) : Except Exn Bool := do
  match status with
  | some status =>
      if py.upper (← statusLabel py ticket) ≠ py.upper status then
        return false
  | none => pure ()
  match organization_id with
  | some organization_id =>
      if !(← ticketGet ticket "clientId").eqInt organization_id then
        return false
  | none => pure ()
  match device_id with
  | some device_id =>
      if !(← ticketGet ticket "nodeId").eqInt device_id then
        return false
  | none => pure ()
  return true

/-- `max((t.get("id") for t in rows if isinstance(t.get("id"), int)), default=None)`:
the first of the greatest integer ids. -/
def maxId : List Json → Except Exn Json
  | [] => .ok .null
  | row :: rest => do
      let id ← ticketGet row "id"
      let more ← maxId rest
      match id.asInt, more.asInt with
      | some n, some m => .ok (if m ≤ n then id else more)
      | some _, none => .ok id
      | none, _ => .ok more

/-- What the tool makes of a board-run response. -/
def ticketsAnswer (py : PyText) (status : Option String) (organization_id device_id : Option Int)
    (page_size : Int) (response : Json) : Except Exn Answer := do
  let rows := extractTickets response
  let matched ← filterRows (fun t => ticketMatches py t status organization_id device_id) rows
  let has_more := decide (page_size ≤ rows.length)
  let next_cursor ← if has_more then maxId rows else .ok .null
  .ok (dumpJsonCapped (.obj [("tickets", .arr matched), ("count", .int matched.length),
    ("scanned", .int rows.length), ("hasMore", .bool has_more), ("cursor", next_cursor)]))

def ninjaoneGetTicketBoards (py : PyText) (client : Option NinjaOneClient) : Upstream → ToolRun :=
  fetchUnder py client "/api/v2/ticketing/trigger/boards" none "boards"

def ninjaoneGetTickets (py : PyText) (client : Option NinjaOneClient) (board_id : Int)
    (status : Option String) (organization_id device_id limit cursor : Option Int)
    (upstream : Upstream) : ToolRun :=
  withClient client fun client =>
    let page_size := pageSize limit
    let body := [("pageSize", Json.int page_size)] ++ optField "lastCursorId" (.ofInt? cursor)
    (client.post py ("/api/v2/ticketing/trigger/board/" ++ toString board_id ++ "/run")
      (some (.obj body)) none upstream).answering
      (ticketsAnswer py status organization_id device_id page_size)

def ninjaoneCreateTicket (py : PyText) (client : Option NinjaOneClient) (summary : String)
    (organization_id : Int) (description : Option String)
    (device_id location_id ticket_form_id : Option Int)
    (status priority severity type : Option String) (upstream : Upstream) : ToolRun :=
  withClient client fun client =>
    let body :=
      [("summary", Json.str summary), ("clientId", .int organization_id)] ++
        optField "description" (match description with
          | none => .null
          | some text => .obj [("public", .bool true), ("body", .str text)]) ++
        optField "nodeId" (.ofInt? device_id) ++ optField "locationId" (.ofInt? location_id) ++
        optField "ticketFormId" (.ofInt? ticket_form_id) ++ optField "status" (.ofStr? status) ++
        optField "priority" (.ofStr? priority) ++ optField "severity" (.ofStr? severity) ++
        optField "type" (.ofStr? type)
    (client.post py "/api/v2/ticketing/ticket" (some (.obj body)) none upstream).answering
      fun result => .ok (dumpJsonCapped result)

def ninjaoneUpdateTicket (py : PyText) (client : Option NinjaOneClient) (ticket_id : Int)
    (summary status priority : Option String) (assignee_id : Option Int)
    (comment : Option String) (comment_public : Option Bool) (upstream : Upstream) : ToolRun :=
  withClient client fun client =>
    let ticket_body :=
      optField "summary" (.ofStr? summary) ++ optField "status" (.ofStr? status) ++
        optField "priority" (.ofStr? priority) ++
        optField "assignedAppUserId" (.ofInt? assignee_id)
    let body :=
      (if ticket_body = [] then [] else [("ticket", Json.obj ticket_body)]) ++
        optField "comment" (match comment with
          | none => .null
          | some text => .obj [("public", .bool (comment_public.getD true)), ("body", .str text)])
    (client.put py ("/api/v2/ticketing/ticket/" ++ toString ticket_id) (some (.obj body)) none
      upstream).answering fun result => .ok (dumpJsonCapped result)

def ninjaoneGetTicketLogEntries (py : PyText) (client : Option NinjaOneClient) (ticket_id : Int)
    (entry_type : Option String) : Upstream → ToolRun :=
  fetchUnder py client ("/api/v2/ticketing/ticket/" ++ toString ticket_id ++ "/log-entry")
    (some [("type", .ofStr? entry_type)]) "entries"

end NinjaOne
