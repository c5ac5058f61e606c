import NinjaOne.ApiClient

/-!
What the tools share: `tools/_common.py` and the shape of a tool body.

Every tool asks the client factory for a client, answers `NO_TOKEN` without one,
makes one call and turns its result into an answer; a `NinjaOneError` becomes
its envelope, any other exception leaves the tool.
-/

namespace NinjaOne

def NO_TOKEN : Answer :=
  errorEnvelope "not_configured"
    (.str ("No NinjaOne credentials. Send the X-Ninja-Token header " ++
      "(optionally X-Ninja-Region)."))
    false

/-- `_MAX_PAGE_SIZE`. -/
def MAX_PAGE_SIZE : Int := 200

/-- `min(limit or 50, _MAX_PAGE_SIZE)`: zero counts as omitted. -/
def pageSize (limit : Option Int) : Int :=
  min (match limit with
    | none => 50
    | some n => if n = 0 then 50 else n) MAX_PAGE_SIZE

/-- An optional integer argument as a JSON value. -/
def Json.ofInt? : Option Int → Json
  | none => .null
  | some n => .int n

/-- An optional string argument as a JSON value. -/
def Json.ofStr? : Option String → Json
  | none => .null
  | some s => .str s

/-- `if value is not None: body[key] = value`, for a key not there yet. -/
def optField (key : String) (value : Json) : List (String × Json) :=
  match value with
  | .null => []
  | value => [(key, value)]

/-- `[t for t in rows if keep(t)]` for a test that may raise. -/
def filterRows (keep : Json → Except Exn Bool) : List Json → Except Exn (List Json)
  | [] => .ok []
  | row :: rest => do
      let kept ← keep row
      let more ← filterRows keep rest
      .ok (if kept then row :: more else more)

/-- The elements `for element in x` goes through: the items of a list, the keys of
an object, the characters of a string. -/
def Json.iter : Json → Except Exn (List Json)
  | .arr items => .ok items
  | .obj fields => .ok (fields.map fun field => .str field.1)
  | .str s => .ok (s.toList.map fun c => .str (String.singleton c))
  | _ => .error .typeError

abbrev ToolRun := Traced Answer

/-- `try: ... except NinjaOneError as e: return e.to_envelope()` around one call
and what is made of its result. -/
def Traced.answering (call : Traced Json) (answer : Json → Except Exn Answer) : ToolRun where
  events := call.events
  result :=
    match call.result with
    | .ok result => answer result
    | .error (.ninjaOneError e) => .ok e.toEnvelope
    | .error x => .error x

/-- `client = client_factory(); if client is None: return NO_TOKEN`. -/
def withClient (client : Option NinjaOneClient) (body : NinjaOneClient → ToolRun) : ToolRun :=
  match client with
  | none => ⟨[], .ok NO_TOKEN⟩
  | some client => body client

/-- A tool that reads one resource and answers with it as it is. -/
def fetchPlain (py : PyText) (client : Option NinjaOneClient) (path : String) (upstream : Upstream) :
    ToolRun :=
  withClient client fun client =>
    (client.get py path none upstream).answering fun result => .ok (dumpJsonCapped result)

/-- A tool that reads one resource and answers with it under `key`. -/
def fetchUnder (py : PyText) (client : Option NinjaOneClient) (path : String)
    (params : Option (List (String × Json))) (key : String) (upstream : Upstream) : ToolRun :=
  withClient client fun client =>
    (client.get py path params upstream).answering fun result =>
      .ok (dumpJsonCapped (.obj [(key, result)]))

/-- `{"success": True, "result": result}`, the answer of the action tools. -/
def successAnswer (result : Json) : Except Exn Answer :=
  .ok (dumpJsonCapped (.obj [("success", .bool true), ("result", result)]))

/-! ### Page sizes -/

theorem pageSize_pos {limit : Option Int} (nonneg : ∀ n ∈ limit, 0 ≤ n) : 1 ≤ pageSize limit := by
  unfold pageSize MAX_PAGE_SIZE
  cases limit with
  | none => decide
  | some n =>
      have := nonneg n rfl
      by_cases zero : n = 0
      · simp [zero]
      · simp only [if_neg zero]
        omega

/-! ### What raises nothing -/

section Raising

variable {α β : Type}

/-- Nothing is raised. -/
def Succeeds (x : Except Exn α) : Prop := ∃ a, x = .ok a

@[simp] theorem succeeds_ok (a : α) : Succeeds (.ok a) := ⟨a, rfl⟩

@[simp] theorem not_succeeds_error (x : Exn) : ¬ Succeeds (.error x : Except Exn α) := nofun

theorem succeeds_bind_iff {x : Except Exn α} {f : α → Except Exn β} :
    Succeeds (x >>= f) ↔ ∃ a, x = .ok a ∧ Succeeds (f a) := by
  cases x with
  | error e => exact iff_of_false (not_succeeds_error e) fun ⟨_, raised, _⟩ => nomatch raised
  | ok a =>
      constructor
      · intro done
        exact ⟨a, rfl, done⟩
      · rintro ⟨_, same, done⟩
        cases same
        exact done

theorem succeeds_map_iff {x : Except Exn α} {g : α → β} :
    Succeeds (x >>= fun a => .ok (g a)) ↔ Succeeds x := by
  rw [succeeds_bind_iff]
  exact exists_congr fun a => and_iff_left (succeeds_ok (g a))

/-- A list is filtered exactly when the test raises on none of its rows. -/
theorem filterRows_succeeds_iff {keep : Json → Except Exn Bool} {rows : List Json} :
    Succeeds (filterRows keep rows) ↔ ∀ row ∈ rows, Succeeds (keep row) := by
  induction rows with
  | nil => exact iff_of_true (succeeds_ok []) nofun
  | cons row rest ih =>
      rw [List.forall_mem_cons, ← ih, filterRows, succeeds_bind_iff]
      simp only [succeeds_map_iff]
      exact exists_and_right

/-- A test that raises on none of the rows filters them as its values say. -/
theorem filterRows_of_total {keep : Json → Except Exn Bool} {test : Json → Bool}
    {rows : List Json} (total : ∀ row ∈ rows, keep row = .ok (test row)) :
    filterRows keep rows = .ok (rows.filter test) := by
  induction rows with
  | nil => rfl
  | cons row rest ih =>
      rw [List.forall_mem_cons] at total
      rw [filterRows, total.1, ih total.2, List.filter_cons]
      rfl

end Raising

/-! ### Against a serving upstream -/

/-- Against an upstream that serves every request, a tool answers from what its
own request is served. -/
theorem answering_request (py : PyText) (client : NinjaOneClient) (method path : String)
    (params : Option (List (String × Json))) (json_body : Option Json) {upstream : Upstream}
    {serve : ClientRequest → Json} (serves : Serves upstream serve)
    (answer : Json → Except Exn Answer) :
    ((client.request py method path params json_body upstream).answering answer).result =
      answer (serve (client.clientRequest method path params json_body)) := by
  simp only [Traced.answering, request_carried py client method path params json_body serves]

end NinjaOne
