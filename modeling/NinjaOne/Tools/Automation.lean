import Mathlib.Data.List.Infix
import NinjaOne.Tools.Common

/-!
`tools/automation.py`: finding scripts and built-in actions by name, running them
on a device, and the jobs that run.

The two listing tools filter by name after the fetch, on whatever came back:
`for item in items`, `item.get` and `dict(data)` raise on the values they are not
made for.
-/

namespace NinjaOne

/-- `not name_filter`: omitted, or empty. -/
abbrev Unfiltered (name_filter : Option String) : Prop := name_filter.getD "" = ""

/-- `needle in str(item.get("name", "")).lower()`. -/
def nameMatches (py : PyText) (needle : String) (item : Json) : Except Exn Bool :=
  match item with
  | .obj fields =>
      let name := (fields.lookup "name").getD (.str "")
      .ok (decide (needle.toList <:+: (py.lower (strJson py name)).toList))
  | _ => .error .attributeError

/-- `_filter_by_name`. -/
def filterByName (py : PyText) (items : Json) (name_filter : Option String) : Except Exn Json :=
  if Unfiltered name_filter then .ok items
  else do
    let needle := py.lower (name_filter.getD "")
    let kept ← filterRows (nameMatches py needle) (← items.iter)
    .ok (.arr kept)

/-- A list that is not empty and holds objects with a `name` only. -/
def isNamedList (value : Json) : Bool :=
  match value with
  | .arr items =>
      !items.isEmpty && items.all fun item =>
        match item with
        | .obj fields => (fields.lookup "name").isSome
        | _ => false
  | _ => false

/-- The loop of `_filter_named_lists` over the fields still to look at. -/
def filterFields (py : PyText) (name_filter : Option String) :
    List (String × Json) → List (String × Json) → Except Exn (List (String × Json))
  | [], filtered => .ok filtered
  | (key, value) :: rest, filtered =>
      if isNamedList value then do
        let kept ← filterByName py value name_filter
        filterFields py name_filter rest (setField key kept filtered)
      else filterFields py name_filter rest filtered

/-- What `dict(elements)` makes of one element: it has to be a pair with a key that
can be hashed. -/
def dictElement (element : Json) : Except Exn Unit := do
  match ← element.iter with
  | [.arr _, _] => .error .typeError
  | [.obj _, _] => .error .typeError
  | [_, _] => .ok ()
  | _ => .error .valueError

/-- `_filter_named_lists`. -/
def filterNamedLists (py : PyText) (data : Json) (name_filter : Option String) :
    Except Exn Json :=
  if Unfiltered name_filter then .ok data
  else
    match data with
    | .obj fields => do
        let filtered ← filterFields py name_filter fields fields
        .ok (.obj filtered)
    | data => do
        -- `dict(data)` may succeed, on a list of pairs; `data.items()` never does.
        (← data.iter).forM dictElement
        .error .attributeError

def ninjaoneGetAutomationScripts (py : PyText) (client : Option NinjaOneClient)
    (name_filter : Option String) (limit after : Option Int) (upstream : Upstream) : ToolRun :=
  withClient client fun client =>
    let params :=
      if limit.isSome ∨ after.isSome then
        some [("pageSize", Json.ofInt? (limit.map fun n => min n MAX_PAGE_SIZE)),
          ("after", .ofInt? after)]
      else none
    (client.get py "/api/v2/automation/scripts" params upstream).answering fun result => do
      let result ← filterByName py result name_filter
      .ok (dumpJsonCapped (.obj [("scripts", result)]))

def ninjaoneGetDeviceScriptingOptions (py : PyText) (client : Option NinjaOneClient)
    (device_id : Int) (name_filter : Option String) (upstream : Upstream) : ToolRun :=
  withClient client fun client =>
    (client.get py ("/api/v2/device/" ++ toString device_id ++ "/scripting/options") none
      upstream).answering fun result => do
        let result ← filterNamedLists py result name_filter
        .ok (dumpJsonCapped result)

def ninjaoneRunScriptOnDevice (py : PyText) (client : Option NinjaOneClient) (device_id : Int)
    (type : String) (script_id : Option Int) (action_uid parameters run_as : Option String)
    (upstream : Upstream) : ToolRun :=
  withClient client fun client =>
    let body :=
      [("type", Json.str type)] ++ optField "id" (.ofInt? script_id) ++
        optField "uid" (.ofStr? action_uid) ++ optField "parameters" (.ofStr? parameters) ++
        optField "runAs" (.ofStr? run_as)
    (client.post py ("/api/v2/device/" ++ toString device_id ++ "/script/run")
      (some (.obj body)) none upstream).answering successAnswer

def ninjaoneGetActiveJobs (py : PyText) (client : Option NinjaOneClient)
    (job_type df : Option String) : Upstream → ToolRun :=
  fetchUnder py client "/api/v2/jobs"
    (some [("jobType", .ofStr? job_type), ("df", .ofStr? df)]) "jobs"

def ninjaoneGetDeviceActiveJobs (py : PyText) (client : Option NinjaOneClient) (device_id : Int) :
    Upstream → ToolRun :=
  fetchUnder py client ("/api/v2/device/" ++ toString device_id ++ "/jobs") none "jobs"

end NinjaOne
