import NinjaOne.Tools.Common

/-!
`tools/devices.py` and `tools/alerts.py`: devices, what is known of one, rebooting
it, and alerts.
-/

namespace NinjaOne

def ninjaoneGetDevices (py : PyText) (client : Option NinjaOneClient) (df : Option String)
    (limit after : Option Int) (upstream : Upstream) : ToolRun :=
  withClient client fun client =>
    (client.get py "/api/v2/devices"
      (some [("df", .ofStr? df), ("pageSize", .int (pageSize limit)), ("after", .ofInt? after)])
      upstream).answering
      fun result => .ok (dumpJsonCapped (.obj [("devices", result)]))

def ninjaoneGetDevice (py : PyText) (client : Option NinjaOneClient) (device_id : Int) :
    Upstream → ToolRun :=
  fetchPlain py client ("/api/v2/device/" ++ toString device_id)

def ninjaoneGetDeviceAlerts (py : PyText) (client : Option NinjaOneClient) (device_id : Int) :
    Upstream → ToolRun :=
  fetchUnder py client ("/api/v2/device/" ++ toString device_id ++ "/alerts") none "alerts"

/-- `max(10, min(limit or 200, 1000))`: zero counts as omitted. -/
def activitiesPageSize (limit : Option Int) : Int :=
  max 10 (min (match limit with
    | none => 200
    | some n => if n = 0 then 200 else n) 1000)

def ninjaoneGetDeviceActivities (py : PyText) (client : Option NinjaOneClient) (device_id : Int)
    (activity_type status : Option String) (older_than newer_than limit : Option Int) :
    Upstream → ToolRun :=
  fetchUnder py client ("/api/v2/device/" ++ toString device_id ++ "/activities")
    (some [("activityType", .ofStr? activity_type), ("status", .ofStr? status),
      ("olderThan", .ofInt? older_than), ("newerThan", .ofInt? newer_than),
      ("pageSize", .int (activitiesPageSize limit))]) "activities"

def ninjaoneGetDeviceServices (py : PyText) (client : Option NinjaOneClient) (device_id : Int)
    (name state : Option String) : Upstream → ToolRun :=
  fetchUnder py client ("/api/v2/device/" ++ toString device_id ++ "/windows-services")
    (some [("name", .ofStr? name), ("state", .ofStr? state)]) "services"

def ninjaoneRebootDevice (py : PyText) (client : Option NinjaOneClient) (device_id : Int)
    (mode : String) (reason : Option String) (upstream : Upstream) : ToolRun :=
  withClient client fun client =>
    (client.post py ("/api/v2/device/" ++ toString device_id ++ "/reboot/" ++ mode)
      (some (.obj (optField "reason" (.ofStr? reason)))) none upstream).answering successAnswer

def ninjaoneGetAlerts (py : PyText) (client : Option NinjaOneClient)
    (source_type df : Option String) : Upstream → ToolRun :=
  fetchUnder py client "/api/v2/alerts"
    (some [("sourceType", .ofStr? source_type), ("df", .ofStr? df)]) "alerts"

def ninjaoneResetAlert (py : PyText) (client : Option NinjaOneClient) (alert_uid : String)
    (activity_note : Option String) (upstream : Upstream) : ToolRun :=
  withClient client fun client =>
    (client.post py ("/api/v2/alert/" ++ alert_uid ++ "/reset")
      (some (.obj (optField "note" (.ofStr? activity_note)))) none upstream).answering
      successAnswer

end NinjaOne
