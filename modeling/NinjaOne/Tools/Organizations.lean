import NinjaOne.Tools.Common

/-!
`tools/organizations.py`: organizations, creating one, and the locations, the
custom fields and the devices of one.
-/

namespace NinjaOne

def ninjaoneGetOrganizations (py : PyText) (client : Option NinjaOneClient)
    (limit after : Option Int) (upstream : Upstream) : ToolRun :=
  withClient client fun client =>
    (client.get py "/api/v2/organizations"
      (some [("pageSize", .int (pageSize limit)), ("after", .ofInt? after)]) upstream).answering
      fun result => .ok (dumpJsonCapped (.obj [("organizations", result)]))

def ninjaoneGetOrganization (py : PyText) (client : Option NinjaOneClient)
    (organization_id : Int) : Upstream → ToolRun :=
  fetchPlain py client ("/api/v2/organization/" ++ toString organization_id)

def ninjaoneCreateOrganization (py : PyText) (client : Option NinjaOneClient) (name : String)
    (description node_approval_mode : Option String) (tags : Option (List String))
    (template_organization_id : Option Int) (upstream : Upstream) : ToolRun :=
  withClient client fun client =>
    let body :=
      [("name", Json.str name)] ++ optField "description" (.ofStr? description) ++
        optField "nodeApprovalMode" (.ofStr? node_approval_mode) ++
        optField "tags" (match tags with
          | none => .null
          | some tags => .arr (tags.map .str))
    (client.post py "/api/v2/organizations" (some (.obj body))
      (some [("templateOrganizationId", .ofInt? template_organization_id)]) upstream).answering
      fun result => .ok (dumpJsonCapped result)

def ninjaoneGetOrganizationLocations (py : PyText) (client : Option NinjaOneClient)
    (organization_id : Int) : Upstream → ToolRun :=
  fetchUnder py client ("/api/v2/organization/" ++ toString organization_id ++ "/locations") none
    "locations"

def ninjaoneGetOrganizationCustomFields (py : PyText) (client : Option NinjaOneClient)
    (organization_id : Int) (upstream : Upstream) : ToolRun :=
  withClient client fun client =>
    (client.get py ("/api/v2/organization/" ++ toString organization_id ++ "/custom-fields")
      none upstream).answering fun result =>
        let fields :=
          match result with
          | .obj fields => fields
          | _ => []
        if fields.isEmpty then
          .ok (dumpJsonCapped (.obj [("fields", .obj []),
            ("note", .str "no custom fields configured for this organization")]))
        else .ok (dumpJsonCapped (.obj [("fields", .obj fields)]))

def ninjaoneGetOrganizationDevices (py : PyText) (client : Option NinjaOneClient)
    (organization_id : Int) (limit after : Option Int) (upstream : Upstream) : ToolRun :=
  withClient client fun client =>
    (client.get py ("/api/v2/organization/" ++ toString organization_id ++ "/devices")
      (some [("pageSize", .int (pageSize limit)), ("after", .ofInt? after)]) upstream).answering
      fun result => .ok (dumpJsonCapped (.obj [("devices", result)]))

end NinjaOne
