import NinjaOne.Shapes

/-!
Whether a field that is not in the answer is not configured.

* `custom_fields_answered`: an object is shown with all its fields, or replaced
  by the notice that it is too large; never in part. Only a body without fields
  is called one, as far as it is null, an object or not JSON at all.
* `custom_fields_shown_iff`: the size cap and the answer for everything that is
  not an object are what a caller who relies on a missing field has to rule out.
-/

namespace NinjaOne

/-- The JSON value a successful response carries; an empty body counts as null. -/
def Response.jsonBody (resp : Response) : Option Json :=
  if resp.content = [] then some .null
  else
    match resp.json with
    | .value data => some data
    | _ => none

/-- Null, the empty object and the empty list. -/
def Json.NoEntry (data : Json) : Prop :=
  match data with
  | .null => True
  | .obj fields => fields = []
  | .arr items => items = []
  | _ => False

/-- The answer shows the field with its value. -/
def Answer.ShowsField (answer : Answer) (key : String) (value : Json) : Prop :=
  ∃ shown, answer.value.field "fields" = .obj shown ∧ shown.lookup key = some value

/-- The answer for an organization without custom fields. -/
def noneConfigured : Answer :=
  ⟨.obj [("fields", .obj []),
    ("note", .str "no custom fields configured for this organization")]⟩

/-- What a caller needs to fall back on a missing field: every field the response
has is shown, and only a response without any is called one. -/
structure Answer.OmitsNothing (answer : Answer) (resp : Response) : Prop where
  shown : ∀ fields, resp.jsonBody = some (.obj fields) →
    ∀ key value, fields.lookup key = some value → answer.ShowsField key value
  none_configured : answer = noneConfigured → ∃ data, resp.jsonBody = some data ∧ data.NoEntry

/-- The responses without entries, those with an object that fits under the cap,
and those whose text is not JSON. -/
def Response.FieldsFit (resp : Response) : Prop :=
  match resp.jsonBody with
  | some data => data.NoEntry ∨ IsObject data ∧ size (.obj [("fields", data)]) ≤ MAX_CHARS
  | none => resp.json ≠ .recursionError

/-! ### The answer for a parsed body -/

/-- What the tool makes of the parsed body. -/
def customFieldsAnswer (data : Json) : Answer :=
  match data with
  | .obj (field :: rest) => dumpJsonCapped (.obj [("fields", .obj (field :: rest))])
  | _ => noneConfigured

theorem customFields_result (py : PyText) (client : NinjaOneClient) (organization_id : Int)
    {upstream : Upstream} {resp : Response}
    (out : upstream (lastAttempt upstream (client.clientRequest "GET"
        ("/api/v2/organization/" ++ toString organization_id ++ "/custom-fields") none none))
      (client.clientRequest "GET"
        ("/api/v2/organization/" ++ toString organization_id ++ "/custom-fields") none none) =
      .response resp)
    (below : resp.status_code < 400) :
    (ninjaoneGetOrganizationCustomFields py (some client) organization_id upstream).result =
      parseBody resp >>= fun data => .ok (customFieldsAnswer data) := by
  unfold ninjaoneGetOrganizationCustomFields withClient NinjaOneClient.get
  dsimp only
  rw [answering_below py client _ _ _ _ out below]
  congr 1
  funext data
  have short : size noneConfigured.value ≤ MAX_CHARS := by decide
  have capped := dumpJsonCapped_of_le (Int.ofNat_le.mpr short)
  cases data with
  | obj fields =>
      cases fields with
      | nil => exact congrArg Except.ok capped
      | cons field rest => rfl
  | _ => exact congrArg Except.ok capped

theorem capped_fields_tooLarge {fields : List (String × Json)}
    (tooLong : ¬ size (.obj [("fields", .obj fields)]) ≤ MAX_CHARS) :
    dumpJsonCapped (.obj [("fields", .obj fields)]) =
      ⟨tooLarge (size (.obj [("fields", .obj fields)]))⟩ := by
  have exceeds : ¬ (size (.obj [("fields", .obj fields)]) : Int) ≤ MAX_CHARS :=
    fun le => tooLong (Int.ofNat_le.mp le)
  unfold dumpJsonCapped
  rw [if_neg exceeds]
  rfl

/-- An object that does not fit comes back without any of its fields. -/
theorem field_capped_fields (fields : List (String × Json)) :
    (dumpJsonCapped (.obj [("fields", .obj fields)])).value.field "fields" =
      if size (.obj [("fields", .obj fields)]) ≤ MAX_CHARS then .obj fields else .null := by
  by_cases fits : size (.obj [("fields", .obj fields)]) ≤ MAX_CHARS
  · rw [dumpJsonCapped_of_le (Int.ofNat_le.mpr fits), if_pos fits]
    rfl
  · rw [capped_fields_tooLarge fits, if_neg fits]
    rfl

theorem customFieldsAnswer_of_noEntry {data : Json} (empty : data.NoEntry) :
    customFieldsAnswer data = noneConfigured := by
  cases data with
  | obj fields =>
      obtain rfl : fields = [] := empty
      rfl
  | _ => rfl

/-- Objects are shown as they are, if they fit. -/
theorem customFieldsAnswer_shows (fields : List (String × Json))
    (fits : size (.obj [("fields", .obj fields)]) ≤ MAX_CHARS) (key : String) (value : Json) :
    (customFieldsAnswer (.obj fields)).ShowsField key value ↔ fields.lookup key = some value := by
  have shown : (customFieldsAnswer (.obj fields)).value.field "fields" = .obj fields := by
    cases fields with
    | nil => rfl
    | cons field rest => exact (field_capped_fields (field :: rest)).trans (if_pos fits)
  constructor
  · rintro ⟨_, same, found⟩
    cases shown.symm.trans same
    exact found
  · intro found
    exact ⟨fields, shown, found⟩

theorem customFieldsAnswer_tooLarge (fields : List (String × Json))
    (tooLong : MAX_CHARS < size (.obj [("fields", .obj fields)])) :
    customFieldsAnswer (.obj fields) = ⟨tooLarge (size (.obj [("fields", .obj fields)]))⟩ := by
  cases fields with
  | nil => exact absurd tooLong (by decide)
  | cons field rest => exact capped_fields_tooLarge (Nat.not_le.mpr tooLong)

theorem capped_ne_noneConfigured (field : String × Json) (rest : List (String × Json)) :
    dumpJsonCapped (.obj [("fields", .obj (field :: rest))]) ≠ noneConfigured := by
  intro same
  have shown := field_capped_fields (field :: rest)
  rw [same] at shown
  split at shown
  · cases shown
  · cases shown

theorem noEntry_of_denied {data : Json} (denied : customFieldsAnswer data = noneConfigured) :
    IsObject data → data.NoEntry := by
  rintro ⟨fields, rfl⟩
  cases fields with
  | nil => exact rfl
  | cons field rest => exact absurd denied (capped_ne_noneConfigured field rest)

section Body

variable {resp : Response}

theorem noneConfigured_omitsNothing_iff {data : Json} (body : resp.jsonBody = some data) :
    noneConfigured.OmitsNothing resp ↔ data.NoEntry := by
  constructor
  · intro omits
    obtain ⟨data', same, empty⟩ := omits.none_configured rfl
    cases body.symm.trans same
    exact empty
  · intro empty
    refine ⟨?_, fun _ => ⟨data, body, empty⟩⟩
    intro fields same key value found
    cases body.symm.trans same
    obtain rfl : fields = [] := empty
    cases found

theorem capped_omitsNothing_iff {field : String × Json} {rest : List (String × Json)}
    (body : resp.jsonBody = some (.obj (field :: rest))) :
    (dumpJsonCapped (.obj [("fields", .obj (field :: rest))])).OmitsNothing resp ↔
      size (.obj [("fields", .obj (field :: rest))]) ≤ MAX_CHARS := by
  have shown := field_capped_fields (field :: rest)
  constructor
  · intro omits
    by_contra tooLong
    have first : (field :: rest).lookup field.1 = some field.2 := by
      rw [List.lookup_cons_self]
    obtain ⟨_, same, _⟩ := omits.shown _ body field.1 field.2 first
    rw [shown, if_neg tooLong] at same
    cases same
  · intro fits
    rw [if_pos fits] at shown
    refine ⟨?_, fun same => absurd same (capped_ne_noneConfigured field rest)⟩
    intro fields same key value found
    cases body.symm.trans same
    exact ⟨_, shown, found⟩

/-- The answer to a JSON body. -/
theorem answer_omitsNothing_iff {data : Json} (body : resp.jsonBody = some data) :
    (customFieldsAnswer data).OmitsNothing resp ↔
      data.NoEntry ∨ IsObject data ∧ size (.obj [("fields", data)]) ≤ MAX_CHARS := by
  by_cases object : ∃ field rest, data = .obj (field :: rest)
  · obtain ⟨field, rest, rfl⟩ := object
    have some_entry : ¬ (Json.obj (field :: rest)).NoEntry := List.cons_ne_nil field rest
    rw [or_iff_right some_entry, and_iff_right ⟨_, rfl⟩]
    exact capped_omitsNothing_iff body
  · have empty : IsObject data → data.NoEntry := by
      rintro ⟨fields, rfl⟩
      cases fields with
      | nil => exact rfl
      | cons field rest => exact absurd ⟨field, rest, rfl⟩ object
    have denied : customFieldsAnswer data = noneConfigured := by
      unfold customFieldsAnswer
      split
      · exact absurd ⟨_, _, rfl⟩ object
      · rfl
    rw [denied, noneConfigured_omitsNothing_iff body, or_iff_left_of_imp fun both => empty both.1]

/-- The answer to a text that is not JSON is about that text. -/
theorem rawText_omitsNothing (text : String) (body : resp.jsonBody = none) :
    (customFieldsAnswer (.obj [("raw_response", .str text)])).OmitsNothing resp := by
  refine ⟨?_, fun same => absurd same (capped_ne_noneConfigured ("raw_response", .str text) [])⟩
  intro fields same
  cases body.symm.trans same

end Body

theorem parseBody_of_jsonBody {resp : Response} {data : Json} (body : resp.jsonBody = some data) :
    parseBody resp = .ok data := by
  unfold Response.jsonBody at body
  unfold parseBody
  split at body
  · rename_i empty
    cases body
    rw [if_pos empty]
  · rename_i content
    rw [if_neg content]
    split at body
    · rename_i json
      cases body
      rw [json]
    · cases body

/-- A body that is not JSON comes back as text, or raises. -/
theorem parseBody_of_not_json {resp : Response} (body : resp.jsonBody = none) :
    resp.json = .recursionError ∧ parseBody resp = .error .recursionError ∨
      resp.json = .valueError ∧
        parseBody resp = .ok (.obj [("raw_response", .str resp.text)]) := by
  unfold Response.jsonBody at body
  unfold parseBody
  split at body
  · cases body
  · rename_i content
    rw [if_neg content]
    cases json : resp.json with
    | value data =>
        rw [json] at body
        cases body
    | valueError => exact Or.inr ⟨rfl, rfl⟩
    | recursionError => exact Or.inl ⟨rfl, rfl⟩

/-- **A field missing from the answer is not configured** exactly for the responses
without entries, for objects that fit under the cap, and for texts that are not
JSON. -/
theorem custom_fields_shown_iff (py : PyText) (client : NinjaOneClient) (organization_id : Int)
    {upstream : Upstream} {resp : Response}
    (out : upstream (lastAttempt upstream (client.clientRequest "GET"
        ("/api/v2/organization/" ++ toString organization_id ++ "/custom-fields") none none))
      (client.clientRequest "GET"
        ("/api/v2/organization/" ++ toString organization_id ++ "/custom-fields") none none) =
      .response resp)
    (below : resp.status_code < 400) :
    (∃ answer, (ninjaoneGetOrganizationCustomFields py (some client) organization_id
        upstream).result = .ok answer ∧ answer.OmitsNothing resp) ↔ resp.FieldsFit := by
  rw [customFields_result py client organization_id out below]
  unfold Response.FieldsFit
  cases body : resp.jsonBody with
  | some data =>
      rw [parseBody_of_jsonBody body]
      dsimp only
      rw [← answer_omitsNothing_iff body]
      constructor
      · rintro ⟨answer, same, omits⟩
        cases same
        exact omits
      · intro omits
        exact ⟨_, rfl, omits⟩
  | none =>
      rcases parseBody_of_not_json body with ⟨json, parsed⟩ | ⟨json, parsed⟩
      · rw [parsed, json]
        exact iff_of_false (fun ⟨_, raised, _⟩ => by cases raised) fun spared => spared rfl
      · rw [parsed, json]
        exact iff_of_true ⟨_, rfl, rawText_omitsNothing resp.text body⟩ nofun

section Answered

variable (py : PyText) (client : NinjaOneClient) (organization_id : Int) {upstream : Upstream}
  {resp : Response}

/-- **Custom fields are shown all or not at all.** An object that fits is shown
field by field, a longer one is replaced by a notice; null, the empty object and
the empty list are answered with the note, and no object with fields and no text
that is not JSON ever is. -/
theorem custom_fields_answered
    (out : upstream (lastAttempt upstream (client.clientRequest "GET"
        ("/api/v2/organization/" ++ toString organization_id ++ "/custom-fields") none none))
      (client.clientRequest "GET"
        ("/api/v2/organization/" ++ toString organization_id ++ "/custom-fields") none none) =
      .response resp)
    (below : resp.status_code < 400) :
    (∀ fields, resp.jsonBody = some (.obj fields) → ∃ answer,
      (ninjaoneGetOrganizationCustomFields py (some client) organization_id upstream).result =
        .ok answer ∧
      (size (.obj [("fields", .obj fields)]) ≤ MAX_CHARS →
        ∀ key value, answer.ShowsField key value ↔ fields.lookup key = some value) ∧
      (MAX_CHARS < size (.obj [("fields", .obj fields)]) →
        answer = ⟨tooLarge (size (.obj [("fields", .obj fields)]))⟩)) ∧
    (∀ data, resp.jsonBody = some data → data.NoEntry →
      (ninjaoneGetOrganizationCustomFields py (some client) organization_id upstream).result =
        .ok noneConfigured) ∧
    ((ninjaoneGetOrganizationCustomFields py (some client) organization_id upstream).result =
        .ok noneConfigured →
      ∃ data, resp.jsonBody = some data ∧ (IsObject data → data.NoEntry)) := by
  rw [customFields_result py client organization_id out below]
  refine ⟨?_, ?_, ?_⟩
  · intro fields body
    rw [parseBody_of_jsonBody body]
    exact ⟨_, rfl, customFieldsAnswer_shows fields, customFieldsAnswer_tooLarge fields⟩
  · intro data body empty
    rw [parseBody_of_jsonBody body]
    exact congrArg Except.ok (customFieldsAnswer_of_noEntry empty)
  · intro denied
    cases body : resp.jsonBody with
    | some data =>
        rw [parseBody_of_jsonBody body] at denied
        exact ⟨data, rfl, noEntry_of_denied (Except.ok.inj denied)⟩
    | none =>
        rcases parseBody_of_not_json body with ⟨_, parsed⟩ | ⟨_, parsed⟩
        · rw [parsed] at denied
          cases denied
        · rw [parsed] at denied
          exact absurd (Except.ok.inj denied)
            (capped_ne_noneConfigured ("raw_response", .str resp.text) [])

end Answered

/-- One field configured. -/
theorem runAsUser_shown : ∃ answer, (ninjaoneGetOrganizationCustomFields .ascii
      (some (.init "t" "https://app.ninjarmm.com")) 5 fun _ _ => .response ⟨200, [], [0x7B],
        .value (.obj [("ninja_run_as_user", .str "CONTOSO\\svc-rewst")]), ""⟩).result = .ok answer ∧
    answer.ShowsField "ninja_run_as_user" (.str "CONTOSO\\svc-rewst") := by
  obtain ⟨shown, _⟩ := @custom_fields_answered .ascii (.init "t" "https://app.ninjarmm.com") 5
    (fun _ _ => .response ⟨200, [], [0x7B],
      .value (.obj [("ninja_run_as_user", .str "CONTOSO\\svc-rewst")]), ""⟩) _ rfl (by decide)
  obtain ⟨answer, answered, shows, _⟩ := shown _ rfl
  exact ⟨answer, answered, (shows (by decide) _ _).mpr rfl⟩

/-- An organization with a run-as user and a note. -/
def notedOrganization (note : String) : Response :=
  ⟨200, [], [0x7B], .value (.obj [("ninja_run_as_user", .str "system"), ("notes", .str note)]), ""⟩

theorem notedOrganization_omits {note : String} (long : MAX_CHARS ≤ note.length) :
    ¬ (customFieldsAnswer (.obj [("ninja_run_as_user", .str "system"),
      ("notes", .str note)])).OmitsNothing (notedOrganization note) := by
  intro omits
  have fits : size (.obj [("fields", .obj [("ninja_run_as_user", .str "system"),
      ("notes", .str note)])]) ≤ MAX_CHARS := (capped_omitsNothing_iff rfl).mp omits
  have whole := @size_le_size_obj [("fields", .obj [("ninja_run_as_user", .str "system"),
    ("notes", .str note)])] _ _ List.mem_cons_self
  have field := @size_le_size_obj [("ninja_run_as_user", .str "system"), ("notes", .str note)] _ _
    (List.mem_cons_of_mem _ List.mem_cons_self)
  have text := length_lt_size_str note
  omega

/-- A field too long for the cap takes the others with it. -/
theorem longField_omitted : ¬ ∀ (py : PyText) (client : NinjaOneClient) (organization_id : Int)
    (upstream : Upstream) (resp : Response),
    upstream (lastAttempt upstream (client.clientRequest "GET"
        ("/api/v2/organization/" ++ toString organization_id ++ "/custom-fields") none none))
      (client.clientRequest "GET"
        ("/api/v2/organization/" ++ toString organization_id ++ "/custom-fields") none none) =
      .response resp →
    resp.status_code < 400 →
    ∃ answer, (ninjaoneGetOrganizationCustomFields py (some client) organization_id
      upstream).result = .ok answer ∧ answer.OmitsNothing resp := by
  intro all
  have hidden : ∀ note : String, ¬ MAX_CHARS ≤ note.length := by
    intro note long
    have below : (notedOrganization note).status_code < 400 := by
      change (200 : Int) < 400
      decide
    obtain ⟨answer, answered, omits⟩ := all .ascii (.init "t" "https://app.ninjarmm.com") 5
      (fun _ _ => .response (notedOrganization note)) _ rfl below
    rw [customFields_result .ascii _ 5 rfl below] at answered
    obtain rfl := Except.ok.inj answered
    exact notedOrganization_omits long omits
  refine hidden (String.ofList (List.replicate 20001 'a')) ?_
  rw [String.length_ofList, List.length_replicate]
  decide

end NinjaOne
