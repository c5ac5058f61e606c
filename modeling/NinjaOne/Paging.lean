import NinjaOne.Lib.Keyset
import NinjaOne.Tools.Devices
import NinjaOne.Tools.Organizations

/-!
Paging through the list tools: `ninjaone_get_organizations`,
`ninjaone_get_devices` and `ninjaone_get_organization_devices`.

Upstream holds a `Listing`, rows with strictly increasing integer ids, and
serves keyset pages of it. The caller reads each answer back and goes on after
the highest id shown while the answer is marked truncated or shows a full page.

Two things can shorten what a page shows: the end of the list, and the size cap.
The cap drops a suffix (`field_capped_key`), so the highest id shown is where the
next page has to start, and it keeps at least one row as soon as one row with
its markers fits (`one_le_shownCount`), so every truncated page makes progress.
Together: `listing_traversed`.
-/

namespace NinjaOne

/-! ### The endpoint -/

/-- The id a row is sorted and paged by. -/
def rowId (row : Json) : Int := ((row.field "id").asInt).getD 0

/-- What the list endpoint holds. -/
structure Listing where
  rows : List Json
  ids : ∀ row ∈ rows, ∃ n, row.field "id" = .int n
  increasing : Keyset.Increasing rowId rows

/-- An integer query parameter of a request. -/
def ClientRequest.intParam (req : ClientRequest) (name : String) : Option Int :=
  (req.params.lookup name).bind Json.asInt

/-- The endpoint: the first `pageSize` rows with an id above `after`. -/
def listEndpoint (rows : List Json) (req : ClientRequest) : Json :=
  .arr (Keyset.page rowId rows ((req.intParam "pageSize").getD 0).toNat (req.intParam "after"))

/-! ### The tools -/

/-- The three tools that page by id. -/
inductive ListTool where
  | organizations
  | devices (df : Option String)
  | organizationDevices (organization_id : Int)

/-- The key the rows are returned under. -/
def ListTool.key : ListTool → String
  | .organizations => "organizations"
  | .devices _ => "devices"
  | .organizationDevices _ => "devices"

def ListTool.run (tool : ListTool) (py : PyText) (client : Option NinjaOneClient)
    (limit after : Option Int) (upstream : Upstream) : ToolRun :=
  match tool with
  | .organizations => ninjaoneGetOrganizations py client limit after upstream
  | .devices df => ninjaoneGetDevices py client df limit after upstream
  | .organizationDevices organization_id =>
      ninjaoneGetOrganizationDevices py client organization_id limit after upstream

/-! ### The caller -/

/-- The value the caller reads back from a tool's answer. -/
def Traced.value (run : ToolRun) : Json :=
  match run.result with
  | .ok answer => answer.value
  | .error _ => .null

/-- The rows an answer shows under `key`. -/
def shownRows (key : String) (value : Json) : List Json :=
  match value.field key with
  | .arr rows => rows
  | _ => []

/-- The highest id among the rows shown. -/
def highestId (rows : List Json) : Option Int :=
  (rows.filterMap fun row => (row.field "id").asInt).max?

/-- Where the caller goes on: after the highest id shown, while the answer is
marked truncated or shows a full page. -/
def nextAfter (key : String) (page_size : Int) (value : Json) : Option (Option Int) :=
  if (value.field "truncated").truthy ∨ ((shownRows key value).length : Int) = page_size then
    some (highestId (shownRows key value))
  else none

/-- The wrapper a truncated page of `count` rows leaves around a single row. -/
def singleRowPage (key : String) (row : Json) (count : Nat) : Json :=
  .obj [(key, .arr [row]), ("truncated", .bool true), ("truncated_field", .str key),
    ("original_count", .int count)]

/-! ### What a page shows -/

theorem ListTool.key_cases (tool : ListTool) : tool.key = "organizations" ∨ tool.key = "devices" := by
  cases tool with
  | organizations => exact Or.inl rfl
  | devices df => exact Or.inr rfl
  | organizationDevices organization_id => exact Or.inr rfl

/-- Each tool answers with the endpoint's page, size-capped. -/
theorem ListTool.run_result (tool : ListTool) (py : PyText) (client : NinjaOneClient)
    (limit after : Option Int) {rows : List Json} {upstream : Upstream}
    (serves : Serves upstream (listEndpoint rows)) :
    (tool.run py (some client) limit after upstream).result = .ok (dumpJsonCapped (.obj
      [(tool.key, .arr (Keyset.page rowId rows (pageSize limit).toNat after))])) := by
  have params : ∀ (path : String) (extra : List (String × Json)),
      cleanParams (some extra) = [] ∨ (∃ df, cleanParams (some extra) = [("df", .str df)]) →
      listEndpoint rows (client.clientRequest "GET" path (some (extra ++
        [("pageSize", .int (pageSize limit)), ("after", .ofInt? after)])) none) =
      .arr (Keyset.page rowId rows (pageSize limit).toNat after) := by
    intro path extra clean
    have split : cleanParams (some (extra ++ [("pageSize", .int (pageSize limit)),
        ("after", .ofInt? after)])) = cleanParams (some extra) ++
          cleanParams (some [("pageSize", .int (pageSize limit)), ("after", .ofInt? after)]) :=
      List.filter_append _ _
    unfold listEndpoint ClientRequest.intParam NinjaOneClient.clientRequest
    simp only [split]
    rcases clean with none | ⟨df, one⟩
    · rw [none]
      cases after <;> rfl
    · rw [one]
      cases after <;> rfl
  cases tool with
  | organizations =>
      have := params "/api/v2/organizations" [] (Or.inl rfl)
      rw [List.nil_append] at this
      simp only [ListTool.run, ninjaoneGetOrganizations, withClient, NinjaOneClient.get,
        answering_request py client _ _ _ _ serves, this, ListTool.key]
  | devices df =>
      have := params "/api/v2/devices" [("df", .ofStr? df)] (by
        cases df with
        | none => exact Or.inl rfl
        | some df => exact Or.inr ⟨df, rfl⟩)
      rw [List.singleton_append] at this
      simp only [ListTool.run, ninjaoneGetDevices, withClient, NinjaOneClient.get,
        answering_request py client _ _ _ _ serves, this, ListTool.key]
  | organizationDevices organization_id =>
      have := params ("/api/v2/organization/" ++ toString organization_id ++ "/devices") []
        (Or.inl rfl)
      rw [List.nil_append] at this
      simp only [ListTool.run, ninjaoneGetOrganizationDevices, withClient, NinjaOneClient.get,
        answering_request py client _ _ _ _ serves, this, ListTool.key]

section Page

variable {key : String} (items : List Json)

/-- Facts about the object the tools wrap a page in. -/
structure PageKey (key : String) : Prop where
  ordinary : key ∉ markers
  empty_fits : size (.obj [(key, .arr [])]) ≤ MAX_CHARS

theorem ListTool.pageKey (tool : ListTool) : PageKey tool.key := by
  rcases tool.key_cases with eq | eq
  · rw [eq]
    exact ⟨by decide, by decide⟩
  · rw [eq]
    exact ⟨by decide, by decide⟩

theorem listKeys_page : listKeys [(key, Json.arr items)] = [key] := rfl

theorem getField_page : getField [(key, Json.arr items)] key = .arr items := by
  simp [getField]

theorem markers_not_mem_page (page : PageKey key) :
    ∀ m ∈ markers, m ∉ [(key, Json.arr items)].map Prod.fst := by
  intro m mem here
  have same : m = key := List.mem_singleton.mp here
  exact page.ordinary (same ▸ mem)

theorem getField_page_truncated (page : PageKey key) :
    getField [(key, Json.arr items)] "truncated" = .null := by
  have ne : "truncated" ≠ key := fun eq => page.ordinary (eq ▸ (by decide))
  simp only [getField, Dict.lookup_cons_if, if_neg ne, List.lookup_nil, Option.getD_none]

/-- How many rows a tool's answer shows of a page it fetched. -/
def shownCount (key : String) (items : List Json) : Nat :=
  keptCount [(key, .arr items)] key items MAX_CHARS

/-- A page that is too long still shows a row, once one row with its markers
fits. -/
theorem one_le_shownCount {items : List Json} (page : PageKey key) {row : Json} {rest : List Json}
    (eq : items = row :: rest) (fits : size (singleRowPage key row items.length) ≤ MAX_CHARS) :
    1 ≤ shownCount key items := by
  unfold shownCount keptCount
  split
  · rw [eq, List.length_cons]
    omega
  · refine longestPrefix_max (truncatedField_growing _ _ _) ?_ ?_
    · rw [eq, List.length_cons]
      omega
    · have single : truncatedField [(key, .arr items)] key items 1 =
          singleRowPage key row items.length := by
        rw [truncatedField_eq (markers_not_mem_page items page) (getField_page items), eq]
        simp only [setField, Dict.assign, singleRowPage, List.take_succ_cons, List.take_zero,
          if_true, List.cons_append, List.nil_append]
      rw [single]
      exact Int.ofNat_le.mpr fits

theorem shownCount_le : shownCount key items ≤ items.length := keptCount_le

/-- A page after which the caller goes on shows a row. -/
theorem shownCount_pos {items : List Json} (page : PageKey key) {page_size : Int}
    (pos : 1 ≤ page_size)
    (small : ∀ row ∈ items, size (singleRowPage key row items.length) ≤ MAX_CHARS)
    (goes_on : shownCount key items ≠ items.length ∨ (shownCount key items : Int) = page_size) :
    0 < shownCount key items := by
  rcases goes_on with cut | full
  · cases rows : items with
    | nil =>
        rw [rows] at cut
        exact absurd (Nat.le_zero.mp (shownCount_le [])) cut
    | cons row rest =>
        have first := small row (rows ▸ List.mem_cons_self)
        exact rows ▸ one_le_shownCount page rows first
  · omega

/-- The caller sees a prefix of the page. -/
theorem shownRows_capped (page : PageKey key) :
    shownRows key (dumpJsonCapped (.obj [(key, .arr items)])).value =
      items.take (shownCount key items) := by
  simp only [shownRows, field_capped_key (listKeys_page items) (getField_page items)
    page.ordinary, shownCount]

/-- The caller goes on when a row of the page is missing or the page is full. -/
theorem nextAfter_capped (page : PageKey key) (page_size : Int) :
    nextAfter key page_size (dumpJsonCapped (.obj [(key, .arr items)])).value =
      if shownCount key items ≠ items.length ∨ (shownCount key items : Int) = page_size then
        some (highestId (items.take (shownCount key items)))
      else none := by
  have whole : shownCount key items = items.length ↔
      (size (.obj [(key, .arr items)]) : Int) ≤ MAX_CHARS := by
    refine keptCount_eq_length_iff (markers_not_mem_page items page) (getField_page items) ?_
    intro none
    rw [none]
    exact Int.ofNat_le.mpr page.empty_fits
  have mark : ((dumpJsonCapped (.obj [(key, .arr items)])).value.field "truncated").truthy = true ↔
      shownCount key items ≠ items.length := by
    rw [field_capped_truncated (listKeys_page items) (getField_page items)
      (getField_page_truncated items page), ne_eq, whole]
    split
    · rename_i fits
      exact iff_of_false Bool.false_ne_true (not_not_intro fits)
    · rename_i tooLong
      exact iff_of_true rfl tooLong
  have length : (items.take (shownCount key items)).length = shownCount key items := by
    rw [List.length_take, Nat.min_eq_left (shownCount_le items)]
  simp only [nextAfter, shownRows_capped items page, mark, length]

end Page

/-! ### The traversal -/

/-- The highest id of a prefix of rows in increasing id order is its last one. -/
theorem highestId_eq {rows : List Json} (ids : ∀ row ∈ rows, ∃ n, row.field "id" = .int n)
    (inc : Keyset.Increasing rowId rows) {last : Json} (ends : rows.getLast? = some last) :
    highestId rows = some (rowId last) := by
  have read : rows.filterMap (fun row => (row.field "id").asInt) = rows.map rowId := by
    rw [← List.filterMap_eq_map]
    refine List.filterMap_congr fun row mem => ?_
    obtain ⟨n, id⟩ := ids row mem
    simp [rowId, id, Json.asInt]
  rw [highestId, read, List.max?_eq_some_iff]
  refine ⟨List.mem_map.mpr ⟨last, List.mem_of_getLast? ends, rfl⟩, fun n mem => ?_⟩
  obtain ⟨row, here, rfl⟩ := List.mem_map.mp mem
  exact Keyset.le_last_of_increasing inc ends here

/-- Going on after the highest id of a non-empty prefix of what was left leaves
the rest of it. -/
theorem remaining_highestId (listing : Listing) (after : Option Int) {k : Nat} (pos : 0 < k)
    (le : k ≤ (Keyset.remaining rowId listing.rows after).length) :
    Keyset.remaining rowId listing.rows
        (highestId ((Keyset.remaining rowId listing.rows after).take k)) =
      (Keyset.remaining rowId listing.rows after).drop k := by
  have suffix := Keyset.remaining_suffix listing.increasing after
  have inc := Keyset.remaining_increasing listing.increasing after
  cases ends : ((Keyset.remaining rowId listing.rows after).take k).getLast? with
  | none =>
      rw [List.getLast?_eq_none_iff, List.take_eq_nil_iff] at ends
      rcases ends with zero | nil
      · exact absurd zero (Nat.ne_of_gt pos)
      · rw [nil, List.length_nil] at le
        exact absurd le (Nat.not_le.mpr pos)
  | some last =>
      have ids : ∀ row ∈ (Keyset.remaining rowId listing.rows after).take k,
          ∃ n, row.field "id" = .int n := by
        intro row mem
        exact listing.ids row (suffix.subset (List.mem_of_mem_take mem))
      rw [highestId_eq ids (List.Pairwise.sublist (List.take_sublist k _) inc) ends]
      exact Keyset.remaining_after listing.increasing ends

/-- **Paging by the highest id shown reads the whole list**, for each of the
three tools: the traversal ends, and its pages put together are the upstream
list, each row once and in order, whatever the size cap cuts. -/
theorem listing_traversed (py : PyText) (client : NinjaOneClient) (tool : ListTool)
    (limit : Option Int) (nonneg : ∀ n ∈ limit, 0 ≤ n) (listing : Listing)
    (small : ∀ row ∈ listing.rows, ∀ count : Nat, (count : Int) ≤ pageSize limit →
      count ≤ listing.rows.length → size (singleRowPage tool.key row count) ≤ MAX_CHARS)
    {upstream : Upstream} (serves : Serves upstream (listEndpoint listing.rows)) :
    ∃ cursors, Keyset.Visits (fun after => nextAfter tool.key (pageSize limit)
        (tool.run py (some client) limit after upstream).value) none cursors ∧
      cursors.flatMap (fun after => shownRows tool.key
        (tool.run py (some client) limit after upstream).value) = listing.rows := by
  have pos := pageSize_pos nonneg
  have key := tool.pageKey
  refine Keyset.visits_of_progress _ (Keyset.remaining rowId listing.rows) _ (fun after => ?_) none
  -- One page: what is fetched, and how much of it is shown.
  have value : (tool.run py (some client) limit after upstream).value = (dumpJsonCapped (.obj
      [(tool.key, .arr (Keyset.page rowId listing.rows (pageSize limit).toNat after))])).value := by
    rw [Traced.value, tool.run_result py client limit after serves]
  have shows := shownRows_capped (Keyset.page rowId listing.rows (pageSize limit).toNat after) key
  have goes_on := nextAfter_capped
    (Keyset.page rowId listing.rows (pageSize limit).toNat after) key (pageSize limit)
  rw [← value] at shows goes_on
  have suffix := Keyset.remaining_suffix listing.increasing after
  have leaves := fun k => @remaining_highestId listing after k
  have cut_le := @shownCount_le tool.key
    (Keyset.page rowId listing.rows (pageSize limit).toNat after)
  have small_page : ∀ row ∈ Keyset.page rowId listing.rows (pageSize limit).toNat after,
      size (singleRowPage tool.key row
        (Keyset.page rowId listing.rows (pageSize limit).toNat after).length) ≤ MAX_CHARS := by
    intro row mem
    refine small row (suffix.subset (List.mem_of_mem_take mem)) _ ?_ ?_
    · rw [Keyset.page, List.length_take]
      omega
    · exact (List.length_take_le' _ _).trans suffix.length_le
  have shows_some := shownCount_pos key pos small_page
  generalize shownCount tool.key (Keyset.page rowId listing.rows (pageSize limit).toNat after) =
    kept at *
  unfold Keyset.page at *
  by_cases more : kept ≠ ((Keyset.remaining rowId listing.rows after).take
      (pageSize limit).toNat).length ∨ (kept : Int) = pageSize limit
  · rw [if_pos more] at goes_on
    have shows_one := shows_some more
    have short : kept ≤ (pageSize limit).toNat := cut_le.trans (List.length_take_le _ _)
    have within := cut_le.trans (List.length_take_le' _ _)
    rw [List.take_take, Nat.min_eq_left short] at shows goes_on
    exact Keyset.Progress.more goes_on shows_one within shows (leaves kept shows_one within)
  · rw [if_neg more] at goes_on
    rw [not_or, not_not] at more
    obtain ⟨all, partial_page⟩ := more
    refine Keyset.Progress.stop goes_on (shows.trans ?_)
    rw [all, List.take_length]
    refine List.take_of_length_le ?_
    rw [List.length_take] at all
    omega

/-- Two organizations. -/
def twoOrganizations : Listing where
  rows := [.obj [("id", .int 3), ("name", .str "Contoso")],
    .obj [("id", .int 8), ("name", .str "Fabrikam")]]
  ids := by
    intro row mem
    rcases List.mem_pair.mp mem with rfl | rfl
    · exact ⟨3, rfl⟩
    · exact ⟨8, rfl⟩
  increasing := by
    unfold Keyset.Increasing
    decide

theorem twoOrganizations_small : ∀ row ∈ twoOrganizations.rows, ∀ count : Nat,
    (count : Int) ≤ pageSize (some 1) → count ≤ twoOrganizations.rows.length →
    size (singleRowPage ListTool.organizations.key row count) ≤ MAX_CHARS := by
  intro row mem count one _
  have page : pageSize (some 1) = 1 := rfl
  have few : count = 0 ∨ count = 1 := by omega
  rcases List.mem_pair.mp mem with rfl | rfl
  · rcases few with rfl | rfl <;> decide +kernel
  · rcases few with rfl | rfl <;> decide +kernel

/-- Read one at a time. -/
theorem twoOrganizations_traversed :
    ∃ cursors, Keyset.Visits (fun after => nextAfter "organizations" 1
        ((ListTool.organizations).run .ascii (some (.init "t" "https://app.ninjarmm.com"))
          (some 1) after (answering (listEndpoint twoOrganizations.rows))).value) none cursors ∧
      cursors.flatMap (fun after => shownRows "organizations"
        ((ListTool.organizations).run .ascii (some (.init "t" "https://app.ninjarmm.com"))
          (some 1) after (answering (listEndpoint twoOrganizations.rows))).value) =
      twoOrganizations.rows :=
  listing_traversed .ascii (.init "t" "https://app.ninjarmm.com") .organizations (some 1)
    (by decide) twoOrganizations twoOrganizations_small (serves_answering _)

end NinjaOne
