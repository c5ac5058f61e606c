import NinjaOne.NameFilter
import NinjaOne.Paging

/-!
Looking for scripts by name, page by page.

The endpoint pages before the tool filters: the last script shown need not be the
last one of its page, and a page without a match looks like the end of the list.
`scripts_found_iff` says for which lists a caller still finds every match.
-/

namespace NinjaOne

/-! ### The caller -/

/-- What a caller passes with every page: a filter, and a limit the tool takes as
it is. -/
structure ScriptSearch where
  name_filter : String
  filtering : name_filter ≠ ""
  limit : Int
  one_le_limit : 1 ≤ limit
  limit_le : limit ≤ MAX_PAGE_SIZE

/-- Where the caller goes on: after the last script shown, until none is. -/
def nextScript (value : Json) : Option (Option Int) :=
  (shownRows "scripts" value).getLast?.map fun row => some (rowId row)

namespace ScriptSearch

variable (search : ScriptSearch) (py : PyText) (client : NinjaOneClient)

/-- The scripts that the caller looks for. -/
def matching (row : Json) : Bool := nameContains py search.name_filter row

/-- What the caller reads back from the call with `after`. -/
def value (upstream : Upstream) (after : Option Int) : Json :=
  (ninjaoneGetAutomationScripts py (some client) (some search.name_filter) (some search.limit)
    after upstream).value

/-- The search ends, and has shown every script whose name contains the filter. -/
def FindsAll (upstream : Upstream) (listing : Listing) : Prop :=
  ∃ cursors, Keyset.Visits (fun after => nextScript (search.value py client upstream after)) none
      cursors ∧
    ∀ row ∈ listing.rows, search.matching py row →
      row ∈ cursors.flatMap fun after => shownRows "scripts" (search.value py client upstream after)

end ScriptSearch

/-! ### One page -/

theorem Listing.isObject (listing : Listing) {row : Json} (mem : row ∈ listing.rows) :
    IsObject row := by
  obtain ⟨n, id⟩ := listing.ids row mem
  cases row with
  | obj fields => exact ⟨fields, rfl⟩
  | _ => cases id

section Page

variable (search : ScriptSearch) (py : PyText) (client : NinjaOneClient) (listing : Listing)

/-- The request asks the endpoint for the page it means. -/
theorem listEndpoint_scripts (rows : List Json) (after : Option Int) :
    listEndpoint rows (client.clientRequest "GET" "/api/v2/automation/scripts"
      (some [("pageSize", .ofInt? ((some search.limit).map fun n => min n MAX_PAGE_SIZE)),
        ("after", .ofInt? after)]) none) =
      .arr (Keyset.page rowId rows search.limit.toNat after) := by
  have within : min search.limit MAX_PAGE_SIZE = search.limit := min_eq_left search.limit_le
  rw [Option.map_some, within]
  cases after <;> rfl

/-- The scripts of a page that contain the filter fit if all of them do. -/
theorem filteredPage_fits (after : Option Int)
    (fits : size (.obj [("scripts", .arr (listing.rows.filter (search.matching py)))]) ≤ MAX_CHARS) :
    size (.obj [("scripts", .arr (Keyset.filteredPage rowId listing.rows (search.matching py)
      search.limit.toNat after))]) ≤ MAX_CHARS := by
  have part : (Keyset.filteredPage rowId listing.rows (search.matching py) search.limit.toNat
      after).Sublist (listing.rows.filter (search.matching py)) :=
    ((List.take_sublist _ _).trans
      (Keyset.remaining_suffix listing.increasing after).sublist).filter _
  have smaller : NoLarger [("scripts", .arr (Keyset.filteredPage rowId listing.rows
      (search.matching py) search.limit.toNat after))]
      [("scripts", .arr (listing.rows.filter (search.matching py)))] :=
    .cons ⟨rfl, size_sublist_le part⟩ .nil
  exact Nat.le_trans (size_obj_mono smaller) fits

variable {listing} {upstream : Upstream} (serves : Serves upstream (listEndpoint listing.rows))
  (fits : size (.obj [("scripts", .arr (listing.rows.filter (search.matching py)))]) ≤ MAX_CHARS)

include serves fits

/-- A page is answered with its scripts that contain the filter. -/
theorem ScriptSearch.value_eq (after : Option Int) :
    search.value py client upstream after = .obj [("scripts", .arr (Keyset.filteredPage rowId
      listing.rows (search.matching py) search.limit.toNat after))] := by
  have objects : ∀ row ∈ Keyset.page rowId listing.rows search.limit.toNat after, IsObject row := by
    intro row mem
    exact listing.isObject ((Keyset.remaining_suffix listing.increasing after).subset
      (List.mem_of_mem_take mem))
  have paged : (some search.limit).isSome = true ∨ after.isSome = true := Or.inl rfl
  have filtered := filterByName_arr py search.filtering objects
  have capped := dumpJsonCapped_of_le (Int.ofNat_le.mpr (filteredPage_fits search py listing after
    fits))
  have answered : (ninjaoneGetAutomationScripts py (some client) (some search.name_filter)
      (some search.limit) after upstream).result = .ok ⟨.obj [("scripts", .arr
        (Keyset.filteredPage rowId listing.rows (search.matching py) search.limit.toNat
          after))]⟩ := by
    unfold ninjaoneGetAutomationScripts withClient NinjaOneClient.get
    dsimp only
    rw [if_pos paged, answering_request py client _ _ _ _ serves,
      listEndpoint_scripts search client, filtered]
    exact congrArg Except.ok capped
  rw [ScriptSearch.value, Traced.value, answered]

theorem ScriptSearch.shown_eq (after : Option Int) :
    shownRows "scripts" (search.value py client upstream after) =
      Keyset.filteredPage rowId listing.rows (search.matching py) search.limit.toNat after := by
  rw [search.value_eq py client serves fits after]
  rfl

theorem ScriptSearch.next_eq (after : Option Int) :
    nextScript (search.value py client upstream after) =
      Keyset.filteredNext rowId listing.rows (search.matching py) search.limit.toNat after := by
  rw [nextScript, search.shown_eq py client serves fits after, Keyset.filteredNext]

end Page

/-! ### The search -/

/-- **A filtered search finds every match** exactly when wherever `limit` scripts
come before a match, one of them is a match. -/
theorem scripts_found_iff (search : ScriptSearch) (py : PyText) (client : NinjaOneClient)
    (listing : Listing) {upstream : Upstream} (serves : Serves upstream (listEndpoint listing.rows))
    (fits : size (.obj [("scripts", .arr (listing.rows.filter (search.matching py)))]) ≤
      MAX_CHARS) :
    search.FindsAll py client upstream listing ↔
      Keyset.NoGap (search.matching py) search.limit.toNat listing.rows := by
  have next : (fun after => nextScript (search.value py client upstream after)) =
      Keyset.filteredNext rowId listing.rows (search.matching py) search.limit.toNat :=
    funext (search.next_eq py client serves fits)
  have shown : (fun after => shownRows "scripts" (search.value py client upstream after)) =
      Keyset.filteredPage rowId listing.rows (search.matching py) search.limit.toNat :=
    funext (search.shown_eq py client serves fits)
  obtain ⟨cursors, visits, found_iff⟩ :=
    @Keyset.filtered_traversal _ rowId listing.rows (search.matching py) search.limit.toNat
      listing.increasing none
  unfold ScriptSearch.FindsAll
  rw [next, shown]
  constructor
  · rintro ⟨cursors', visits', all⟩
    obtain rfl := visits.unique _ visits'
    exact found_iff.mp all
  · intro gapless
    exact ⟨cursors, visits, found_iff.mpr gapless⟩

/-! ### Two scripts -/

/-- Looking for a script to boot with, one script a page. -/
def bootSearch : ScriptSearch where
  name_filter := "boot"
  filtering := by decide
  limit := 1
  one_le_limit := by decide
  limit_le := by decide

def rebootScript (id : Int) : Json := .obj [("id", .int id), ("name", .str "Reboot")]

def cleanupScript (id : Int) : Json := .obj [("id", .int id), ("name", .str "Disk Cleanup")]

theorem bootSearch_matching (id : Int) : bootSearch.matching .ascii (rebootScript id) := by
  change textContains .ascii "boot" "Reboot" = true
  rw [textContains_ascii]
  decide

theorem bootSearch_not_matching (id : Int) :
    ¬ bootSearch.matching .ascii (cleanupScript id) := by
  change ¬ textContains .ascii "boot" "Disk Cleanup" = true
  rw [textContains_ascii]
  decide

/-- The match comes first. -/
def rebootFirst : Listing where
  rows := [rebootScript 1, cleanupScript 2]
  ids := by
    intro row mem
    rcases List.mem_pair.mp mem with rfl | rfl
    · exact ⟨1, rfl⟩
    · exact ⟨2, rfl⟩
  increasing := by
    unfold Keyset.Increasing
    decide

/-- The match comes last. -/
def rebootLast : Listing where
  rows := [cleanupScript 1, rebootScript 2]
  ids := by
    intro row mem
    rcases List.mem_pair.mp mem with rfl | rfl
    · exact ⟨1, rfl⟩
    · exact ⟨2, rfl⟩
  increasing := by
    unfold Keyset.Increasing
    decide

theorem reboot_fits (listing : Listing) (short : size (.obj [("scripts", .arr listing.rows)]) ≤
      MAX_CHARS) :
    size (.obj [("scripts", .arr (listing.rows.filter (bootSearch.matching .ascii)))]) ≤
      MAX_CHARS := by
  have smaller : NoLarger [("scripts", .arr (listing.rows.filter (bootSearch.matching .ascii)))]
      [("scripts", .arr listing.rows)] :=
    .cons ⟨rfl, size_sublist_le List.filter_sublist⟩ .nil
  exact Nat.le_trans (size_obj_mono smaller) short

theorem rebootFirst_found : bootSearch.FindsAll .ascii (.init "t" "https://app.ninjarmm.com")
    (answering (listEndpoint rebootFirst.rows)) rebootFirst := by
  refine (scripts_found_iff bootSearch .ascii (.init "t" "https://app.ninjarmm.com") rebootFirst
    (serves_answering _) (reboot_fits rebootFirst (by decide))).mpr ?_
  have first := @Keyset.noGap_append_cons_iff _ (bootSearch.matching .ascii) 1 []
    [cleanupScript 2] (rebootScript 1) (bootSearch_matching 1) Nat.one_pos
  refine first.mpr ((Keyset.noGap_iff_of_none ?_).mpr ?_)
  · intro row mem
    rw [List.mem_singleton.mp (List.mem_of_mem_take mem)]
    exact bootSearch_not_matching 2
  · intro row mem
    rw [List.mem_singleton.mp mem]
    exact bootSearch_not_matching 2

/-- A page without a match hides the match behind it. -/
theorem rebootLast_missed : ¬ ∀ (search : ScriptSearch) (py : PyText) (client : NinjaOneClient)
    (listing : Listing) (upstream : Upstream), Serves upstream (listEndpoint listing.rows) →
    size (.obj [("scripts", .arr (listing.rows.filter (search.matching py)))]) ≤ MAX_CHARS →
    search.FindsAll py client upstream listing := by
  intro all
  have serves := serves_answering (listEndpoint rebootLast.rows)
  have fits := reboot_fits rebootLast (by decide)
  obtain ⟨cursors, visits, found⟩ := all bootSearch .ascii (.init "t" "https://app.ninjarmm.com")
    rebootLast _ serves fits
  have page : Keyset.filteredPage rowId rebootLast.rows (bootSearch.matching .ascii) 1 none = [] := by
    refine List.filter_eq_nil_iff.mpr fun row mem => ?_
    rw [List.mem_singleton.mp mem]
    exact bootSearch_not_matching 1
  have shown := bootSearch.shown_eq .ascii (.init "t" "https://app.ninjarmm.com") serves fits none
  have ends : nextScript (bootSearch.value .ascii (.init "t" "https://app.ninjarmm.com")
      (answering (listEndpoint rebootLast.rows)) none) = none := by
    rw [nextScript, shown]
    exact congrArg (fun rows => (List.getLast? rows).map fun row => some (rowId row)) page
  obtain rfl := visits.unique _ (.stop ends)
  have missing := found (rebootScript 2) (List.mem_cons_of_mem _ List.mem_cons_self)
    (bootSearch_matching 2)
  rw [List.flatMap_singleton, shown] at missing
  exact List.not_mem_nil (page ▸ missing)

end NinjaOne
