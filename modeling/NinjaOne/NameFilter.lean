import NinjaOne.Shapes

/-!
What the filters by name keep.

`_filter_by_name` goes by the text of each item's `name` (`filterByName_arr`).
`_filter_named_lists` decides list by list whether to filter at all: only a list
of objects that all have a `name` is filtered (`filterNamedLists_object`). That
is a filter by entry exactly when `filterNamedLists_by_entry_iff` says so.
-/

namespace NinjaOne

/-! ### One item -/

/-- The text contains the filter, whatever the case of either. -/
def textContains (py : PyText) (name_filter text : String) : Bool :=
  decide ((py.lower name_filter).toList <:+: (py.lower text).toList)

/-- The text of the item's `name` contains the filter. -/
def nameContains (py : PyText) (name_filter : String) (item : Json) : Bool :=
  match item with
  | .obj fields => textContains py name_filter (strJson py ((fields.lookup "name").getD (.str "")))
  | _ => false

/-- An object with a `name`. -/
def hasName (item : Json) : Bool :=
  match item with
  | .obj fields => (fields.lookup "name").isSome
  | _ => false

theorem isObject_of_hasName {item : Json} (named : hasName item) : IsObject item := by
  cases item with
  | obj fields => exact ⟨fields, rfl⟩
  | _ => cases named

section Filters

variable (py : PyText) {name_filter : String}

theorem nameMatches_of_isObject {item : Json} (object : IsObject item) :
    nameMatches py (py.lower name_filter) item = .ok (nameContains py name_filter item) := by
  obtain ⟨fields, rfl⟩ := object
  rfl

/-- `_filter_by_name` keeps the items whose name contains the filter. -/
theorem filterByName_arr (filtering : name_filter ≠ "") {items : List Json}
    (objects : ∀ item ∈ items, IsObject item) :
    filterByName py (.arr items) (some name_filter) =
      .ok (.arr (items.filter (nameContains py name_filter))) := by
  have filtered : ¬ Unfiltered (some name_filter) := filtering
  have kept := filterRows_of_total fun item mem =>
    @nameMatches_of_isObject py name_filter item (objects item mem)
  unfold filterByName
  rw [if_neg filtered]
  change (filterRows (nameMatches py (py.lower name_filter)) items >>= fun kept =>
    Except.ok (Json.arr kept)) = _
  rw [kept]
  rfl

/-! ### The named lists -/

/-- What the filter leaves of a top-level value: of a list whose items all have a
name, those that contain the filter; of anything else, everything. -/
def keptValue (py : PyText) (name_filter : String) (value : Json) : Json :=
  match value with
  | .arr items =>
      if items.all hasName then .arr (items.filter (nameContains py name_filter)) else value
  | _ => value

/-- The list is filtered if it is a named one, and stays as it is otherwise. -/
theorem filterByName_of_named (filtering : name_filter ≠ "") {value : Json}
    (named : isNamedList value) :
    filterByName py value (some name_filter) = .ok (keptValue py name_filter value) := by
  cases value with
  | arr items =>
      have all : items.all hasName := (Bool.and_eq_true_iff.mp named).2
      have objects : ∀ item ∈ items, IsObject item := by
        intro item mem
        exact isObject_of_hasName (List.all_eq_true.mp all item mem)
      rw [filterByName_arr py filtering objects, keptValue, if_pos all]
  | _ => cases named

theorem keptValue_of_not_named {value : Json} (unnamed : ¬ isNamedList value) :
    keptValue py name_filter value = value := by
  cases value with
  | arr items =>
      by_cases all : items.all hasName
      · cases items with
        | nil => rfl
        | cons item rest => exact absurd (Bool.and_eq_true_iff.mpr ⟨rfl, all⟩) unnamed
      · rw [keptValue, if_neg all]
  | _ => rfl

/-- The loop: `done` are the fields it has been through, `rest` those to come. -/
theorem filterFields_run (filtering : name_filter ≠ "") (rest done : List (String × Json))
    (nodup : ((done ++ rest).map Prod.fst).Nodup) :
    filterFields py (some name_filter) rest
        (done.map (fun field => (field.1, keptValue py name_filter field.2)) ++ rest) =
      .ok ((done ++ rest).map fun field => (field.1, keptValue py name_filter field.2)) := by
  induction rest generalizing done with
  | nil => rw [List.append_nil, List.append_nil, filterFields]
  | cons field rest ih =>
      obtain ⟨key, value⟩ := field
      have onward := ih (done ++ [(key, value)]) (by rwa [List.append_assoc])
      rw [List.append_assoc, List.singleton_append, List.map_append, List.append_assoc,
        List.map_singleton, List.singleton_append] at onward
      unfold filterFields
      by_cases named : isNamedList value
      · have first : key ∉ (done.map fun field =>
            (field.1, keptValue py name_filter field.2)).map Prod.fst := by
          rw [List.map_map]
          rw [List.map_append, List.nodup_append] at nodup
          exact fun mem => nodup.2.2 key mem key List.mem_cons_self rfl
        rw [if_pos named, filterByName_of_named py filtering named]
        have assigned := @Dict.assign_append_of_not_mem _ _ _ key
          (keptValue py name_filter value) _ value rest first
        exact (congrArg _ assigned).trans onward
      · rw [if_neg named]
        rw [keptValue_of_not_named py named] at onward
        exact onward

/-- **The named lists are filtered by name, and nothing else is**: field by field,
in the order of the object. -/
theorem filterNamedLists_object (filtering : name_filter ≠ "") (data : Dict String Json) :
    filterNamedLists py (.obj data.entries) (some name_filter) =
      .ok (.obj (data.entries.map fun field => (field.1, keptValue py name_filter field.2))) := by
  have filtered : ¬ Unfiltered (some name_filter) := filtering
  have run : filterFields py (some name_filter) data.entries data.entries = _ :=
    filterFields_run py filtering data.entries [] data.nodup
  unfold filterNamedLists
  rw [if_neg filtered]
  change (filterFields py (some name_filter) data.entries data.entries >>= fun filtered =>
    Except.ok (Json.obj filtered)) = _
  rw [run]
  rfl

/-! ### Entry by entry -/

/-- An entry with a string for a name stays if that contains the filter; any other
entry stays. -/
def keepsEntry (py : PyText) (name_filter : String) (item : Json) : Bool :=
  match item.field "name" with
  | .str name => textContains py name_filter name
  | _ => true

/-- What a filter by entry would leave of a top-level value. -/
def entryValue (py : PyText) (name_filter : String) (value : Json) : Json :=
  match value with
  | .arr items => .arr (items.filter (keepsEntry py name_filter))
  | _ => value

theorem keepsEntry_of_nameContains {item : Json} (has : nameContains py name_filter item) :
    keepsEntry py name_filter item := by
  cases item with
  | obj fields =>
      unfold keepsEntry
      split
      · rename_i name found
        have lookup : (fields.lookup "name").getD (.str "") = .str name := by
          rw [Json.field, getField] at found
          cases entry : fields.lookup "name" with
          | none =>
              rw [entry] at found
              cases found
          | some value =>
              rw [entry] at found
              exact found
        rw [nameContains, lookup] at has
        exact has
      · rfl
  | _ => cases has

theorem filter_eq_filter_iff {α : Type} {p q : α → Bool} {l : List α} :
    l.filter p = l.filter q ↔ ∀ x ∈ l, p x = q x := by
  constructor
  · intro same x mem
    have kept : x ∈ l.filter p ↔ x ∈ l.filter q := by rw [same]
    rw [List.mem_filter, List.mem_filter, and_iff_right mem, and_iff_right mem] at kept
    exact Bool.eq_iff_iff.mpr kept
  · exact List.filter_congr

theorem keptValue_eq_entryValue_iff (items : List Json) :
    keptValue py name_filter (.arr items) = entryValue py name_filter (.arr items) ↔
      (items.all hasName → ∀ item ∈ items, keepsEntry py name_filter item →
        nameContains py name_filter item) ∧
      (¬ items.all hasName → ∀ item ∈ items, keepsEntry py name_filter item) := by
  rw [keptValue, entryValue]
  by_cases all : items.all hasName
  · rw [if_pos all, Json.arr.injEq, filter_eq_filter_iff,
      and_iff_left (fun some_not => absurd all some_not)]
    constructor
    · intro same _ item mem keeps
      rw [same item mem]
      exact keeps
    · intro agree item mem
      exact Bool.eq_iff_iff.mpr ⟨keepsEntry_of_nameContains py, agree all item mem⟩
  · rw [if_neg all, Json.arr.injEq, and_iff_right (fun named => absurd named all),
      eq_comm, List.filter_eq_self]
    exact ⟨fun every _ => every, fun every => every all⟩

/-- Filtering list by list is filtering entry by entry when an unnamed entry shares
its list with matching ones only, and a name that is no string reads like a match. -/
theorem filterNamedLists_by_entry_iff (filtering : name_filter ≠ "") (data : Dict String Json) :
    filterNamedLists py (.obj data.entries) (some name_filter) =
        .ok (.obj (data.entries.map fun field => (field.1, entryValue py name_filter field.2))) ↔
      ∀ field ∈ data.entries, ∀ items, field.2 = .arr items →
        (items.all hasName → ∀ item ∈ items, keepsEntry py name_filter item →
          nameContains py name_filter item) ∧
        (¬ items.all hasName → ∀ item ∈ items, keepsEntry py name_filter item) := by
  rw [filterNamedLists_object py filtering, Except.ok.injEq, Json.obj.injEq, List.map_inj_left]
  refine forall_congr' fun field => forall_congr' fun mem => ?_
  rw [Prod.mk.injEq, and_iff_right rfl]
  cases value : field.2 with
  | arr items =>
      rw [keptValue_eq_entryValue_iff py items]
      constructor
      · intro agree items' same
        cases same
        exact agree
      · intro agree
        exact agree items rfl
  | _ => exact iff_of_true rfl nofun

end Filters

/-! ### Two devices -/

theorem lower_ascii (s : String) : (PyText.ascii.lower s).toList = s.toList.map Char.toLower :=
  String.toList_map

theorem textContains_ascii (name_filter text : String) :
    textContains .ascii name_filter text =
      decide (name_filter.toList.map Char.toLower <:+: text.toList.map Char.toLower) := by
  rw [textContains, lower_ascii, lower_ascii]

/-- A device with two scripts and a run-as option. -/
def twoScripts : Dict String Json where
  entries := [("scripts", .arr [.obj [("name", .str "Disk Cleanup")],
    .obj [("name", .str "Reboot")]]), ("runAs", .arr [.str "system"])]
  nodup := by decide

theorem twoScripts_filtered : filterNamedLists .ascii (.obj twoScripts.entries) (some "BOOT") =
    .ok (.obj [("scripts", .arr [.obj [("name", .str "Reboot")]]),
      ("runAs", .arr [.str "system"])]) := by
  have miss : textContains .ascii "BOOT" "Disk Cleanup" = false := by
    rw [textContains_ascii]
    decide
  have hit : textContains .ascii "BOOT" "Reboot" = true := by
    rw [textContains_ascii]
    decide
  have none_kept : nameContains .ascii "BOOT" (.obj [("name", .str "Disk Cleanup")]) = false := miss
  have one_kept : nameContains .ascii "BOOT" (.obj [("name", .str "Reboot")]) = true := hit
  rw [filterNamedLists_object .ascii (by decide) twoScripts]
  have scripts : keptValue .ascii "BOOT" (.arr [.obj [("name", .str "Disk Cleanup")],
      .obj [("name", .str "Reboot")]]) = .arr [.obj [("name", .str "Reboot")]] := by
    change Json.arr (List.filter _ _) = _
    rw [List.filter_cons_of_neg (by rw [none_kept]; exact Bool.false_ne_true),
      List.filter_cons_of_pos one_kept, List.filter_nil]
  simp only [twoScripts, List.map_cons, List.map_nil, scripts]
  rfl

/-- A device with a script that has no name. -/
def unnamedScript : Dict String Json where
  entries := [("scripts", .arr [.obj [("name", .str "Disk Cleanup")], .obj [("id", .int 1)]])]
  nodup := by decide

/-- Next to an entry without a name, an entry that does not match stays. -/
theorem unnamedScript_unfiltered : ¬ ∀ (py : PyText) (name_filter : String)
    (data : Dict String Json), name_filter ≠ "" →
    filterNamedLists py (.obj data.entries) (some name_filter) =
      .ok (.obj (data.entries.map fun field => (field.1, entryValue py name_filter field.2))) := by
  intro all
  have filtered := all .ascii "boot" unnamedScript (by decide)
  have miss : textContains .ascii "boot" "Disk Cleanup" = false := by
    rw [textContains_ascii]
    decide
  have whole : filterNamedLists .ascii (.obj unnamedScript.entries) (some "boot") =
      .ok (.obj unnamedScript.entries) := rfl
  have first : keepsEntry .ascii "boot" (.obj [("name", .str "Disk Cleanup")]) = false := miss
  rw [whole] at filtered
  have entries : entryValue .ascii "boot" (.arr [.obj [("name", .str "Disk Cleanup")],
      .obj [("id", .int 1)]]) = .arr [.obj [("id", .int 1)]] := by
    rw [entryValue, List.filter_cons_of_neg (by rw [first]; exact Bool.false_ne_true)]
    rfl
  simp only [unnamedScript, List.map_cons, List.map_nil, entries, Except.ok.injEq,
    Json.obj.injEq, Json.arr.injEq, List.cons.injEq, Prod.mk.injEq, reduceCtorEq, and_false,
    false_and] at filtered

end NinjaOne
