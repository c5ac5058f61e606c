import NinjaOne.Lib.Bisect
import NinjaOne.Sizes
import Mathlib.Data.List.MinMax

/-!
`_json.py`: size-capped answers.

Every tool returns `_compact(v)` for some value `v`. An `Answer` keeps that
value, so that what a caller reads back and how long the returned string is are
both at hand. `dumpJsonCapped` returns the data itself when it fits in
`max_chars`; otherwise it shortens one list: the top-level one, or the value of
the first key whose list has the longest compact form.

* `longestPrefix_max`: the two bisections find the greatest prefix that fits.
* `answer_within_cap_iff`: the returned string is within the cap exactly when
  the data fits or what is left with the shortened list emptied fits. The cap is
  not unconditional: `longNote_over_cap`.
* `dumpJsonCapped_of_only`: what comes back for an object with one list, and
  `longestPrefix_lt_of_over`: an item is then really missing.
-/

namespace NinjaOne

def MAX_CHARS : Nat := 20000

/-- What a tool returns: the compact form of `value`. -/
structure Answer where
  value : Json

/-- The returned string. -/
def Answer.text (answer : Answer) : String := compact answer.value

/-- `error_envelope`. `message` is whatever the caller put there. -/
def errorEnvelope (code : String) (message : Json) (retryable : Bool) : Answer :=
  ⟨.obj [("error", .obj [("code", .str code), ("message", message),
    ("retryable", .bool retryable)])]⟩

/-- The candidate `_truncate_list` tries for `items[:k]`. -/
def wrappedItems (wrap_key : String) (items : List Json) (k : Nat) : Json :=
  .obj [(wrap_key, .arr (items.take k)), ("truncated", .bool true),
    ("original_count", .int items.length)]

/-- The candidate `dump_json_capped` tries for an object: a copy of `data` with
`items[:k]` at `key` and the three markers. -/
def truncatedField (data : List (String × Json)) (key : String) (items : List Json) (k : Nat) :
    Json :=
  .obj (setField "original_count" (.int items.length)
    (setField "truncated_field" (.str key)
      (setField "truncated" (.bool true) (setField key (.arr (items.take k)) data))))

/-- The bisection both functions run over their candidates. -/
def longestPrefix (candidate : Nat → Json) (max_chars : Int) (count : Nat) : Nat :=
  Bisect.bisect (fun mid => decide (size (candidate mid) ≤ max_chars)) 0 count

/-- `_truncate_list`. -/
def truncateList (items : List Json) (max_chars : Int) (wrap_key : String) : Answer :=
  ⟨wrappedItems wrap_key items (longestPrefix (wrappedItems wrap_key items) max_chars
    items.length)⟩

/-- `[k for k, v in data.items() if isinstance(v, list)]`. -/
def listKeys (data : List (String × Json)) : List String :=
  data.filterMap fun member =>
    match member.2 with
    | .arr _ => some member.1
    | _ => none

/-- `data[key]` where it is a list. -/
def listAt (data : List (String × Json)) (key : String) : List Json :=
  match getField data key with
  | .arr items => items
  | _ => []

/-- `max(list_keys, key=lambda k: len(_compact(data[k])))`. -/
def longestList (data : List (String × Json)) : Option String :=
  (listKeys data).argmax fun k => size (getField data k)

/-- The notice for data that no list can be cut from. -/
def tooLarge (length : Nat) : Json :=
  .obj [("truncated", .bool true),
    ("note", .str ("Result too large (" ++ toString length ++
      " chars) to return in full and not list-shaped; narrow your query."))]

def dumpJsonCapped (data : Json) (max_chars : Int := MAX_CHARS) : Answer :=
  let length := size data
  if length ≤ max_chars then ⟨data⟩
  else
    match data with
    | .arr items => truncateList items max_chars "items"
    | .obj fields =>
        match longestList fields with
        | some key =>
            let items := listAt fields key
            ⟨truncatedField fields key items
              (longestPrefix (truncatedField fields key items) max_chars items.length)⟩
        | none => ⟨tooLarge length⟩
    | _ => ⟨tooLarge length⟩

/-! ### The bisections -/

/-- Candidates that never get shorter as more items are kept. -/
def Growing (candidate : Nat → Json) : Prop :=
  ∀ i j, i ≤ j → size (candidate i) ≤ size (candidate j)

theorem wrappedItems_growing (wrap_key : String) (items : List Json) :
    Growing (wrappedItems wrap_key items) := by
  intro i j le
  exact size_obj_mono (.cons ⟨rfl, size_take_le items le⟩ (NoLarger.refl _))

theorem truncatedField_growing (data : List (String × Json)) (key : String)
    (items : List Json) : Growing (truncatedField data key items) := by
  intro i j le
  have lists : NoLarger (setField key (.arr (items.take i)) data)
      (setField key (.arr (items.take j)) data) :=
    (NoLarger.refl data).setField (size_take_le items le)
  exact size_obj_mono (((lists.setField le_rfl).setField le_rfl).setField le_rfl)

variable {candidate : Nat → Json} {max_chars : Int} {count : Nat}

theorem Growing.downClosed (grow : Growing candidate) :
    Bisect.DownClosed fun mid => decide (size (candidate mid) ≤ max_chars) := by
  intro i j le fits
  have := grow i j le
  simp only [decide_eq_true_eq] at fits ⊢
  omega

theorem longestPrefix_le : longestPrefix candidate max_chars count ≤ count :=
  (Bisect.bisect_mem_Icc (Nat.zero_le count)).2

/-- No longer prefix fits. -/
theorem longestPrefix_max (grow : Growing candidate) {j : Nat} (le : j ≤ count)
    (fits : size (candidate j) ≤ max_chars) : j ≤ longestPrefix candidate max_chars count :=
  Bisect.le_bisect grow.downClosed (decide_eq_true fits) le

/-- The candidate returned fits exactly when the one with nothing kept does. -/
theorem longestPrefix_fits_iff (grow : Growing candidate) :
    size (candidate (longestPrefix candidate max_chars count)) ≤ max_chars ↔
      size (candidate 0) ≤ max_chars := by
  have := Bisect.bisect_ok_iff (@Growing.downClosed candidate max_chars grow) (Nat.zero_le count)
  simpa only [decide_eq_true_eq, longestPrefix] using this

/-- When not even the whole list with its markers fits, an item is dropped. -/
theorem longestPrefix_lt (pos : 0 < count) (tooLong : max_chars < size (candidate count)) :
    longestPrefix candidate max_chars count < count :=
  Bisect.bisect_lt pos (decide_eq_false (Int.not_le.mpr tooLong))

/-! ### The cap -/

/-- What `dump_json_capped` would leave of over-long data if it cut the chosen
list down to nothing: the shortest form within its reach. -/
def emptied (data : Json) : Json :=
  match data with
  | .arr items => wrappedItems "items" items 0
  | .obj fields =>
      match longestList fields with
      | some key => truncatedField fields key (listAt fields key) 0
      | none => tooLarge (size data)
  | _ => tooLarge (size data)

theorem dumpJsonCapped_of_le {data : Json} (fits : size data ≤ max_chars) :
    dumpJsonCapped data max_chars = ⟨data⟩ := by
  simp only [dumpJsonCapped, if_pos fits]

/-- Over-long data comes back within the cap exactly when its emptied form does:
shrinking the chosen list is all the code can do. -/
theorem dumpJsonCapped_over_iff {data : Json} (tooLong : ¬ size data ≤ max_chars) :
    size (dumpJsonCapped data max_chars).value ≤ max_chars ↔
      size (emptied data) ≤ max_chars := by
  cases data with
  | arr items =>
      simp only [dumpJsonCapped, if_neg tooLong, truncateList, emptied]
      exact @longestPrefix_fits_iff (wrappedItems "items" items) _ _
        (wrappedItems_growing "items" items)
  | obj fields =>
      simp only [dumpJsonCapped, if_neg tooLong, emptied]
      cases longestList fields with
      | none => exact Iff.rfl
      | some key =>
          exact @longestPrefix_fits_iff (truncatedField fields key (listAt fields key)) _ _
            (truncatedField_growing fields key (listAt fields key))
  | _ => simp only [dumpJsonCapped, if_neg tooLong, emptied]

theorem dumpJsonCapped_length_le_iff (data : Json) :
    (dumpJsonCapped data max_chars).text.length ≤ max_chars ↔
      size data ≤ max_chars ∨ size (emptied data) ≤ max_chars := by
  change size (dumpJsonCapped data max_chars).value ≤ max_chars ↔ _
  by_cases fits : size data ≤ max_chars
  · simp only [dumpJsonCapped_of_le fits, fits, true_or]
  · rw [dumpJsonCapped_over_iff fits]
    simp only [fits, false_or]

/-- A device with an empty list of tags and a note: the tags are the list that
gets shortened, the note stays. -/
def notedDevice (note : String) : Json := .obj [("tags", .arr []), ("notes", .str note)]

theorem notedDevice_over_cap {note : String} (long : MAX_CHARS ≤ note.length) :
    ¬ (dumpJsonCapped (notedDevice note)).text.length ≤ MAX_CHARS := by
  have tooLong : ∀ fields, ("notes", Json.str note) ∈ fields → ¬ size (.obj fields) ≤ MAX_CHARS := by
    intro fields mem
    have whole := size_le_size_obj mem
    have text := length_lt_size_str note
    omega
  have cap := @dumpJsonCapped_length_le_iff MAX_CHARS (notedDevice note)
  rw [Int.ofNat_le, Int.ofNat_le, Int.ofNat_le] at cap
  rw [cap, not_or]
  refine ⟨tooLong _ (by simp), ?_⟩
  have chosen : longestList [("tags", .arr []), ("notes", .str note)] = some "tags" := rfl
  simp only [emptied, notedDevice, chosen]
  exact tooLong _ (by simp [Dict.assign])

/-- The keys `dump_json_capped` adds. -/
def markers : List String := ["truncated", "truncated_field", "original_count"]

theorem longestList_of_only {data : List (String × Json)} {key : String}
    (only : listKeys data = [key]) : longestList data = some key := by
  simp [longestList, only, List.argmax_singleton]

theorem listAt_of_getField {data : List (String × Json)} {key : String} {items : List Json}
    (at_key : getField data key = .arr items) : listAt data key = items := by
  simp only [listAt, at_key]

theorem dumpJsonCapped_of_only {data : List (String × Json)} {key : String}
    {items : List Json} (only : listKeys data = [key]) (at_key : getField data key = .arr items)
    (tooLong : ¬ size (.obj data) ≤ max_chars) :
    dumpJsonCapped (.obj data) max_chars = ⟨truncatedField data key items
      (longestPrefix (truncatedField data key items) max_chars items.length)⟩ := by
  simp only [dumpJsonCapped, if_neg tooLong, longestList_of_only only, listAt_of_getField at_key]

theorem lookup_of_getField_arr {data : List (String × Json)} {key : String}
    {items : List Json} (at_key : getField data key = .arr items) :
    data.lookup key = some (.arr items) := by
  unfold getField at at_key
  cases found : data.lookup key with
  | none => rw [found] at at_key; cases at_key
  | some v => rw [found] at at_key; exact congrArg some at_key

section OneList

variable {data : List (String × Json)} {key : String} {items : List Json}

/-- With none of the marker keys present, the markers go to the end and every
other field stays where it was. -/
theorem truncatedField_eq (fresh : ∀ m ∈ markers, m ∉ data.map Prod.fst)
    (at_key : getField data key = .arr items) (k : Nat) :
    truncatedField data key items k = .obj (setField key (.arr (items.take k)) data ++
      [("truncated", .bool true), ("truncated_field", .str key),
        ("original_count", .int items.length)]) := by
  have keys := Dict.keys_assign_of_mem (v := .arr (items.take k))
    (Dict.mem_keys_of_lookup (lookup_of_getField_arr at_key))
  have absent : ∀ m ∈ markers, m ∉ (setField key (.arr (items.take k)) data).map Prod.fst := by
    intro m mem
    rw [keys]
    exact fresh m mem
  have first := absent "truncated" (by simp [markers])
  have second := absent "truncated_field" (by simp [markers])
  have third := absent "original_count" (by simp [markers])
  unfold truncatedField setField at *
  rw [Dict.assign_of_not_mem first,
    Dict.assign_of_not_mem (k := "truncated_field") (by simpa using second),
    Dict.assign_of_not_mem (k := "original_count") (by simpa using third)]
  simp only [List.append_assoc, List.cons_append, List.nil_append]

/-- An object that is too long loses at least one item. -/
theorem longestPrefix_lt_of_over (fresh : ∀ m ∈ markers, m ∉ data.map Prod.fst)
    (at_key : getField data key = .arr items) (nonempty : items ≠ [])
    (tooLong : ¬ size (.obj data) ≤ max_chars) :
    longestPrefix (truncatedField data key items) max_chars items.length < items.length := by
  refine longestPrefix_lt (List.length_pos_iff.mpr nonempty) ?_
  rw [truncatedField_eq fresh at_key, List.take_length, setField,
    Dict.assign_same (lookup_of_getField_arr at_key)]
  have := size_obj_append data [("truncated", .bool true), ("truncated_field", .str key),
    ("original_count", .int items.length)]
  omega

/-! ### Reading an answer with one list back -/

/-- How many items of the list at `key` the answer shows. -/
def keptCount (data : List (String × Json)) (key : String) (items : List Json)
    (max_chars : Int) : Nat :=
  if size (.obj data) ≤ max_chars then items.length
  else longestPrefix (truncatedField data key items) max_chars items.length

theorem keptCount_le : keptCount data key items max_chars ≤ items.length := by
  unfold keptCount
  split
  · exact Nat.le_refl _
  · exact longestPrefix_le

/-- Nothing is cut exactly when the data fits. -/
theorem keptCount_eq_length_iff (fresh : ∀ m ∈ markers, m ∉ data.map Prod.fst)
    (at_key : getField data key = .arr items)
    (empty_fits : items = [] → size (.obj data) ≤ max_chars) :
    keptCount data key items max_chars = items.length ↔ size (.obj data) ≤ max_chars := by
  unfold keptCount
  split
  · rename_i fits
    exact ⟨fun _ => fits, fun _ => rfl⟩
  · rename_i tooLong
    have nonempty : items ≠ [] := fun none => tooLong (empty_fits none)
    have := longestPrefix_lt_of_over fresh at_key nonempty tooLong
    constructor
    · intro all
      omega
    · exact fun fits => absurd fits tooLong

/-- No item is lost exactly when there was none or the data fits. -/
theorem take_keptCount_eq_iff (fresh : ∀ m ∈ markers, m ∉ data.map Prod.fst)
    (at_key : getField data key = .arr items) :
    items.take (keptCount data key items max_chars) = items ↔
      items = [] ∨ size (.obj data) ≤ max_chars := by
  by_cases none : items = []
  · simp only [none, List.take_nil, true_or]
  · rw [List.take_eq_self_iff,
      ← keptCount_eq_length_iff fresh at_key (fun nil => absurd nil none)]
    have le : keptCount data key items max_chars ≤ items.length := keptCount_le
    constructor
    · exact fun ge => Or.inr (Nat.le_antisymm le ge)
    · rintro (nil | all)
      · exact absurd nil none
      · exact Nat.le_of_eq all.symm

theorem getField_setField (k k' : String) (v : Json) (fields : List (String × Json)) :
    getField (setField k v fields) k' = if k' = k then v else getField fields k' := by
  unfold getField
  rw [Dict.lookup_assign]
  split <;> rfl

/-- The list at `key` comes back as a prefix of what it was. -/
theorem field_capped_key (only : listKeys data = [key]) (at_key : getField data key = .arr items)
    (ordinary : key ∉ markers) :
    (dumpJsonCapped (.obj data) max_chars).value.field key =
      .arr (items.take (keptCount data key items max_chars)) := by
  simp only [markers, List.mem_cons, List.not_mem_nil, or_false, not_or] at ordinary
  by_cases fits : size (.obj data) ≤ max_chars
  · simp only [dumpJsonCapped_of_le fits, keptCount, if_pos fits, Json.field, at_key,
      List.take_length]
  · simp only [dumpJsonCapped_of_only only at_key fits, keptCount, if_neg fits, truncatedField,
      Json.field, getField_setField, if_neg ordinary.1, if_neg ordinary.2.1,
      if_neg ordinary.2.2, if_true]

/-- Every other field comes back unchanged. -/
theorem field_capped_other (only : listKeys data = [key])
    (at_key : getField data key = .arr items) {k : String} (other : k ≠ key)
    (ordinary : k ∉ markers) :
    (dumpJsonCapped (.obj data) max_chars).value.field k = getField data k := by
  simp only [markers, List.mem_cons, List.not_mem_nil, or_false, not_or] at ordinary
  by_cases fits : size (.obj data) ≤ max_chars
  · simp only [dumpJsonCapped_of_le fits, Json.field]
  · simp only [dumpJsonCapped_of_only only at_key fits, truncatedField, Json.field,
      getField_setField, if_neg ordinary.1, if_neg ordinary.2.1, if_neg ordinary.2.2,
      if_neg other]

/-- The answer is marked exactly when the data did not fit. -/
theorem field_capped_truncated (only : listKeys data = [key])
    (at_key : getField data key = .arr items) (absent : getField data "truncated" = .null) :
    (dumpJsonCapped (.obj data) max_chars).value.field "truncated" =
      if size (.obj data) ≤ max_chars then .null else .bool true := by
  by_cases fits : size (.obj data) ≤ max_chars
  · simp only [dumpJsonCapped_of_le fits, if_pos fits, Json.field, absent]
  · simp only [dumpJsonCapped_of_only only at_key fits, if_neg fits, truncatedField, Json.field,
      getField_setField]
    rfl

end OneList

end NinjaOne
