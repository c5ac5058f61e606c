import NinjaOne.Capped

/-!
What truncation leaves of a value.

An over-long list comes back as a prefix in an object with markers, an over-long
object as itself with one list cut to a prefix and the markers added at its end.
The list is the first of the longest ones, the prefix the longest that fits, and
something is missing whenever there was something to leave out:
`truncation_exact`.
-/

namespace NinjaOne

/-- The greatest number of items whose candidate fits, or none if none does. -/
def LongestFit (candidate : Nat → Json) (max_chars : Int) (count kept : Nat) : Prop :=
  IsGreatest {j | j ≤ count ∧ (size (candidate j) : Int) ≤ max_chars} kept ∨
    kept = 0 ∧ ∀ j, ¬ (size (candidate j) : Int) ≤ max_chars

/-- The members of an object around the first of its longest lists. -/
structure FirstLongest (data before : List (String × Json)) (key : String) (items : List Json)
    (after : List (String × Json)) : Prop where
  split : data = before ++ (key, .arr items) :: after
  before_shorter : ∀ k l, (k, .arr l) ∈ before → size (.arr l) < size (.arr items)
  after_no_longer : ∀ k l, (k, .arr l) ∈ after → size (.arr l) ≤ size (.arr items)

/-- The object with the list cut to `kept` items and the markers added. -/
def cutAt (before : List (String × Json)) (key : String) (items : List Json)
    (after : List (String × Json)) (kept : Nat) : Json :=
  .obj (before ++ (key, .arr (items.take kept)) :: after ++
    [("truncated", .bool true), ("truncated_field", .str key),
      ("original_count", .int items.length)])

variable {max_chars : Int} {data : List (String × Json)} {key : String}

theorem longestPrefix_longestFit {candidate : Nat → Json} (grow : Growing candidate)
    (count : Nat) :
    LongestFit candidate max_chars count (longestPrefix candidate max_chars count) := by
  have greatest := Bisect.bisect_greatest (@Growing.downClosed candidate max_chars grow)
    (Nat.zero_le count)
  simp only [decide_eq_true_eq, decide_eq_false_iff_not, Nat.zero_le, true_and,
    forall_const] at greatest
  exact greatest

/-! ### The list that is chosen -/

theorem listKeys_append (first second : List (String × Json)) :
    listKeys (first ++ second) = listKeys first ++ listKeys second :=
  List.filterMap_append

theorem mem_listKeys : key ∈ listKeys data ↔ ∃ items, (key, Json.arr items) ∈ data := by
  rw [listKeys, List.mem_filterMap]
  constructor
  · rintro ⟨⟨k, v⟩, mem, eq⟩
    cases v with
    | arr items =>
        cases eq
        exact ⟨items, mem⟩
    | _ => cases eq
  · rintro ⟨items, mem⟩
    exact ⟨_, mem, rfl⟩

theorem listKeys_subset_keys (mem : key ∈ listKeys data) : key ∈ data.map Prod.fst := by
  obtain ⟨items, here⟩ := mem_listKeys.mp mem
  exact List.mem_map.mpr ⟨_, here, rfl⟩

/-- A `dict` has one value for a key. -/
theorem getField_of_mem (nodup : (data.map Prod.fst).Nodup) {v : Json} (mem : (key, v) ∈ data) :
    getField data key = v := by
  obtain ⟨before, after, rfl⟩ := List.append_of_mem mem
  rw [List.map_append, List.map_cons, List.nodup_append] at nodup
  have first : key ∉ before.map Prod.fst := by
    intro earlier
    exact nodup.2.2 key earlier key List.mem_cons_self rfl
  rw [getField, Dict.lookup_append_of_not_mem first, Option.getD_some]

/-- The list cut is the first of the longest ones. -/
theorem firstLongest_of_longestList (nodup : (data.map Prod.fst).Nodup)
    (chosen : longestList data = some key) :
    ∃ before items after, FirstLongest data before key items after ∧
      key ∉ before.map Prod.fst := by
  obtain ⟨listed, longest, earliest⟩ := List.argmax_eq_some_iff.mp chosen
  obtain ⟨items, mem⟩ := mem_listKeys.mp listed
  obtain ⟨before, after, split⟩ := List.append_of_mem mem
  have first : key ∉ before.map Prod.fst := by
    rw [split, List.map_append, List.map_cons, List.nodup_append] at nodup
    intro earlier
    exact nodup.2.2 key earlier key List.mem_cons_self rfl
  have own : getField data key = .arr items := getField_of_mem nodup mem
  have keys : listKeys data = listKeys before ++ key :: listKeys after := by
    rw [split, listKeys_append]
    rfl
  refine ⟨before, items, after, ⟨split, ?_, ?_⟩, first⟩
  · intro k l member
    have here : k ∈ listKeys before := mem_listKeys.mpr ⟨l, member⟩
    have other : getField data k = .arr l :=
      getField_of_mem nodup (split ▸ List.mem_append_left _ member)
    by_contra no_shorter
    -- A list as long before it would have been found first.
    have order := earliest k (keys ▸ List.mem_append_left _ here)
      (by rw [own, other]; exact Nat.not_lt.mp no_shorter)
    have unlisted : key ∉ listKeys before := fun mem => first (listKeys_subset_keys mem)
    rw [keys, List.idxOf_append_of_mem here, List.idxOf_append_of_notMem unlisted] at order
    have position := List.idxOf_lt_length_of_mem here
    omega
  · intro k l member
    have here : (k, Json.arr l) ∈ data := split ▸ List.mem_append_right _ (List.mem_cons_of_mem _ member)
    have bound := longest k (mem_listKeys.mpr ⟨l, here⟩)
    rw [own, getField_of_mem nodup here] at bound
    exact bound

/-! ### What comes back -/

/-- `truncatedField` around the chosen list. -/
theorem truncatedField_cutAt {before after : List (String × Json)} {items : List Json}
    (nodup : (data.map Prod.fst).Nodup) (fresh : ∀ m ∈ markers, m ∉ data.map Prod.fst)
    (first : key ∉ before.map Prod.fst) (split : data = before ++ (key, .arr items) :: after) :
    truncatedField data key items = cutAt before key items after := by
  have mem : (key, Json.arr items) ∈ data := split ▸ List.mem_append_right _ List.mem_cons_self
  funext kept
  rw [truncatedField_eq fresh (getField_of_mem nodup mem), setField, split,
    Dict.assign_append_of_not_mem first]
  rfl

/-- A list that is too long is cut. -/
theorem list_truncated {items : List Json} (tooLong : ¬ (size (.arr items) : Int) ≤ max_chars) :
    ∃ kept, (dumpJsonCapped (.arr items) max_chars).text =
        compact (wrappedItems "items" items kept) ∧
      LongestFit (wrappedItems "items" items) max_chars items.length kept ∧
      (0 < items.length → kept < items.length) := by
  refine ⟨longestPrefix (wrappedItems "items" items) max_chars items.length, ?_,
    longestPrefix_longestFit (wrappedItems_growing "items" items) items.length, ?_⟩
  · simp only [dumpJsonCapped, if_neg tooLong, truncateList, Answer.text]
  · intro nonempty
    refine longestPrefix_lt nonempty ?_
    rw [wrappedItems, List.take_length]
    have whole := size_le_size_obj (show ("items", Json.arr items) ∈
      [("items", .arr items), ("truncated", .bool true), ("original_count", .int items.length)]
      from List.mem_cons_self)
    omega

/-- An object that is too long is cut at its first longest list. -/
theorem object_truncated (nodup : (data.map Prod.fst).Nodup)
    (listed : ∃ k l, (k, Json.arr l) ∈ data) (fresh : ∀ m ∈ markers, m ∉ data.map Prod.fst)
    (tooLong : ¬ (size (.obj data) : Int) ≤ max_chars) :
    ∃ before key items after kept, FirstLongest data before key items after ∧
      (dumpJsonCapped (.obj data) max_chars).text = compact (cutAt before key items after kept) ∧
      LongestFit (cutAt before key items after) max_chars items.length kept ∧
      (0 < items.length → kept < items.length) := by
  obtain ⟨k, l, member⟩ := listed
  have some_list : longestList data ≠ none := by
    intro none
    have empty := List.argmax_eq_none.mp none
    have here : k ∈ listKeys data := mem_listKeys.mpr ⟨l, member⟩
    rw [empty] at here
    cases here
  obtain ⟨key, chosen⟩ := Option.ne_none_iff_exists'.mp some_list
  obtain ⟨before, items, after, longest, first⟩ := firstLongest_of_longestList nodup chosen
  have mem : (key, Json.arr items) ∈ data :=
    longest.split ▸ List.mem_append_right _ List.mem_cons_self
  have at_key : getField data key = .arr items := getField_of_mem nodup mem
  have candidates := truncatedField_cutAt nodup fresh first longest.split
  refine ⟨before, key, items, after, longestPrefix (cutAt before key items after) max_chars
    items.length, longest, ?_, ?_, ?_⟩
  · simp only [dumpJsonCapped, if_neg tooLong, chosen, listAt_of_getField at_key, Answer.text,
      candidates]
  · exact longestPrefix_longestFit (candidates ▸ truncatedField_growing data key items) _
  · intro nonempty
    rw [← candidates]
    exact longestPrefix_lt_of_over fresh at_key (List.length_pos_iff.mp nonempty) tooLong

end NinjaOne
