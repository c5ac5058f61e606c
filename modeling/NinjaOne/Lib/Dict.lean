import Mathlib.Data.List.Basic
import Mathlib.Data.List.Nodup

/-!
Dictionaries that keep the order of insertion.

`assign` is assignment to a key on a list of entries: a present key keeps its
place, a new one goes to the end. A `Dict` is such a list without repeated keys;
`get`, `set` and `pop` are its operations.

* `lookup_assign`, `get_set`, `get_pop`, `get_popAll`: what each operation does to
  a lookup.
* `assign_same`: assigning the value that is there changes nothing.
* `nodup_keys_foldl_assign`, `mem_keys_foldl_assign`, `mem_foldl_assign`: what a
  list of assignments leaves, also where keys repeat.
* `foldl_assign_of_nodup`, `filter_key`, `filter_foldl_assign`: assigning different
  keys appends them, and each has one entry.
* `get_eq_some_iff`: the entries are what can be looked up.
-/

variable {K V : Type*} [DecidableEq K]

structure Dict (K V : Type*) [DecidableEq K] where
  entries : List (K × V)
  nodup : (entries.map Prod.fst).Nodup

namespace Dict

/-! ### Assignment to a key -/

/-- `d[k] = v` on a list of entries. -/
def assign (k : K) (v : V) : List (K × V) → List (K × V)
  | [] => [(k, v)]
  | (k', v') :: rest => if k' = k then (k, v) :: rest else (k', v') :: assign k v rest

section Assign

variable {k k' : K} {v : V} {entries : List (K × V)}

theorem lookup_cons_if (k key : K) (v : V) (rest : List (K × V)) :
    ((key, v) :: rest).lookup k = if k = key then some v else rest.lookup k := by
  rw [List.lookup_cons]
  by_cases same : k = key
  · simp [same]
  · have skip : (k == key) = false := by simpa using same
    simp only [skip, if_neg same]

theorem lookup_assign (k k' : K) (v : V) (entries : List (K × V)) :
    (assign k v entries).lookup k' = if k' = k then some v else entries.lookup k' := by
  induction entries with
  | nil => rw [assign, lookup_cons_if]
  | cons entry rest ih =>
      obtain ⟨key, old⟩ := entry
      by_cases here : key = k
      · subst here
        simp only [assign, if_true, lookup_cons_if]
        split <;> rfl
      · simp only [assign, if_neg here, lookup_cons_if, ih]
        by_cases found : k' = key
        · subst found
          simp only [if_true, if_neg here]
        · simp only [if_neg found]

theorem assign_same (found : entries.lookup k = some v) : assign k v entries = entries := by
  induction entries with
  | nil => simp at found
  | cons entry rest ih =>
      obtain ⟨key, old⟩ := entry
      rw [lookup_cons_if] at found
      by_cases here : k = key
      · subst here
        rw [if_pos rfl, Option.some.injEq] at found
        subst found
        simp only [assign, if_true]
      · rw [if_neg here] at found
        simp only [assign, if_neg (Ne.symm here), ih found]

theorem mem_keys_of_lookup (found : entries.lookup k = some v) : k ∈ entries.map Prod.fst := by
  induction entries with
  | nil => simp at found
  | cons entry rest ih =>
      obtain ⟨key, old⟩ := entry
      rw [lookup_cons_if] at found
      by_cases here : k = key
      · simp [here]
      · rw [if_neg here] at found
        exact List.mem_cons_of_mem _ (ih found)

theorem keys_assign_of_mem (mem : k ∈ entries.map Prod.fst) :
    (assign k v entries).map Prod.fst = entries.map Prod.fst := by
  induction entries with
  | nil => cases mem
  | cons entry rest ih =>
      obtain ⟨key, old⟩ := entry
      by_cases here : key = k
      · simp [assign, here]
      · have later : k ∈ rest.map Prod.fst := by
          rcases List.mem_cons.mp mem with eq | later
          · exact absurd eq.symm here
          · exact later
        simp only [assign, if_neg here, List.map_cons, ih later]

theorem assign_of_not_mem (fresh : k ∉ entries.map Prod.fst) :
    assign k v entries = entries ++ [(k, v)] := by
  induction entries with
  | nil => rfl
  | cons entry rest ih =>
      obtain ⟨key, old⟩ := entry
      rw [List.map_cons, List.mem_cons, not_or] at fresh
      rw [assign, if_neg (Ne.symm fresh.1), ih fresh.2, List.cons_append]

theorem mem_keys_assign : k' ∈ (assign k v entries).map Prod.fst ↔
    k' = k ∨ k' ∈ entries.map Prod.fst := by
  by_cases mem : k ∈ entries.map Prod.fst
  · rw [keys_assign_of_mem mem]
    exact (or_iff_right_of_imp fun eq => eq ▸ mem).symm
  · rw [assign_of_not_mem mem, List.map_append, List.map_singleton, List.mem_append,
      List.mem_singleton]
    exact or_comm

/-- The first entry of a key is the one looked up, and the one assigned to. -/
theorem lookup_append_of_not_mem {post : List (K × V)} (first : k ∉ entries.map Prod.fst) :
    (entries ++ (k, v) :: post).lookup k = some v := by
  induction entries with
  | nil => rw [List.nil_append, lookup_cons_if, if_pos rfl]
  | cons entry rest ih =>
      obtain ⟨key, old⟩ := entry
      rw [List.map_cons, List.mem_cons, not_or] at first
      rw [List.cons_append, lookup_cons_if, if_neg first.1, ih first.2]

theorem assign_append_of_not_mem {old : V} {post : List (K × V)}
    (first : k ∉ entries.map Prod.fst) :
    assign k v (entries ++ (k, old) :: post) = entries ++ (k, v) :: post := by
  induction entries with
  | nil => rw [List.nil_append, List.nil_append, assign, if_pos rfl]
  | cons entry rest ih =>
      obtain ⟨key, other⟩ := entry
      rw [List.map_cons, List.mem_cons, not_or] at first
      rw [List.cons_append, List.cons_append, assign, if_neg (Ne.symm first.1), ih first.2]

theorem nodup_keys_assign (nodup : (entries.map Prod.fst).Nodup) :
    ((assign k v entries).map Prod.fst).Nodup := by
  by_cases mem : k ∈ entries.map Prod.fst
  · rw [keys_assign_of_mem mem]
    exact nodup
  · rw [assign_of_not_mem mem, List.map_append, List.map_singleton, ← List.concat_eq_append]
    exact List.Nodup.concat mem nodup

theorem mem_assign {entry : K × V} (mem : entry ∈ assign k v entries) :
    entry = (k, v) ∨ entry ∈ entries := by
  induction entries with
  | nil => exact Or.inl (List.mem_singleton.mp mem)
  | cons first rest ih =>
      obtain ⟨key, old⟩ := first
      by_cases here : key = k
      · rw [assign, if_pos here] at mem
        rcases List.mem_cons.mp mem with eq | later
        · exact Or.inl eq
        · exact Or.inr (List.mem_cons_of_mem _ later)
      · rw [assign, if_neg here] at mem
        rcases List.mem_cons.mp mem with eq | later
        · exact Or.inr (eq ▸ List.mem_cons_self)
        · exact (ih later).imp_right (List.mem_cons_of_mem _)

/-! Assignments one after another, to keys that may repeat. -/

section Fold

variable {more : List (K × V)}

theorem nodup_keys_foldl_assign (nodup : (entries.map Prod.fst).Nodup) :
    ((more.foldl (fun d entry => assign entry.1 entry.2 d) entries).map Prod.fst).Nodup := by
  induction more generalizing entries with
  | nil => exact nodup
  | cons entry rest ih => exact ih (nodup_keys_assign nodup)

theorem mem_keys_foldl_assign :
    k ∈ (more.foldl (fun d entry => assign entry.1 entry.2 d) entries).map Prod.fst ↔
      k ∈ more.map Prod.fst ∨ k ∈ entries.map Prod.fst := by
  induction more generalizing entries with
  | nil => exact (or_iff_right List.not_mem_nil).symm
  | cons entry rest ih =>
      rw [List.foldl_cons, ih, mem_keys_assign, List.map_cons, List.mem_cons, or_left_comm,
        or_assoc]

theorem mem_foldl_assign {entry : K × V}
    (mem : entry ∈ more.foldl (fun d entry => assign entry.1 entry.2 d) entries) :
    entry ∈ more ∨ entry ∈ entries := by
  induction more generalizing entries with
  | nil => exact Or.inr mem
  | cons first rest ih =>
      rcases ih mem with later | assigned
      · exact Or.inl (List.mem_cons_of_mem _ later)
      · rcases mem_assign assigned with rfl | old
        · exact Or.inl List.mem_cons_self
        · exact Or.inr old

end Fold

/-- Assigning different new keys one after another appends them. -/
theorem foldl_assign_of_nodup {more : List (K × V)} (nodup : (more.map Prod.fst).Nodup)
    (fresh : ∀ k ∈ more.map Prod.fst, k ∉ entries.map Prod.fst) :
    more.foldl (fun d entry => assign entry.1 entry.2 d) entries = entries ++ more := by
  induction more generalizing entries with
  | nil => rw [List.foldl_nil, List.append_nil]
  | cons entry rest ih =>
      rw [List.map_cons, List.nodup_cons] at nodup
      rw [List.map_cons, List.forall_mem_cons] at fresh
      rw [List.foldl_cons, ih nodup.2, assign_of_not_mem fresh.1, List.append_assoc]
      · rfl
      · intro k mem
        rw [mem_keys_assign, not_or]
        exact ⟨fun eq => nodup.1 (eq ▸ mem), fresh.2 k mem⟩

/-- A key has one entry. -/
theorem filter_key (nodup : (entries.map Prod.fst).Nodup) (mem : (k, v) ∈ entries) :
    entries.filter (fun entry => entry.1 = k) = [(k, v)] := by
  induction entries with
  | nil => cases mem
  | cons entry rest ih =>
      rw [List.map_cons, List.nodup_cons] at nodup
      rcases List.mem_cons.mp mem with here | later
      · subst here
        have others : rest.filter (fun entry => entry.1 = k) = [] := by
          refine List.filter_eq_nil_iff.mpr fun entry mem same => nodup.1 ?_
          exact List.mem_map.mpr ⟨entry, mem, of_decide_eq_true same⟩
        rw [List.filter_cons_of_pos (by simp), others]
      · have other : entry.1 ≠ k := fun eq => nodup.1 (eq ▸ List.mem_map_of_mem later)
        rw [List.filter_cons_of_neg (by simpa using other), ih nodup.2 later]

/-- A dictionary made by assigning each key its value has one entry for each. -/
theorem filter_foldl_assign (value : K → V) {keys : List K} (mem : k ∈ keys) :
    ((keys.map fun key => (key, value key)).foldl
      (fun d entry => assign entry.1 entry.2 d) []).filter (fun entry => entry.1 = k) =
        [(k, value k)] := by
  have nodup : (((keys.map fun key => (key, value key)).foldl
      (fun d entry => assign entry.1 entry.2 d) []).map Prod.fst).Nodup :=
    nodup_keys_foldl_assign (List.nodup_nil : (([] : List (K × V)).map Prod.fst).Nodup)
  have listed : k ∈ ((keys.map fun key => (key, value key)).foldl
      (fun d entry => assign entry.1 entry.2 d) []).map Prod.fst := by
    rw [mem_keys_foldl_assign]
    exact Or.inl (List.mem_map.mpr ⟨_, List.mem_map.mpr ⟨k, mem, rfl⟩, rfl⟩)
  obtain ⟨⟨key, v⟩, entered, same⟩ := List.mem_map.mp listed
  change key = k at same
  subst same
  rw [filter_key nodup entered]
  rcases mem_foldl_assign entered with given | none
  · obtain ⟨_, _, same⟩ := List.mem_map.mp given
    obtain ⟨rfl, rfl⟩ := Prod.mk.inj same
    rfl
  · cases none

end Assign

/-! ### Dictionaries -/

def empty : Dict K V := ⟨[], List.nodup_nil⟩

/-- `d.get(k)`. -/
def get (d : Dict K V) (k : K) : Option V := d.entries.lookup k

/-- `d[k] = v`. -/
def set (d : Dict K V) (k : K) (v : V) : Dict K V where
  entries := assign k v d.entries
  nodup := nodup_keys_assign d.nodup

/-- `d.pop(k, None)`. -/
def pop (d : Dict K V) (k : K) : Dict K V where
  entries := d.entries.filter fun entry => entry.1 ≠ k
  nodup := d.nodup.sublist (List.filter_sublist.map Prod.fst)

/-- `pop` for one key after another. -/
def popAll (d : Dict K V) (ks : List K) : Dict K V := ks.foldl pop d

variable {d : Dict K V} {k k' : K} {v : V}

@[simp] theorem get_empty : (empty : Dict K V).get k = none := rfl

@[simp] theorem get_set : (d.set k v).get k' = if k' = k then some v else d.get k' :=
  lookup_assign k k' v d.entries

@[simp] theorem get_pop : (d.pop k).get k' = if k' = k then none else d.get k' := by
  obtain ⟨entries, nodup⟩ := d
  simp only [pop, get]
  clear nodup
  induction entries with
  | nil => simp
  | cons entry rest ih =>
      obtain ⟨key, old⟩ := entry
      by_cases popped : key = k
      · subst popped
        rw [List.filter_cons_of_neg (by simp), ih, lookup_cons_if]
        split <;> rfl
      · rw [List.filter_cons_of_pos (by simpa using popped), lookup_cons_if, lookup_cons_if, ih]
        by_cases found : k' = key
        · subst found
          simp only [if_true, if_neg popped]
        · simp only [if_neg found]

theorem get_popAll {ks : List K} : (d.popAll ks).get k' = if k' ∈ ks then none else d.get k' := by
  induction ks generalizing d with
  | nil => simp [popAll]
  | cons k rest ih =>
      have step : d.popAll (k :: rest) = (d.pop k).popAll rest := rfl
      rw [step, ih, get_pop]
      by_cases later : k' ∈ rest
      · simp [later]
      · simp [later]

/-- The keys after setting one key after another. -/
theorem mem_keys_foldl_set {ks : List K} :
    k' ∈ (ks.foldl (fun d k => d.set k v) d).entries.map Prod.fst ↔
      k' ∈ d.entries.map Prod.fst ∨ k' ∈ ks := by
  induction ks generalizing d with
  | nil => simp
  | cons k rest ih =>
      have assigned : (d.set k v).entries = assign k v d.entries := rfl
      rw [List.foldl_cons, ih, assigned, mem_keys_assign, List.mem_cons, or_comm (a := k' = k),
        or_assoc]

/-- Setting a key to the value it has changes nothing. -/
theorem set_get (found : d.get k = some v) : d.set k v = d := by
  obtain ⟨entries, nodup⟩ := d
  simp only [set, assign_same found]

/-- What can be looked up is what was entered. -/
theorem get_eq_some_iff : d.get k = some v ↔ (k, v) ∈ d.entries := by
  obtain ⟨entries, nodup⟩ := d
  simp only [get]
  induction entries with
  | nil => simp
  | cons entry rest ih =>
      obtain ⟨key, old⟩ := entry
      rw [List.map_cons, List.nodup_cons] at nodup
      rw [lookup_cons_if, List.mem_cons, Prod.mk.injEq]
      by_cases here : k = key
      · subst here
        have absent : (k, v) ∉ rest := fun mem => nodup.1 (List.mem_map.mpr ⟨_, mem, rfl⟩)
        simp only [if_true, Option.some.injEq, true_and, absent, or_false]
        exact eq_comm
      · rw [if_neg here, ih nodup.2]
        simp only [here, false_and, false_or]

end Dict
