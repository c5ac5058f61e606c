import NinjaOne.Json
import Mathlib.Algebra.Order.BigOperators.Group.List
import Mathlib.Algebra.Order.Ring.Nat
import Mathlib.Data.List.Forall2

/-!
How long a compact form is.

Everything the truncation relies on is a fact about lengths: the form of a list
or of an object is as long as its parts and separators together
(`length_compactItems`, `length_compactFields`), a part of a list is never
longer (`size_sublist_le`), and replacing one field by a smaller value never makes
an object longer (`NoLarger.setField`, `size_obj_mono`).
-/

namespace NinjaOne

/-! ### Parts and separators -/

theorem length_compactItems : ∀ items : List Json,
    (compactItems items).length = (items.map size).sum + (items.length - 1)
  | [] => by simp [compactItems]
  | [x] => by simp [compactItems, size]
  | x :: y :: rest => by
      have ih := length_compactItems (y :: rest)
      have comma : ",".length = 1 := rfl
      simp only [compactItems, String.length_append, ih, comma, List.map_cons, List.sum_cons,
        List.length_cons, size]
      omega

/-- The length of one member of an object, its key and colon included. -/
def memberSize (member : String × Json) : Nat := (quote member.1).length + 1 + size member.2

theorem length_compactFields : ∀ fields : List (String × Json),
    (compactFields fields).length = (fields.map memberSize).sum + (fields.length - 1)
  | [] => by simp [compactFields]
  | [(k, x)] => by
      have colon : ":".length = 1 := rfl
      simp [compactFields, memberSize, size, String.length_append, colon]
  | (k, x) :: y :: rest => by
      have ih := length_compactFields (y :: rest)
      have colon : ":".length = 1 := rfl
      have comma : ",".length = 1 := rfl
      simp only [compactFields, String.length_append, ih, colon, comma, List.map_cons,
        List.sum_cons, List.length_cons, memberSize, size]
      omega

theorem size_arr (items : List Json) :
    size (.arr items) = 2 + (items.map size).sum + (items.length - 1) := by
  have opening : "[".length = 1 := rfl
  have closing : "]".length = 1 := rfl
  simp only [size, compact, String.length_append, length_compactItems, opening, closing]
  omega

theorem size_obj (fields : List (String × Json)) :
    size (.obj fields) = 2 + (fields.map memberSize).sum + (fields.length - 1) := by
  have opening : "\x7b".length = 1 := rfl
  have closing : "\x7d".length = 1 := rfl
  simp only [size, compact, String.length_append, length_compactFields, opening, closing]
  omega

theorem one_le_length_escapeChar (c : Char) : 1 ≤ (escapeChar c).length := by
  unfold escapeChar
  repeat' split
  all_goals simp

/-- Escaping never shortens a string. -/
theorem length_le_quote (s : String) : s.length + 2 ≤ (quote s).length := by
  have quoteMark : "\"".length = 1 := rfl
  have escaped : ∀ cs : List Char, cs.length ≤ (cs.flatMap escapeChar).length := by
    intro cs
    induction cs with
    | nil => simp
    | cons c cs ih =>
        have := one_le_length_escapeChar c
        simp only [List.flatMap_cons, List.length_append, List.length_cons]
        omega
  have := escaped s.toList
  simp only [quote, String.length_append, String.length_ofList, quoteMark]
  rw [← String.length_toList]
  omega

/-! ### Parts of a list -/

/-- A list with some of its items left out is never longer. -/
theorem size_sublist_le {items more : List Json} (sub : items.Sublist more) :
    size (.arr items) ≤ size (.arr more) := by
  have sums : (items.map size).sum ≤ (more.map size).sum :=
    (sub.map size).sum_le_sum fun _ _ => Nat.zero_le _
  have lengths := sub.length_le
  rw [size_arr, size_arr]
  omega

/-- A prefix of a list is never longer than a longer prefix. -/
theorem size_take_le (items : List Json) {i j : Nat} (le : i ≤ j) :
    size (.arr (items.take i)) ≤ size (.arr (items.take j)) :=
  size_sublist_le (List.take_prefix_take_left le).sublist

/-! ### Fields of an object -/

/-- The same keys in the same order, with values that are no longer. -/
def NoLarger (fields fields' : List (String × Json)) : Prop :=
  List.Forall₂ (fun f f' => f.1 = f'.1 ∧ size f.2 ≤ size f'.2) fields fields'

theorem NoLarger.refl (fields : List (String × Json)) : NoLarger fields fields :=
  List.forall₂_same.mpr fun _ _ => ⟨rfl, le_rfl⟩

theorem NoLarger.setField {fields fields' : List (String × Json)}
    (le : NoLarger fields fields') {k : String} {v v' : Json} (value : size v ≤ size v') :
    NoLarger (setField k v fields) (setField k v' fields') := by
  induction le with
  | nil => exact .cons ⟨rfl, value⟩ .nil
  | @cons f f' rest rest' head tail ih =>
      obtain ⟨key, old⟩ := f
      obtain ⟨key', old'⟩ := f'
      obtain ⟨rfl, smaller⟩ := head
      simp only [NinjaOne.setField, Dict.assign]
      by_cases here : key = k
      · rw [if_pos here, if_pos here]
        exact .cons ⟨rfl, value⟩ tail
      · rw [if_neg here, if_neg here]
        exact .cons ⟨rfl, smaller⟩ ih

theorem size_obj_mono {fields fields' : List (String × Json)} (le : NoLarger fields fields') :
    size (.obj fields) ≤ size (.obj fields') := by
  have sums : (fields.map memberSize).sum ≤ (fields'.map memberSize).sum := by
    induction le with
    | nil => exact le_rfl
    | cons head tail ih =>
        simp only [List.map_cons, List.sum_cons, memberSize]
        rw [head.1]
        have := head.2
        omega
  have lengths : fields.length = fields'.length := le.length_eq
  rw [size_obj, size_obj, lengths]
  omega

/-- An object is longer than any of its values. -/
theorem size_le_size_obj {fields : List (String × Json)} {k : String} {v : Json}
    (mem : (k, v) ∈ fields) : size v < size (.obj fields) := by
  have part : memberSize (k, v) ≤ (fields.map memberSize).sum :=
    List.le_sum_of_mem (List.mem_map.mpr ⟨_, mem, rfl⟩)
  rw [size_obj]
  simp only [memberSize] at part
  omega

/-- A list is longer than any of its items. -/
theorem size_le_size_arr {items : List Json} {v : Json} (mem : v ∈ items) :
    size v < size (.arr items) := by
  have part : size v ≤ (items.map size).sum :=
    List.le_sum_of_mem (List.mem_map.mpr ⟨_, mem, rfl⟩)
  rw [size_arr]
  omega

/-- A string value is longer than its text. -/
theorem length_lt_size_str (s : String) : s.length < size (.str s) := by
  have := length_le_quote s
  simp only [size, compact]
  omega

/-- Fields added at the end make an object longer. -/
theorem size_obj_append (fields more : List (String × Json)) :
    size (.obj fields) ≤ size (.obj (fields ++ more)) := by
  rw [size_obj, size_obj]
  simp only [List.map_append, List.sum_append, List.length_append]
  omega

end NinjaOne
