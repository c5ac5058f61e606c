import Mathlib.Algebra.Order.Group.Nat
import Mathlib.Data.Int.Order.Basic
import Mathlib.Data.List.Basic

/-!
Keyset paging: a list in strictly increasing key order, read page by page, each
page starting after the last key of the one before.

The list side is `remaining` (what lies after a cursor) and `page` (its first
rows). The reader's side is a function from a cursor to the next one, or to
nothing when the reader stops; `Visits` is the list of cursors it goes through,
and a traversal terminates when there is one.

* `remaining_after`: continuing after a row leaves exactly the rows behind it.
* `visits_of_progress`: a reader that drops a non-empty prefix at each page, and
  stops only at a page that shows everything left, terminates and shows the
  whole list once, in order.
* `visits_chunks`: a reader that goes on while pages are full fetches exactly
  the pages of `chunks`.
* `flatMap_eq_iff_of_prefix`: where every page is cut to a prefix, nothing is
  lost over all pages exactly when no page is cut.
* `filtered_traversal`: a reader that is shown only the rows of a page that pass a
  test, and goes on after the last of them, finds every such row exactly when the
  list has no gap of a page before one.
-/

namespace Keyset

section Traversal

variable {C : Type*} (next : C → Option C)

/-- The cursors a reader goes through, from `c` to the page it stops at. -/
inductive Visits : C → List C → Prop where
  | stop {c : C} : next c = none → Visits c [c]
  | more {c c' : C} {cs : List C} : next c = some c' → Visits c' cs → Visits c (c :: cs)

/-- A reader has at most one traversal. -/
theorem Visits.unique {c : C} {cs cs' : List C} (h : Visits next c cs) (h' : Visits next c cs') :
    cs = cs' := by
  induction h generalizing cs' with
  | stop ends =>
      cases h' with
      | stop _ => rfl
      | more continues _ =>
          rw [ends] at continues
          cases continues
  | more continues _ ih =>
      cases h' with
      | stop ends =>
          rw [ends] at continues
          cases continues
      | more continues' rest =>
          rw [continues] at continues'
          cases continues'
          rw [ih rest]

variable {α : Type*} (left shown : C → List α)

/-- What one page does when the traversal makes progress: the reader stops at a
page that shows everything left, or goes on after a non-empty prefix of it. -/
def Progress (c : C) : Prop :=
  match next c with
  | none => shown c = left c
  | some c' => ∃ k, 0 < k ∧ k ≤ (left c).length ∧ shown c = (left c).take k ∧
      left c' = (left c).drop k

/-- With progress at every page, the traversal terminates and what its pages
show, put together, is everything that was left at the start. -/
theorem visits_of_progress (progress : ∀ c, Progress next left shown c) (c : C) :
    ∃ cs, Visits next c cs ∧ cs.flatMap shown = left c := by
  induction size : (left c).length using Nat.strongRecOn generalizing c with
  | ind size_c ih =>
      have page := progress c
      unfold Progress at page
      cases step : next c with
      | none =>
          rw [step] at page
          exact ⟨[c], .stop step, by simp [page]⟩
      | some c' =>
          rw [step] at page
          obtain ⟨k, pos, le, shows, leaves⟩ := page
          have shorter : (left c').length < size_c := by
            rw [leaves, List.length_drop]
            omega
          obtain ⟨cs, visits, all⟩ := ih _ shorter c' rfl
          refine ⟨c :: cs, .more step visits, ?_⟩
          rw [List.flatMap_cons, all, shows, leaves, List.take_append_drop]

variable {next left shown}

theorem Progress.stop {c : C} (ends : next c = none) (all : shown c = left c) :
    Progress next left shown c := by
  unfold Progress
  rw [ends]
  exact all

theorem Progress.more {c c' : C} {k : Nat} (continues : next c = some c') (pos : 0 < k)
    (le : k ≤ (left c).length) (shows : shown c = (left c).take k)
    (leaves : left c' = (left c).drop k) : Progress next left shown c := by
  unfold Progress
  rw [continues]
  exact ⟨k, pos, le, shows, leaves⟩

end Traversal

/-! ### Pages of fixed size -/

section Chunks

variable {α : Type*}

/-- The pages of a full traversal: full pages of `n` while there are `n` rows
left, then the rest, possibly empty. -/
def chunks (n : Nat) (rows : List α) : List (List α) :=
  if 0 < n ∧ n ≤ rows.length then rows.take n :: chunks n (rows.drop n) else [rows]
termination_by rows.length
decreasing_by
  rw [List.length_drop]
  omega

theorem chunks_flatten (n : Nat) (rows : List α) : (chunks n rows).flatten = rows := by
  fun_induction chunks n rows with
  | case1 rows full ih => rw [List.flatten_cons, ih, List.take_append_drop]
  | case2 rows short => simp

variable {C : Type*} {next : C → Option C} {left : C → List α} {n : Nat}

/-- A reader that fetches pages of `n` and goes on exactly after a full one
fetches the pages of `chunks`. -/
theorem visits_chunks (pos : 0 < n)
    (stops : ∀ c, (left c).length < n → next c = none)
    (goes : ∀ c, n ≤ (left c).length → ∃ c', next c = some c' ∧ left c' = (left c).drop n)
    (c : C) :
    ∃ cs, Visits next c cs ∧ cs.map (fun c => (left c).take n) = chunks n (left c) := by
  induction size : (left c).length using Nat.strongRecOn generalizing c with
  | ind size_c ih =>
      by_cases full : n ≤ (left c).length
      · obtain ⟨c', step, leaves⟩ := goes c full
        have shorter : (left c').length < size_c := by
          rw [leaves, List.length_drop]
          omega
        obtain ⟨cs, visits, pages⟩ := ih _ shorter c' rfl
        refine ⟨c :: cs, .more step visits, ?_⟩
        rw [List.map_cons, pages, leaves, chunks.eq_def n (left c), if_pos ⟨pos, full⟩]
      · refine ⟨[c], .stop (stops c (by omega)), ?_⟩
        rw [chunks.eq_def, if_neg (fun h => full h.2), List.map_singleton,
          List.take_of_length_le (by omega)]

end Chunks

/-! ### Cutting pages short -/

/-- Cutting every page to a prefix loses nothing overall exactly when it cuts no
page. -/
theorem flatMap_eq_iff_of_prefix {ι α : Type*} {cut whole : ι → List α}
    (pre : ∀ i, cut i <+: whole i) (pages : List ι) :
    pages.flatMap cut = pages.flatMap whole ↔ ∀ i ∈ pages, cut i = whole i := by
  constructor
  · intro same
    induction pages with
    | nil => simp
    | cons i rest ih =>
        have shorter : ∀ pages : List ι,
            (pages.flatMap cut).length ≤ (pages.flatMap whole).length := by
          intro pages
          induction pages with
          | nil => simp
          | cons j pages ih =>
              have := (pre j).length_le
              simp only [List.flatMap_cons, List.length_append]
              omega
        have lengths := congrArg List.length same
        simp only [List.flatMap_cons, List.length_append] at lengths
        have here : cut i = whole i := by
          refine (pre i).eq_of_length ?_
          have := (pre i).length_le
          have := shorter rest
          omega
        rw [List.flatMap_cons, List.flatMap_cons, here, List.append_cancel_left_eq] at same
        intro j mem
        rcases List.mem_cons.mp mem with rfl | later
        · exact here
        · exact ih same j later
  · intro same
    exact List.flatMap_congr same

/-! ### The keyed list -/

section Keyed

variable {α : Type*} (key : α → ℤ)

/-- Strictly increasing keys. -/
def Increasing (rows : List α) : Prop := rows.Pairwise fun x y => key x < key y

/-- The rows after a cursor; everything when there is none. -/
def remaining (rows : List α) : Option ℤ → List α
  | none => rows
  | some c => rows.filter fun x => decide (c < key x)

/-- The first `n` rows after a cursor. -/
def page (rows : List α) (n : Nat) (after : Option ℤ) : List α := (remaining key rows after).take n

variable {key} {rows : List α}

/-- What lies after a cursor is a suffix of the list. -/
theorem remaining_suffix (inc : Increasing key rows) (after : Option ℤ) :
    remaining key rows after <:+ rows := by
  cases after with
  | none => exact List.suffix_refl rows
  | some c =>
      induction rows with
      | nil => exact List.suffix_refl []
      | cons x rest ih =>
          obtain ⟨head, tail⟩ := List.pairwise_cons.mp inc
          simp only [remaining] at ih ⊢
          by_cases above : c < key x
          · -- Everything behind `x` is above the cursor as well.
            have all : (x :: rest).filter (fun y => decide (c < key y)) = x :: rest := by
              refine List.filter_eq_self.mpr fun y mem => decide_eq_true ?_
              rcases List.mem_cons.mp mem with rfl | later
              · exact above
              · exact lt_trans above (head y later)
            exact ⟨[], all⟩
          · rw [List.filter_cons_of_neg (by simpa using above)]
            exact (ih tail).trans (List.suffix_cons x rest)

theorem remaining_increasing (inc : Increasing key rows) (after : Option ℤ) :
    Increasing key (remaining key rows after) :=
  List.Pairwise.sublist (remaining_suffix inc after).sublist inc

/-- Continuing after a row of what was left leaves exactly the rows behind it. -/
theorem remaining_after (inc : Increasing key rows) {after : Option ℤ} {k : Nat} {x : α}
    (last : ((remaining key rows after).take k).getLast? = some x) :
    remaining key rows (some (key x)) = (remaining key rows after).drop k := by
  obtain ⟨before, eq⟩ := remaining_suffix inc after
  generalize remaining key rows after = left at *
  obtain ⟨front, taken⟩ := List.getLast?_eq_some_iff.mp last
  -- `x` sits between the rows up to it and the rows behind it.
  have split : rows = (before ++ front) ++ x :: left.drop k := by
    calc rows = before ++ (left.take k ++ left.drop k) := by rw [List.take_append_drop, eq]
      _ = (before ++ front) ++ x :: left.drop k := by rw [taken]; simp
  have inc' : Increasing key ((before ++ front) ++ x :: left.drop k) := split ▸ inc
  obtain ⟨_, behind, below⟩ := List.pairwise_append.mp inc'
  obtain ⟨above, _⟩ := List.pairwise_cons.mp behind
  have none_before : (before ++ front).filter (fun y => decide (key x < key y)) = [] := by
    refine List.filter_eq_nil_iff.mpr fun y mem => ?_
    have := below y mem x List.mem_cons_self
    simp only [decide_eq_true_eq]
    omega
  have all_behind : (left.drop k).filter (fun y => decide (key x < key y)) = left.drop k :=
    List.filter_eq_self.mpr fun y mem => decide_eq_true (above y mem)
  calc remaining key rows (some (key x))
      = rows.filter (fun y => decide (key x < key y)) := rfl
    _ = left.drop k := by
        rw [split, List.filter_append, none_before, List.nil_append,
          List.filter_cons_of_neg (by simp), all_behind]

/-- The row that a non-empty prefix ends with has the greatest key of it. -/
theorem le_last_of_increasing (inc : Increasing key rows) {x y : α}
    (last : rows.getLast? = some x) (mem : y ∈ rows) : key y ≤ key x := by
  obtain ⟨front, eq⟩ := List.getLast?_eq_some_iff.mp last
  rw [eq] at mem
  rcases List.mem_append.mp mem with before | here
  · have inc' : Increasing key (front ++ [x]) := eq ▸ inc
    exact le_of_lt ((List.pairwise_append.mp inc').2.2 y before x List.mem_cons_self)
  · rw [List.mem_singleton.mp here]

/-! ### Filtered pages -/

section Filtered

variable (key rows) (test : α → Bool) (n : Nat)

/-- The rows of a page that pass the test. -/
def filteredPage (after : Option ℤ) : List α := (page key rows n after).filter test

/-- Where a reader of such pages goes on: after the last row shown, if any. -/
def filteredNext (after : Option ℤ) : Option (Option ℤ) :=
  (filteredPage key rows test n after).getLast?.map fun x => some (key x)

/-- Wherever a page of rows comes before one that passes the test, so does one of
the page. -/
def NoGap (left : List α) : Prop :=
  ∀ i, (∃ x ∈ left.drop (i + n), test x) → ∃ x ∈ (left.drop i).take n, test x

variable {key rows test n}

/-- After a page without such a row there must be none. -/
theorem noGap_iff_of_none {left : List α} (none : ∀ x ∈ left.take n, ¬ test x) :
    NoGap test n left ↔ ∀ x ∈ left, ¬ test x := by
  constructor
  · intro gapless x mem passes
    rw [← List.take_append_drop n left] at mem
    rcases List.mem_append.mp mem with here | later
    · exact none x here passes
    · obtain ⟨y, first, also⟩ := gapless 0 ⟨x, by rwa [Nat.zero_add], passes⟩
      exact none y first also
  · rintro no_row i ⟨x, later, passes⟩
    exact absurd passes (no_row x (List.mem_of_mem_drop later))

/-- A row of the first page that passes leaves the condition to the rows behind. -/
theorem noGap_append_cons_iff {front rest : List α} {x : α} (passes : test x)
    (short : front.length < n) : NoGap test n (front ++ x :: rest) ↔ NoGap test n rest := by
  have behind : ∀ j, (front ++ x :: rest).drop (front.length + (j + 1)) = rest.drop j := by
    intro j
    rw [List.drop_length_add_append, List.drop_succ_cons]
  have shift : ∀ j, front.length + (j + 1) + n = front.length + (j + n + 1) := by
    intro j
    omega
  constructor
  · rintro gapless j ⟨y, later, also⟩
    have found := gapless (front.length + (j + 1)) ⟨y, by rwa [shift, behind], also⟩
    rwa [behind] at found
  · rintro gapless i ⟨y, later, also⟩
    by_cases before : i ≤ front.length
    · -- The rows from `i` on reach `x` within a page.
      obtain ⟨k, room⟩ : ∃ k, n - (front.drop i).length = k + 1 := by
        refine ⟨n - (front.drop i).length - 1, ?_⟩
        rw [List.length_drop]
        omega
      refine ⟨x, ?_, passes⟩
      rw [List.drop_append_of_le_length before, List.take_append, room, List.take_succ_cons]
      exact List.mem_append_right _ List.mem_cons_self
    · obtain ⟨j, rfl⟩ : ∃ j, i = front.length + (j + 1) :=
        ⟨i - front.length - 1, by omega⟩
      rw [shift, behind] at later
      rw [behind]
      exact gapless j ⟨y, later, also⟩

theorem filteredNext_eq_none_iff {after : Option ℤ} :
    filteredNext key rows test n after = none ↔
      ∀ x ∈ (remaining key rows after).take n, ¬ test x := by
  rw [filteredNext, Option.map_eq_none_iff, List.getLast?_eq_none_iff, filteredPage,
    List.filter_eq_nil_iff]
  exact Iff.rfl

/-- A reader that goes on leaves what is behind the last row shown. -/
theorem filteredNext_eq_some (inc : Increasing key rows) {after next : Option ℤ}
    (continues : filteredNext key rows test n after = some next) :
    ∃ front x rest, remaining key rows after = front ++ x :: rest ∧ front.length < n ∧ test x ∧
      filteredPage key rows test n after = (front ++ [x]).filter test ∧
      remaining key rows next = rest := by
  obtain ⟨x, last, rfl⟩ := Option.map_eq_some_iff.mp continues
  obtain ⟨earlier, shown⟩ := List.getLast?_eq_some_iff.mp last
  obtain ⟨first, second, split, _, tail⟩ := List.filter_eq_append_iff.mp shown
  obtain ⟨gap, behind, rfl, _, passes, none_behind⟩ := List.filter_eq_cons_iff.mp tail
  have taken : (remaining key rows after).take n = (first ++ gap) ++ x :: behind := by
    rw [List.append_assoc]
    exact split
  have whole : remaining key rows after =
      (first ++ gap) ++ x :: (behind ++ (remaining key rows after).drop n) := by
    calc remaining key rows after
        = (remaining key rows after).take n ++ (remaining key rows after).drop n :=
          (List.take_append_drop n _).symm
      _ = _ := by rw [taken, List.append_assoc, List.cons_append]
  have short : (first ++ gap).length < n := by
    have := List.length_take_le n (remaining key rows after)
    rw [taken, List.length_append, List.length_cons] at this
    omega
  refine ⟨first ++ gap, x, behind ++ (remaining key rows after).drop n, whole, short, passes, ?_, ?_⟩
  · rw [filteredPage, page, taken, List.append_cons, List.filter_append, none_behind,
      List.append_nil]
  · have upto : ((remaining key rows after).take ((first ++ gap).length + 1)).getLast? = some x := by
      rw [whole, List.take_length_add_append, List.take_succ_cons, List.take_zero,
        List.getLast?_concat]
    rw [remaining_after inc upto]
    nth_rewrite 1 [whole]
    rw [List.drop_length_add_append, List.drop_succ_cons, List.drop_zero]

/-- A reader of filtered pages stops after all, having seen every row that passes
the test exactly when there is no gap. -/
theorem filtered_traversal (inc : Increasing key rows) (after : Option ℤ) :
    ∃ cs, Visits (filteredNext key rows test n) after cs ∧
      ((∀ x ∈ remaining key rows after, test x →
          x ∈ cs.flatMap (filteredPage key rows test n)) ↔
        NoGap test n (remaining key rows after)) := by
  induction size : (remaining key rows after).length using Nat.strongRecOn generalizing after with
  | ind size_left ih =>
      cases step : filteredNext key rows test n after with
      | none =>
          have none_here := filteredNext_eq_none_iff.mp step
          have empty : filteredPage key rows test n after = [] := List.filter_eq_nil_iff.mpr none_here
          refine ⟨[after], .stop step, ?_⟩
          rw [noGap_iff_of_none none_here, List.flatMap_singleton, empty]
          simp only [List.not_mem_nil]
      | some next =>
          obtain ⟨front, x, rest, whole, short, passes, shows, leaves⟩ :=
            filteredNext_eq_some inc step
          have shorter : (remaining key rows next).length < size_left := by
            rw [leaves, ← size, whole, List.length_append, List.length_cons]
            omega
          obtain ⟨cs, visits, found_iff⟩ := ih _ shorter next rfl
          refine ⟨after :: cs, .more step visits, ?_⟩
          have ordered : Increasing key ((front ++ [x]) ++ rest) := by
            rw [← List.append_cons, ← whole]
            exact remaining_increasing inc after
          rw [leaves] at found_iff
          rw [whole, noGap_append_cons_iff passes short, ← found_iff, List.flatMap_cons, shows,
            List.append_cons]
          constructor
          · intro all y later also
            rcases List.mem_append.mp (all y (List.mem_append_right _ later) also) with here | there
            · have before := (List.pairwise_append.mp ordered).2.2 y (List.mem_of_mem_filter here)
                y later
              exact absurd before (lt_irrefl _)
            · exact there
          · intro all y mem also
            rcases List.mem_append.mp mem with here | later
            · exact List.mem_append_left _ (List.mem_filter.mpr ⟨here, also⟩)
            · exact List.mem_append_right _ (all y later also)

end Filtered

end Keyed

end Keyset
