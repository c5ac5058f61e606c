import Mathlib.Order.Bounds.Basic

/-!
Upper-middle bisection: the loop

    while lo < hi:
        mid = (lo + hi + 1) // 2
        if ok(mid): lo = mid
        else:       hi = mid - 1

The upper middle makes the loop terminate when `ok(mid)` sets `lo = mid`. The
test never reads `lo` itself, so the start is returned untested when nothing
above it passes.

* `bisect_mem_Icc`: the answer stays between the two ends.
* `bisect_ok`: the answer passes the test, or is the untested start.
* `bisect_lt_fails`: for a test that fails upwards once it fails, everything
  above the answer fails.
* `bisect_ok_iff`: so the answer passes exactly when the start does, and
  `le_bisect` makes it the greatest index that passes; `bisect_greatest` says both.
-/

namespace Bisect

/-- The loop above, from the interval `[lo, hi]`. -/
def bisect (ok : Nat → Bool) (lo hi : Nat) : Nat :=
  if lo < hi then
    let mid := (lo + hi + 1) / 2
    if ok mid then bisect ok mid hi else bisect ok lo (mid - 1)
  else lo
termination_by hi - lo

/-- Passing is inherited downwards: a longer prefix never fits where a shorter
one does not. -/
def DownClosed (ok : Nat → Bool) : Prop :=
  ∀ i j, i ≤ j → ok j = true → ok i = true

variable {ok : Nat → Bool} {lo hi : Nat}

theorem bisect_mem_Icc (le : lo ≤ hi) : lo ≤ bisect ok lo hi ∧ bisect ok lo hi ≤ hi := by
  fun_induction bisect ok lo hi with
  | case1 lo hi lt mid pass ih =>
      have := ih (by omega)
      omega
  | case2 lo hi lt mid fail ih =>
      have := ih (by omega)
      omega
  | case3 lo hi stop => omega

/-- The answer was probed and passed, unless the search never left its start. -/
theorem bisect_ok : ok (bisect ok lo hi) = true ∨ bisect ok lo hi = lo := by
  fun_induction bisect ok lo hi with
  | case1 lo hi lt mid pass ih =>
      rcases ih with passes | start
      · exact Or.inl passes
      · rw [start]
        exact Or.inl pass
  | case2 lo hi lt mid fail ih => exact ih
  | case3 lo hi stop => exact Or.inr rfl

/-- Everything between the answer and the upper end fails. -/
theorem bisect_lt_fails (down : DownClosed ok) {j : Nat} (above : bisect ok lo hi < j)
    (le : j ≤ hi) : ok j = false := by
  fun_induction bisect ok lo hi with
  | case1 lo hi lt mid pass ih => exact ih above le
  | case2 lo hi lt mid fail ih =>
      by_cases inside : j ≤ mid - 1
      · exact ih above inside
      · -- `j` is at or above the probed middle, which failed.
        rw [Bool.eq_false_iff]
        exact fun pass => fail (down mid j (by omega) pass)
  | case3 lo hi stop => omega

/-- An index that passes is at most the answer. -/
theorem le_bisect (down : DownClosed ok) {j : Nat} (pass : ok j = true) (le : j ≤ hi) :
    j ≤ bisect ok lo hi := by
  by_contra above
  rw [bisect_lt_fails down (Nat.lt_of_not_le above) le] at pass
  contradiction

/-- The answer passes exactly when the start does. -/
theorem bisect_ok_iff (down : DownClosed ok) (le : lo ≤ hi) :
    ok (bisect ok lo hi) = true ↔ ok lo = true := by
  constructor
  · exact fun pass => down _ _ (bisect_mem_Icc le).1 pass
  · intro start
    rcases @bisect_ok ok lo hi with pass | eq
    · exact pass
    · rw [eq]
      exact start

/-- When the upper end fails, the search stops strictly below it. -/
theorem bisect_lt (below : lo < hi) (fail : ok hi = false) : bisect ok lo hi < hi := by
  have le : bisect ok lo hi ≤ hi := (bisect_mem_Icc (Nat.le_of_lt below)).2
  refine Nat.lt_of_le_of_ne le fun eq => ?_
  rcases @bisect_ok ok lo hi with pass | start
  · rw [eq, fail] at pass
    contradiction
  · omega

/-- **The answer is the greatest index that passes**, or the start where none
does. -/
theorem bisect_greatest (down : DownClosed ok) (le : lo ≤ hi) :
    IsGreatest {j | lo ≤ j ∧ j ≤ hi ∧ ok j = true} (bisect ok lo hi) ∨
      bisect ok lo hi = lo ∧ ∀ j, lo ≤ j → ok j = false := by
  obtain ⟨lower, upper⟩ := @bisect_mem_Icc ok lo hi le
  by_cases pass : ok (bisect ok lo hi) = true
  · refine Or.inl ⟨⟨lower, upper, pass⟩, ?_⟩
    rintro j ⟨_, below, passes⟩
    exact le_bisect down passes below
  · have fails : ok lo = false :=
      Bool.eq_false_iff.mpr fun start => pass ((bisect_ok_iff down le).mpr start)
    refine Or.inr ⟨bisect_ok.resolve_left pass, ?_⟩
    intro j above
    exact Bool.eq_false_iff.mpr fun passes => Bool.eq_false_iff.mp fails (down lo j above passes)

end Bisect
