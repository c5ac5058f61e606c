import Mathlib.Data.Finset.Card
import Mathlib.Data.Nat.Count
import Mathlib.Order.Bounds.Basic

/-!
A bounded attempt loop, seen from outside: attempts are made one after another
while their outcome is transient, at most `retries` times after the first one.
`last` is the index of the attempt that ends the loop.

* `last_le`, `transient_of_lt_last`: everything before the last attempt was
  transient, and the budget is kept.
* `last_stops`: the last attempt was not transient, or the budget is used up;
  `last_isLeast` makes it the first such one.
* `le_last_iff`: attempt `j` is made exactly when all earlier ones were
  transient and `j` is within the budget.
* `count_le_one_iff`: attempts with an effect happen at most once exactly when
  no attempt with an effect is followed by transient outcomes up to another one.
-/

namespace Retry

variable (transient : Nat → Bool)

/-- The last attempt made, with `retries` left after attempt `attempt`. -/
def lastFrom : (retries attempt : Nat) → Nat
  | 0, attempt => attempt
  | retries + 1, attempt =>
      if transient attempt then lastFrom retries (attempt + 1) else attempt

/-- The index of the last attempt of a loop with `retries` retries. -/
def last (retries : Nat) : Nat := lastFrom transient retries 0

theorem lastFrom_bounds (retries attempt : Nat) :
    attempt ≤ lastFrom transient retries attempt ∧
      lastFrom transient retries attempt ≤ attempt + retries := by
  induction retries generalizing attempt with
  | zero => simp [lastFrom]
  | succ retries ih =>
      unfold lastFrom
      split
      · have := ih (attempt + 1)
        omega
      · omega

/-- Attempt `j` is made exactly when every attempt before it was transient. -/
theorem le_lastFrom_iff (retries attempt : Nat) {j : Nat} (from_here : attempt ≤ j) :
    j ≤ lastFrom transient retries attempt ↔
      j ≤ attempt + retries ∧ ∀ i, attempt ≤ i → i < j → transient i = true := by
  induction retries generalizing attempt with
  | zero =>
      simp only [lastFrom, Nat.add_zero]
      constructor
      · intro le
        exact ⟨le, fun i ge lt => by omega⟩
      · exact fun h => h.1
  | succ retries ih =>
      unfold lastFrom
      split
      · rename_i here
        by_cases eq : j = attempt
        · subst eq
          have := (lastFrom_bounds transient retries (j + 1)).1
          constructor
          · intro _
            exact ⟨by omega, fun i ge lt => by omega⟩
          · intro _
            omega
        · rw [ih (attempt + 1) (by omega)]
          constructor
          · rintro ⟨le, all⟩
            refine ⟨by omega, fun i ge lt => ?_⟩
            rcases Nat.eq_or_lt_of_le ge with rfl | later
            · exact here
            · exact all i later lt
          · rintro ⟨le, all⟩
            exact ⟨by omega, fun i ge lt => all i (by omega) lt⟩
      · rename_i stop
        constructor
        · intro le
          exact ⟨by omega, fun i ge lt => by omega⟩
        · rintro ⟨_, all⟩
          by_contra beyond
          exact stop (all attempt (Nat.le_refl _) (by omega))

theorem le_last_iff {retries j : Nat} :
    j ≤ last transient retries ↔ j ≤ retries ∧ ∀ i < j, transient i = true := by
  rw [last, le_lastFrom_iff transient retries 0 (Nat.zero_le j), Nat.zero_add]
  constructor
  · exact fun h => ⟨h.1, fun i lt => h.2 i (Nat.zero_le i) lt⟩
  · exact fun h => ⟨h.1, fun i _ lt => h.2 i lt⟩

theorem last_le (retries : Nat) : last transient retries ≤ retries :=
  ((le_last_iff transient).mp (Nat.le_refl _)).1

theorem transient_of_lt_last {retries i : Nat} (lt : i < last transient retries) :
    transient i = true :=
  ((le_last_iff transient).mp (Nat.le_refl _)).2 i lt

/-- The loop ends at an outcome that is not transient, or with its budget. -/
theorem last_stops (retries : Nat) :
    transient (last transient retries) = false ∨ last transient retries = retries := by
  by_cases settled : transient (last transient retries) = true
  · refine Or.inr (Nat.le_antisymm (last_le transient retries) ?_)
    by_contra short
    have more : last transient retries + 1 ≤ last transient retries := by
      rw [le_last_iff]
      refine ⟨by omega, fun i lt => ?_⟩
      rcases Nat.eq_or_lt_of_le (Nat.le_of_lt_succ lt) with rfl | before
      · exact settled
      · exact transient_of_lt_last transient before
    omega
  · exact Or.inl (Bool.eq_false_iff.mpr settled)

/-- **The loop ends at the first outcome that is not transient**, or with its
budget where there is none. -/
theorem last_isLeast (retries : Nat) :
    IsLeast {i | i ≤ retries ∧ transient i = false} (last transient retries) ∨
      last transient retries = retries ∧ ∀ i ≤ retries, transient i = true := by
  cases settled : transient (last transient retries) with
  | false =>
      refine Or.inl ⟨⟨last_le transient retries, settled⟩, ?_⟩
      rintro i ⟨_, stops⟩
      by_contra before
      have goes_on := transient_of_lt_last transient (Nat.lt_of_not_le before)
      rw [stops] at goes_on
      cases goes_on
  | true =>
      have spent : last transient retries = retries := by
        rcases last_stops transient retries with stopped | spent
        · rw [settled] at stopped
          cases stopped
        · exact spent
      refine Or.inr ⟨spent, ?_⟩
      intro i le
      rcases Nat.eq_or_lt_of_le (spent.symm ▸ le : i ≤ last transient retries) with rfl | before
      · exact settled
      · exact transient_of_lt_last transient before

/-! ### Effects of attempts -/

theorem natCount_le_one_iff (p : Nat → Prop) [DecidablePred p] (n : Nat) :
    n.count p ≤ 1 ↔ ∀ i j, i < j → j < n → ¬ (p i ∧ p j) := by
  rw [Nat.count_eq_card_filter_range, Finset.card_le_one]
  simp only [Finset.mem_filter, Finset.mem_range]
  constructor
  · rintro one i j lt le ⟨here, there⟩
    exact absurd (one i ⟨lt.trans le, here⟩ j ⟨le, there⟩) (Nat.ne_of_lt lt)
  · rintro apart i ⟨i_lt, here⟩ j ⟨j_lt, there⟩
    rcases Nat.lt_trichotomy i j with lt | eq | gt
    · exact absurd ⟨here, there⟩ (apart i j lt j_lt)
    · exact eq
    · exact absurd ⟨there, here⟩ (apart j i gt i_lt)

/-- Over one run of the loop, an effect happens at most once exactly when no two
attempts have it that are joined by transient outcomes. -/
theorem count_le_one_iff (effect : Nat → Prop) [DecidablePred effect] (retries : Nat) :
    (last transient retries + 1).count effect ≤ 1 ↔
      ∀ i j, i < j → j ≤ retries → (∀ k < j, transient k = true) → ¬ (effect i ∧ effect j) := by
  rw [natCount_le_one_iff]
  constructor
  · intro apart i j lt le all
    exact apart i j lt (Nat.lt_succ_of_le ((le_last_iff transient).mpr ⟨le, all⟩))
  · intro apart i j lt made
    obtain ⟨le, all⟩ := (le_last_iff transient).mp (Nat.le_of_lt_succ made)
    exact apart i j lt le all

end Retry
