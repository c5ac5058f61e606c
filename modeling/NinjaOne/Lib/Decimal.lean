import Mathlib.Data.Nat.Notation
import Mathlib.Tactic.IntervalCases

/-!
Integers in decimal: how `toString` writes them, and how they are read back.

* `toList_toString_ofNat`, `toList_toString_neg`: digits, and a sign before them.
* `read_toString`: what is written is read back.
* `head_toDigits`: there is no leading zero.
-/

namespace Decimal

/-! ### Writing -/

theorem toList_toString_ofNat (n : ℕ) : (toString (n : Int)).toList = Nat.toDigits 10 n :=
  Nat.toList_repr

theorem toList_toString_neg (n : ℕ) :
    (toString (Int.negSucc n)).toList = '-' :: Nat.toDigits 10 (n + 1) := by
  have signed : (toString (Int.negSucc n)).toList = '-' :: (n + 1).repr.toList :=
    String.toList_append
  rw [signed, Nat.toList_repr]

theorem isDigit_toDigits {n : ℕ} : ∀ c ∈ Nat.toDigits 10 n, c.isDigit = true := fun _ mem =>
  Nat.isDigit_of_mem_toDigits (by decide) (by decide) mem

theorem toDigits_ne_nil (n : ℕ) : Nat.toDigits 10 n ≠ [] := fun nil =>
  absurd (congrArg List.length nil) (Nat.ne_of_gt Nat.length_toDigits_pos)

/-- Only zero is written with a leading zero. -/
theorem head_toDigits {n : ℕ} (zero : (Nat.toDigits 10 n).head? = some '0') : n = 0 := by
  induction n using Nat.strongRecOn with
  | _ n ih =>
      rw [Nat.toDigits_eq_if (by decide)] at zero
      split at zero
      · rename_i small
        interval_cases n <;> first | rfl | cases zero
      · rename_i large
        have less : n / 10 < n := by omega
        have front : (Nat.toDigits 10 (n / 10)).head? = some '0' := by
          cases written : Nat.toDigits 10 (n / 10) with
          | nil => exact absurd written (toDigits_ne_nil _)
          | cons d rest =>
              rw [written, List.cons_append] at zero
              exact zero
        have none := ih (n / 10) less front
        omega

/-! ### Reading -/

def readNat (digits : List Char) : Option ℕ :=
  if digits ≠ [] ∧ digits.all Char.isDigit then some (Nat.ofDigitChars 10 digits 0) else none

def read : List Char → Option Int
  | '-' :: digits => (readNat digits).map fun n => -(n : Int)
  | digits => (readNat digits).map Int.ofNat

theorem readNat_toDigits (n : ℕ) : readNat (Nat.toDigits 10 n) = some n := by
  have digits : (Nat.toDigits 10 n).all Char.isDigit = true :=
    List.all_eq_true.mpr isDigit_toDigits
  rw [readNat, if_pos ⟨toDigits_ne_nil n, digits⟩, Nat.ofDigitChars_ten_toDigits]

theorem read_of_digits {digits : List Char} (all : ∀ c ∈ digits, c.isDigit = true) :
    read digits = (readNat digits).map Int.ofNat := by
  unfold read
  split
  · exact absurd (all '-' List.mem_cons_self) (by decide)
  · rfl

/-- What is written is read back. -/
theorem read_toString (n : Int) : read (toString n).toList = some n := by
  cases n with
  | ofNat n =>
      have written := toList_toString_ofNat n
      rw [Int.ofNat_eq_natCast, written, read_of_digits isDigit_toDigits, readNat_toDigits]
      rfl
  | negSucc n =>
      rw [toList_toString_neg, read, readNat_toDigits]
      rfl

end Decimal
