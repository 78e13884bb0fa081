import Mathlib.Data.BitVec
import Mathlib.Data.List.Basic

/-! A fixed number of slots as the bits of a word: set, cleared one by one, merged,
and searched for the lowest that is clear. -/

namespace Bitmap
variable {w : Nat} (b : BitVec w)

/-- `b | 1 << i`. -/
def mark (i : Nat) : BitVec w := b ||| BitVec.twoPow w i

/-- `b & !(1 << i)`. -/
def clear (i : Nat) : BitVec w := b &&& ~~~BitVec.twoPow w i

/-- The number of set bits below the lowest clear one. -/
def trailingOnes : Nat := ((List.range w).find? fun i => !b.getLsbD i).getD w

/-- Merge another word in and take the lowest slot that is then clear. -/
def claim (other : BitVec w) : Option Nat × BitVec w :=
  let merged := b ||| other
  let free := trailingOnes merged
  if free ≥ w then (none, merged) else (some free, mark merged free)

variable {b} {other c : BitVec w} {i j : Nat}

theorem get_mark : (mark b i).getLsbD j = (b.getLsbD j || (decide (j < w) && decide (j = i))) := by
  simp only [mark, BitVec.getLsbD_or, BitVec.getLsbD_twoPow]
  by_cases same : i = j
  · simp [same]
  · simp [same, Ne.symm same]

theorem get_clear : (clear b i).getLsbD j = (b.getLsbD j && decide (j ≠ i)) := by
  simp only [clear, BitVec.getLsbD_and, BitVec.getLsbD_not, BitVec.getLsbD_twoPow]
  by_cases inside : j < w
  · by_cases same : i = j
    · simp [same, inside]
    · simp [same, Ne.symm same, inside]
  · rw [BitVec.getLsbD_of_ge b j (Nat.not_lt.mp inside)]
    simp

/-- The lowest clear bit, when there is one. -/
theorem get_trailing_ones (free : trailingOnes b < w) : b.getLsbD (trailingOnes b) = false := by
  rw [trailingOnes] at free ⊢
  cases found : (List.range w).find? fun i => !b.getLsbD i with
  | none =>
      rw [found] at free
      exact absurd free (Nat.lt_irrefl w)
  | some i => simpa using List.find?_some found

theorem trailing_ones_full : w ≤ trailingOnes b ↔ ∀ i < w, b.getLsbD i = true := by
  rw [trailingOnes]
  cases found : (List.range w).find? fun i => !b.getLsbD i with
  | none =>
      simp only [List.find?_eq_none, List.mem_range, Bool.not_eq_true', Bool.not_eq_false] at found
      exact iff_of_true (Nat.le_refl w) found
  | some i =>
      have inside : i < w := List.mem_range.mp (List.mem_of_find?_eq_some found)
      have clear : b.getLsbD i = false := by simpa using List.find?_some found
      refine iff_of_false (Nat.not_le.mpr inside) fun full => ?_
      cases clear.symm.trans (full i inside)

theorem claim_some (h : claim b other = (some i, c)) :
    i < w ∧ b.getLsbD i = false ∧ other.getLsbD i = false ∧
      ∀ j < w, c.getLsbD j = true ↔ (b.getLsbD j = true ∨ other.getLsbD j = true) ∨ j = i := by
  simp only [claim] at h
  split at h
  case isTrue => cases h
  case isFalse free =>
    cases h
    have inside := Nat.not_le.mp free
    have clear := get_trailing_ones inside
    rw [BitVec.getLsbD_or, Bool.or_eq_false_iff] at clear
    refine ⟨inside, clear.1, clear.2, fun j small => ?_⟩
    simp only [get_mark, BitVec.getLsbD_or, Bool.or_eq_true, Bool.and_eq_true, decide_eq_true_eq,
      small, true_and]

theorem claim_none (h : claim b other = (none, c)) :
    (∀ j < w, b.getLsbD j = true ∨ other.getLsbD j = true) ∧
      ∀ j, c.getLsbD j = true ↔ b.getLsbD j = true ∨ other.getLsbD j = true := by
  simp only [claim] at h
  split at h
  case isTrue full =>
    obtain ⟨-, rfl⟩ := Prod.mk.inj h
    simp only [BitVec.getLsbD_or, Bool.or_eq_true, implies_true, and_true]
    intro j small
    simpa only [BitVec.getLsbD_or, Bool.or_eq_true] using trailing_ones_full.mp full j small
  case isFalse => cases h

end Bitmap
