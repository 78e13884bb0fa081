import Mathlib.Algebra.Order.Group.Nat
import Mathlib.Tactic.SplitIfs

/-! Intervals on a clock face of `n` marks. An interval runs from its start mark
up to its stop mark, which it leaves out, and past the last mark if need be. -/
namespace ClockFace
variable {n start stop t k unit y z : Nat}

def Mem (start stop t : Nat) : Prop :=
  if start ≤ stop then start ≤ t ∧ t < stop else start ≤ t ∨ t < stop

/-- The marks from `t` to the next time the hand is at `stop`. -/
def marksLeft (n stop t : Nat) : Nat := if t < stop then stop - t else n - t + stop

/-- The distance from `t` forward to `stop`. -/
def forward (n t stop : Nat) : Nat := (stop + n - t) % n

theorem forward_lt (face : t < n) : forward n t stop < n := Nat.mod_lt _ (by omega)

theorem marks_left_pos (face : t < n) : 0 < marksLeft n stop t := by
  unfold marksLeft
  split <;> omega

/-- The hand does not leave the interval before it reaches the stop mark. -/
theorem mem_add (face : t < n) (last : stop < n) (inside : Mem start stop t)
    (early : k < marksLeft n stop t) : Mem start stop ((t + k) % n) := by
  unfold Mem at inside ⊢
  unfold marksLeft at early
  by_cases turns : t + k < n
  · rw [Nat.mod_eq_of_lt turns]
    split_ifs at inside early ⊢ <;> omega
  · have once : (t + k) % n = t + k - n := by
      rw [Nat.mod_eq_sub_mod (by omega)]
      exact Nat.mod_eq_of_lt (by split_ifs at early <;> omega)
    rw [once]
    split_ifs at inside early ⊢ <;> omega

theorem add_marks_left (face : t < n) (last : stop < n) : (t + marksLeft n stop t) % n = stop := by
  unfold marksLeft
  split
  case isTrue ahead => rw [Nat.add_sub_cancel' ahead.le, Nat.mod_eq_of_lt last]
  case isFalse =>
    have turn : t + (n - t + stop) = stop + n := by omega
    rw [turn, Nat.add_mod_right, Nat.mod_eq_of_lt last]

theorem stop_not_mem : ¬ Mem start stop stop := by
  unfold Mem
  split_ifs <;> omega

theorem marks_left_eq_forward (face : t < n) (last : stop < n) (apart : t ≠ stop) :
    marksLeft n stop t = forward n t stop := by
  unfold marksLeft forward
  split
  case isTrue ahead =>
    have turn : stop + n - t = stop - t + n := by omega
    rw [turn, Nat.add_mod_right, Nat.mod_eq_of_lt (by omega)]
  case isFalse behind =>
    rw [Nat.mod_eq_of_lt (by omega)]
    omega

/-- If the hand stays inside for a number of marks, it is outside only from the
tick after them on, wherever between two marks it started. -/
theorem outside_ge (inside : Nat → Prop) {marks : Nat}
    (stays : ∀ k < marks, inside ((y / unit + k) % n)) (later : y ≤ z)
    (outside : ¬ inside (z / unit % n)) : (y / unit + marks) * unit ≤ z := by
  by_contra early
  have ahead : y / unit ≤ z / unit := Nat.div_le_div_right later
  have before : z / unit < y / unit + marks := by
    by_contra beyond
    exact early ((Nat.mul_le_mul_right unit (not_lt.mp beyond)).trans (Nat.div_mul_le_self z unit))
  refine outside ?_
  have here := stays (z / unit - y / unit) (by omega)
  rwa [Nat.add_sub_cancel' ahead] at here

end ClockFace
