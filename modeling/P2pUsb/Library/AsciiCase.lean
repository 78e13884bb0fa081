import Mathlib.Data.List.Basic
import Mathlib.Data.Nat.Digits.Defs

/-! Text up to the case of its ASCII letters, character by character. -/

namespace Char

/-- Only the capital letters move, and they move to the small ones. -/
theorem toLower_cases (c : Char) :
    c.toLower = c ∨ 65 ≤ c.toNat ∧ c.toNat ≤ 90 ∧ c.toLower.toNat = c.toNat + 32 := by
  unfold toLower
  split
  case isTrue capital =>
    have low : 65 ≤ c.toNat := capital.1
    have high : c.toNat ≤ 90 := capital.2
    refine .inr ⟨low, high, ?_⟩
    have sum : (c.val + ('a'.val - 'A'.val)).toNat = (c.toNat + 32) % 2 ^ 32 := UInt32.toNat_add _ _
    rw [Nat.mod_eq_of_lt (by omega)] at sum
    exact sum
  case isFalse => exact .inl rfl

@[simp] theorem toLower_toLower (c : Char) : c.toLower.toLower = c.toLower := by
  rcases c.toLower.toLower_cases with same | ⟨_, high, _⟩
  · exact same
  rcases c.toLower_cases with same | ⟨low, _, moved⟩
  · rw [same, same]
  · omega

/-- Nothing else lowers to a character below the small letters. -/
theorem toLower_eq_iff {c d : Char} (low : d.toNat < 97) (notCapital : d.toLower = d) :
    c.toLower = d ↔ c = d := by
  constructor
  · intro lowered
    rcases c.toLower_cases with same | ⟨capital, _, moved⟩
    · rw [← same, lowered]
    · rw [lowered] at moved
      omega
  · rintro rfl
    exact notCapital

end Char

namespace List

@[simp] theorem map_toLower_map_toLower (text : List Char) :
    (text.map Char.toLower).map Char.toLower = text.map Char.toLower := by
  simp only [map_map, Function.comp_def, Char.toLower_toLower]

theorem map_toLower_eq_singleton {text : List Char} {d : Char} (low : d.toNat < 97)
    (notCapital : d.toLower = d) : text.map Char.toLower = [d] ↔ text = [d] := by
  rw [map_eq_singleton_iff]
  simp only [Char.toLower_eq_iff low notCapital, exists_eq_right]

end List

namespace Nat

/-- Hexadecimal digits are written with small letters. -/
theorem map_toLower_toDigits (n : Nat) :
    (toDigits 16 n).map Char.toLower = toDigits 16 n := by
  have digit : ∀ d < 16, (digitChar d).toLower = digitChar d := by decide
  induction n using Nat.strong_induction_on with
  | _ n ih =>
      by_cases small : n < 16
      · rw [toDigits_of_lt_base small, List.map_singleton, digit n small]
      · rw [toDigits_of_base_le (by decide) (by omega), List.map_append, List.map_singleton,
          ih (n / 16) (by omega), digit (n % 16) (by omega)]

end Nat
