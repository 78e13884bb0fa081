import Mathlib.Algebra.BigOperators.Intervals
import Mathlib.Algebra.Order.BigOperators.Group.Finset
import Mathlib.Algebra.Group.Action.Defs

/-! The Gregorian calendar. The days are numbered through, from the first day of year 0 on;
the numbers and the dates have the same order, and each number is the number of one date. -/
namespace Calendar

/-! ### Spans laid end to end -/

/-- The first position of span `j` where span `i` starts at 0. -/
def distance (length : Nat → Nat) (i j : Nat) : Nat := ∑ k ∈ Finset.Ico i j, length k

section Spans
variable {length : Nat → Nat} {i j k r s : Nat}

@[simp] theorem distance_self : distance length i i = 0 := by
  rw [distance, Finset.Ico_self, Finset.sum_empty]

theorem distance_succ (le : i ≤ j) : distance length i (j + 1) = distance length i j + length j :=
  Finset.sum_Ico_succ_top le length

theorem distance_head (lt : i < j) : distance length i j = length i + distance length (i + 1) j :=
  Finset.sum_eq_sum_Ico_succ_bot lt length

theorem distance_add (first : i ≤ j) (second : j ≤ k) :
    distance length i j + distance length j k = distance length i k :=
  Finset.sum_Ico_consecutive length first second

theorem distance_le (bound : ∀ k, length k ≤ r) : distance length i j ≤ (j - i) * r := by
  refine (Finset.sum_le_card_nsmul _ _ r fun k _ => bound k).trans_eq ?_
  rw [Nat.card_Ico, smul_eq_mul]

/-- A position of one span is before every later span. -/
theorem before_span (inside : r < length j) (from_le : i ≤ j) (later : j < k) :
    distance length i j + r < distance length i k := by
  calc distance length i j + r < distance length i (j + 1) := by
        rw [distance_succ from_le]
        omega
    _ ≤ distance length i k := by
        rw [← distance_add (show i ≤ j + 1 by omega) later]
        omega

/-- Each position lies in a span. -/
theorem exists_span (positive : ∀ k, 0 < length k) (n : Nat) :
    ∃ j r, i ≤ j ∧ r < length j ∧ distance length i j + r = n := by
  induction n with
  | zero => exact ⟨i, 0, le_rfl, positive i, by rw [distance_self]⟩
  | succ n ih =>
      obtain ⟨j, r, le, inside, rfl⟩ := ih
      by_cases next : r + 1 < length j
      · exact ⟨j, r + 1, le, next, rfl⟩
      · refine ⟨j + 1, 0, by omega, positive _, ?_⟩
        rw [distance_succ le]
        omega

end Spans

/-! ### Dates -/

/-- Every fourth year, but of the hundreds only every fourth. -/
def Leap (year : Nat) : Prop := 4 ∣ year ∧ ¬100 ∣ year ∨ 400 ∣ year

instance : DecidablePred Leap := fun year =>
  inferInstanceAs (Decidable (4 ∣ year ∧ ¬100 ∣ year ∨ 400 ∣ year))

def yearLength (year : Nat) : Nat := if Leap year then 366 else 365

def monthLength (year month : Nat) : Nat :=
  match month with
  | 2 => if Leap year then 29 else 28
  | 4 | 6 | 9 | 11 => 30
  | _ => 31

theorem year_length_pos (year : Nat) : 0 < yearLength year := by
  unfold yearLength
  split <;> decide

theorem year_length_le (year : Nat) : yearLength year ≤ 366 := by
  unfold yearLength
  split <;> decide

theorem month_length_pos (year month : Nat) : 0 < monthLength year month := by
  unfold monthLength
  repeat' split
  all_goals decide

theorem month_length_le (year month : Nat) : monthLength year month ≤ 31 := by
  unfold monthLength
  repeat' split
  all_goals decide

/-- The months fill the year. -/
theorem distance_months (year : Nat) : distance (monthLength year) 1 13 = yearLength year := by
  rw [distance, Finset.sum_Ico_eq_sum_range, yearLength]
  by_cases leap : Leap year <;> simp [Finset.sum_range_succ, monthLength, leap]

@[ext] structure Date where
  year : Nat
  month : Nat
  day : Nat
  month_pos : 1 ≤ month
  month_le : month ≤ 12
  day_pos : 1 ≤ day
  day_le : day ≤ monthLength year month

namespace Date
variable {a b date : Date}

/-- The days of the year before the date. -/
def dayOfYear (date : Date) : Nat :=
  distance (monthLength date.year) 1 date.month + (date.day - 1)

/-- The days before the date. -/
def ordinal (date : Date) : Nat := distance yearLength 0 date.year + date.dayOfYear

def Before (a b : Date) : Prop :=
  a.year < b.year ∨ a.year = b.year ∧ (a.month < b.month ∨ a.month = b.month ∧ a.day < b.day)

theorem day_of_year_lt (date : Date) : date.dayOfYear < yearLength date.year := by
  have inside : date.day - 1 < monthLength date.year date.month := by
    have := date.day_pos
    have := date.day_le
    omega
  rw [← distance_months]
  exact before_span inside date.month_pos (Nat.lt_succ_of_le date.month_le)

theorem Before.ordinal_lt (before : a.Before b) : a.ordinal < b.ordinal := by
  obtain year | ⟨year, month | ⟨month, day⟩⟩ := before
  · exact (before_span a.day_of_year_lt (Nat.zero_le _) year).trans_le (Nat.le_add_right _ _)
  · have inside : a.day - 1 < monthLength a.year a.month := by
      have := a.day_pos
      have := a.day_le
      omega
    have ahead := before_span inside a.month_pos month
    simp only [ordinal, dayOfYear, year] at ahead ⊢
    omega
  · have := a.day_pos
    simp only [ordinal, dayOfYear, year, month]
    omega

theorem before_trichotomy (a b : Date) : a.Before b ∨ a = b ∨ b.Before a := by
  unfold Before
  by_cases same : a.year = b.year ∧ a.month = b.month ∧ a.day = b.day
  · exact .inr (.inl (Date.ext same.1 same.2.1 same.2.2))
  · omega

theorem ordinal_lt_iff : a.ordinal < b.ordinal ↔ a.Before b := by
  refine ⟨fun lt => ?_, Before.ordinal_lt⟩
  obtain before | rfl | after := before_trichotomy a b
  · exact before
  · exact (lt_irrefl _ lt).elim
  · exact (lt_asymm lt after.ordinal_lt).elim

theorem ordinal_injective : Function.Injective ordinal := by
  intro a b same
  obtain before | equal | after := before_trichotomy a b
  · exact (before.ordinal_lt.ne same).elim
  · exact equal
  · exact (after.ordinal_lt.ne' same).elim

theorem exists_ordinal (n : Nat) : ∃ date : Date, date.ordinal = n := by
  obtain ⟨year, rest, -, within, rfl⟩ := exists_span (i := 0) year_length_pos n
  obtain ⟨month, day, month_pos, inside, rfl⟩ :=
    exists_span (i := 1) (month_length_pos year) rest
  have month_le : month ≤ 12 := by
    by_contra late
    rw [← distance_months, ← distance_add (show 1 ≤ 13 by omega)
      (show 13 ≤ month by omega)] at within
    omega
  exact ⟨⟨year, month, day + 1, month_pos, month_le, Nat.succ_pos day, inside⟩, rfl⟩

/-- The order of the days, with an order `T` of the times of one day. -/
theorem before_or_iff {T : Prop} :
    (a.year < b.year ∨ a.year = b.year ∧
      (a.month < b.month ∨ a.month = b.month ∧ (a.day < b.day ∨ a.day = b.day ∧ T))) ↔
      a.ordinal < b.ordinal ∨ a.ordinal = b.ordinal ∧ T := by
  have same : a.ordinal = b.ordinal ↔ a.year = b.year ∧ a.month = b.month ∧ a.day = b.day := by
    rw [ordinal_injective.eq_iff, Date.ext_iff]
  rw [ordinal_lt_iff, same, Before]
  tauto

end Date
end Calendar
