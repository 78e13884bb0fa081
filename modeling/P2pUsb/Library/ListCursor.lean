import Mathlib.Data.List.Nodup

/-! A place in a list, kept as an index while elements are taken out of the list. -/
namespace ListCursor
variable {α : Type*} {l : List α} {i : Nat}

/-- There is an element at the place, or none at all. -/
def Within (i : Nat) (l : List α) : Prop := l = [] ∨ i < l.length

instance [DecidableEq α] : Decidable (Within i l) :=
  inferInstanceAs (Decidable (l = [] ∨ i < l.length))

theorem Within.isSome (h : Within i l) (filled : l ≠ []) : l[i]?.isSome := by
  rw [List.getElem?_eq_getElem (h.resolve_left filled)]
  rfl

/-- The place keeps its element where nothing before it goes. -/
theorem getElem?_filter_of_before {p : α → Bool} (before : ∀ x ∈ l.take i, p x = true)
    (own : ∀ x, l[i]? = some x → p x = true) : (l.filter p)[i]? = l[i]? := by
  induction l generalizing i with
  | nil => rfl
  | cons x xs ih =>
      cases i with
      | zero =>
          rw [List.filter_cons_of_pos (own x rfl)]
          rfl
      | succ i =>
          rw [List.filter_cons_of_pos (before x List.mem_cons_self), List.getElem?_cons_succ,
            List.getElem?_cons_succ]
          exact ih (fun y mem => before y (List.mem_cons_of_mem x mem)) own

section Remove
variable [DecidableEq α] {a : α}

theorem length_filter_ne (distinct : l.Nodup) :
    (l.filter (· != a)).length = if a ∈ l then l.length - 1 else l.length := by
  rw [← distinct.erase_eq_filter]
  split
  case isTrue mem => exact List.length_erase_of_mem mem
  case isFalse absent => rw [List.erase_of_not_mem absent]

/-- A place moves down by one where the list ends before it. -/
def clamp (i : Nat) (l : List α) : Nat := if i ≥ l.length ∧ i > 0 then i - 1 else i

theorem clamp_le (distinct : l.Nodup) (h : i ≤ l.length - 1) :
    clamp i (l.filter (· != a)) ≤ (l.filter (· != a)).length - 1 := by
  have length := length_filter_ne (a := a) distinct
  unfold clamp
  split at length <;> split <;> omega

/-- The last element keeps its place in this way. -/
theorem getElem?_clamp_last {last : α} (distinct : l.Nodup) (own : l[i]? = some last)
    (final : i + 1 = l.length) (other : last ≠ a) :
    (l.filter (· != a))[clamp i (l.filter (· != a))]? = some last := by
  have ends : l.getLast? = some last := by
    rw [List.getLast?_eq_getElem?, ← final]
    exact own
  obtain ⟨front, rfl⟩ := List.getLast?_eq_some_iff.mp ends
  have length := length_filter_ne (a := a) (List.nodup_append.mp distinct).1
  have kept : (front ++ [last]).filter (· != a) = front.filter (· != a) ++ [last] := by
    simp [List.filter_append, other]
  have place : clamp i (front.filter (· != a) ++ [last]) = (front.filter (· != a)).length := by
    simp only [List.length_append, List.length_singleton] at final
    rw [clamp, List.length_append, List.length_singleton, length]
    by_cases mem : a ∈ front
    · have positive := List.length_pos_of_mem mem
      rw [if_pos mem, if_pos (by omega)]
      omega
    · rw [if_neg mem, if_neg (by omega)]
      omega
  rw [kept, place]
  simp

end Remove
end ListCursor
