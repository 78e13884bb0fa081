import Mathlib.Algebra.Order.BigOperators.Group.List
import Mathlib.Algebra.Order.Ring.Defs
import Mathlib.Tactic.Linarith
import Mathlib.Tactic.Ring

/-! Amounts that pass over time, against a level that gains at a given rate up to a
given burst and pays for what passes: no window sees more than the burst and the gain,
as long as the level stays above zero and no longer. -/

namespace Metering
variable {K : Type*} [CommRing K] [LinearOrder K]

/-- What has passed from a moment on, each with its time. -/
def since (a : K) (tr : List (K × K)) : K := ((tr.filter fun e => a ≤ e.1).map Prod.snd).sum

def within (a b : K) (tr : List (K × K)) : K :=
  ((tr.filter fun e => a ≤ e.1 ∧ e.1 ≤ b).map Prod.snd).sum

/-- What has passed and the level that is left are paid for, and from some moment on they
are all that there was. -/
structure Metered (burst rate : K) (tr : List (K × K)) (now level : K) : Prop where
  past : ∀ e ∈ tr, e.1 ≤ now
  amounts : ∀ e ∈ tr, 0 ≤ e.2
  paid : ∀ a ≤ now, since a tr + level ≤ burst + rate * (now - a)
  spent : ∃ a ≤ now, burst + rate * (now - a) ≤ since a tr + level

/-- No window sees more than the burst and the gain. -/
def Bounded (burst rate : K) (tr : List (K × K)) : Prop :=
  ∀ a T, 0 ≤ T → within a (a + T) tr ≤ burst + rate * T

variable {burst rate now now' level a b x : K} {tr : List (K × K)}

theorem since_append : since a (tr ++ [(now, x)]) = since a tr + if a ≤ now then x else 0 := by
  by_cases inside : a ≤ now <;> simp [since, inside]

theorem within_append :
    within a b (tr ++ [(now, x)]) = within a b tr + if a ≤ now ∧ now ≤ b then x else 0 := by
  by_cases inside : a ≤ now ∧ now ≤ b <;> simp [within, inside]

theorem since_future (past : ∀ e ∈ tr, e.1 ≤ now) (later : now < a) : since a tr = 0 := by
  have none : (tr.filter fun e => a ≤ e.1) = [] := by
    simp only [List.filter_eq_nil_iff, decide_eq_true_eq, not_le]
    exact fun e present => (past e present).trans_lt later
  rw [since, none, List.map_nil, List.sum_nil]

theorem within_eq_since (past : ∀ e ∈ tr, e.1 ≤ now) (later : now ≤ b) :
    within a b tr = since a tr := by
  have same : (tr.filter fun e => a ≤ e.1 ∧ e.1 ≤ b) = tr.filter fun e => a ≤ e.1 := by
    refine List.filter_congr fun e present => ?_
    simp only [(past e present).trans later, and_true]
  rw [within, since, same]

variable [IsStrictOrderedRing K]

theorem gain_nonneg (gaining : 0 ≤ rate) (elapsed : a ≤ now) : 0 ≤ rate * (now - a) :=
  mul_nonneg gaining (sub_nonneg.mpr elapsed)

theorem since_nonneg (amounts : ∀ e ∈ tr, 0 ≤ e.2) : 0 ≤ since a tr := by
  refine List.sum_nonneg fun x present => ?_
  obtain ⟨e, kept, rfl⟩ := List.mem_map.mp present
  exact amounts e (List.mem_filter.mp kept).1

theorem bounded_nil (room : 0 ≤ burst) (gaining : 0 ≤ rate) : Bounded burst rate [] := by
  intro a T elapsed
  have gain := mul_nonneg gaining elapsed
  simp only [within, List.filter_nil, List.map_nil, List.sum_nil]
  linarith

namespace Metered

theorem start (gaining : 0 ≤ rate) : Metered burst rate [] now burst where
  past := nofun
  amounts := nofun
  paid a elapsed := by
    have gain := gain_nonneg gaining elapsed
    simp only [since, List.filter_nil, List.map_nil, List.sum_nil]
    linarith
  spent := ⟨now, le_rfl, by simp [since]⟩

/-- Time passes: the level gains, up to the burst. -/
theorem wait (h : Metered burst rate tr now level) (gaining : 0 ≤ rate) (later : now ≤ now') :
    Metered burst rate tr now' (min (level + rate * (now' - now)) burst) where
  past e present := (h.past e present).trans later
  amounts := h.amounts
  paid a elapsed := by
    rcases le_or_gt a now with earlier | between
    · have before := h.paid a earlier
      have gained := min_le_left (level + rate * (now' - now)) burst
      have split : rate * (now' - a) = rate * (now - a) + rate * (now' - now) := by ring
      linarith
    · have gain := gain_nonneg gaining elapsed
      have full := min_le_right (level + rate * (now' - now)) burst
      rw [since_future h.past between]
      linarith
  spent := by
    rcases le_total (level + rate * (now' - now)) burst with below | full
    · obtain ⟨a, earlier, spent⟩ := h.spent
      refine ⟨a, earlier.trans later, ?_⟩
      have split : rate * (now' - a) = rate * (now - a) + rate * (now' - now) := by ring
      rw [min_eq_left below]
      linarith
    · refine ⟨now', le_rfl, ?_⟩
      have positive : 0 ≤ since now' tr := since_nonneg h.amounts
      rw [min_eq_right full, sub_self, mul_zero]
      linarith

/-- An amount passes and is paid from the level. -/
theorem pass (h : Metered burst rate tr now level) (amount : 0 ≤ x) :
    Metered burst rate (tr ++ [(now, x)]) now (level - x) where
  past e present := by
    rcases List.mem_append.mp present with earlier | last
    · exact h.past e earlier
    · rw [List.mem_singleton.mp last]
  amounts e present := by
    rcases List.mem_append.mp present with earlier | last
    · exact h.amounts e earlier
    · rwa [List.mem_singleton.mp last]
  paid a elapsed := by
    have before := h.paid a elapsed
    rw [since_append, if_pos elapsed]
    linarith
  spent := by
    obtain ⟨a, earlier, spent⟩ := h.spent
    refine ⟨a, earlier, ?_⟩
    rw [since_append, if_pos earlier]
    linarith

/-- What passes while the level lasts breaks no bound. -/
theorem bounded_pass (h : Metered burst rate tr now level) (gaining : 0 ≤ rate)
    (lasts : x ≤ level) (bounded : Bounded burst rate tr) :
    Bounded burst rate (tr ++ [(now, x)]) := by
  intro a T elapsed
  rw [within_append]
  split
  case isTrue inside =>
    have before := h.paid a inside.1
    have gain : rate * (now - a) ≤ rate * T :=
      mul_le_mul_of_nonneg_left (by linarith [inside.2]) gaining
    rw [within_eq_since h.past inside.2]
    linarith
  case isFalse =>
    rw [add_zero]
    exact bounded a T elapsed

/-- A level below zero is more than some window allows. -/
theorem exceeds (h : Metered burst rate tr now level) (overdrawn : level < 0) :
    ∃ a T, 0 ≤ T ∧ burst + rate * T < within a (a + T) tr := by
  obtain ⟨a, earlier, spent⟩ := h.spent
  refine ⟨a, now - a, sub_nonneg.mpr earlier, ?_⟩
  rw [add_sub_cancel, within_eq_since h.past le_rfl]
  linarith

end Metered
end Metering
