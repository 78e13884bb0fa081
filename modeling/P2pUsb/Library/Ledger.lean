import Mathlib.Logic.Function.Basic

/-! Ledgers of one-time grants. A key is issued at most once, for ever bound to
its grant; the live keys are those of issued grants not yet revoked. -/

/-- `issued` is the whole history; `live` shows the part of a grant that the
holder of a live key can still reach. -/
structure Ledger (κ γ ν : Type*) where
  issued : List (κ × γ)
  live : κ → Option ν

namespace Ledger
variable {κ γ ν : Type*} [DecidableEq κ] (view : γ → ν)

/-- Issue a fresh key, or cut the live part down. -/
inductive Step : Ledger κ γ ν → Ledger κ γ ν → Prop
  | issue (L : Ledger κ γ ν) (k : κ) (g : γ) (fresh : ∀ g', (k, g') ∉ L.issued) :
      Step L ⟨L.issued ++ [(k, g)], Function.update L.live k (some (view g))⟩
  | revoke (L : Ledger κ γ ν) (live : κ → Option ν)
      (less : ∀ k v, live k = some v → L.live k = some v) : Step L ⟨L.issued, live⟩

structure Valid (L : Ledger κ γ ν) : Prop where
  functional : ∀ k g g', (k, g) ∈ L.issued → (k, g') ∈ L.issued → g = g'
  backed : ∀ k v, L.live k = some v → ∃ g, (k, g) ∈ L.issued ∧ view g = v

variable {view}

theorem Valid.step {L L' : Ledger κ γ ν} (h : Valid view L) (hs : Step view L L') :
    Valid view L' := by
  cases hs with
  | issue k g fresh =>
      constructor
      · intro j a b ha hb
        rcases List.mem_append.mp ha with oldA | newA <;>
          rcases List.mem_append.mp hb with oldB | newB
        · exact h.functional j a b oldA oldB
        · obtain ⟨rfl, rfl⟩ := Prod.mk.inj (List.mem_singleton.mp newB)
          exact absurd oldA (fresh a)
        · obtain ⟨rfl, rfl⟩ := Prod.mk.inj (List.mem_singleton.mp newA)
          exact absurd oldB (fresh b)
        · have hA := (Prod.mk.inj (List.mem_singleton.mp newA)).2
          have hB := (Prod.mk.inj (List.mem_singleton.mp newB)).2
          rw [hA, hB]
      · intro j v hv
        by_cases hj : j = k
        · subst hj
          simp only [Function.update_self, Option.some.injEq] at hv
          exact ⟨g, List.mem_append_right _ (List.mem_singleton.mpr rfl), hv⟩
        · simp only [Function.update_of_ne hj] at hv
          obtain ⟨a, ha, hav⟩ := h.backed j v hv
          exact ⟨a, List.mem_append_left _ ha, hav⟩
  | revoke live less => exact ⟨h.functional, fun k v hv => h.backed k v (less k v hv)⟩

omit [DecidableEq κ] in
/-- A live key shows the grant it was issued for. -/
theorem Valid.live_view {L : Ledger κ γ ν} (h : Valid view L) {k : κ} {g : γ} {v : ν}
    (hg : (k, g) ∈ L.issued) (hv : L.live k = some v) : v = view g := by
  obtain ⟨g', hg', rfl⟩ := h.backed k v hv
  rw [h.functional k g g' hg hg']

end Ledger
