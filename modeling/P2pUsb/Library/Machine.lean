import Mathlib.Logic.Basic

/-! Machines with a partial step function and observable output: runs over an
input list, conditions on every step of a run, and the induction rules. -/

/-- `step s a` is `none` when the input is not enabled; otherwise it gives the
next state and what can be observed of the step. -/
structure Machine (σ α ω : Type*) where
  step : σ → α → Option (σ × List ω)

namespace Machine
variable {σ α ω : Type*} (M : Machine σ α ω)

/-- The whole input list, or `none` at the first input that is not enabled. -/
def run : σ → List α → Option (σ × List ω)
  | s, [] => some (s, [])
  | s, a :: as => (M.step s a).bind fun next =>
      (run next.1 as).map fun last => (last.1, next.2 ++ last.2)

/-- `P` holds of every step the run takes, up to the first disabled input. -/
def EveryStep (P : σ → α → σ → List ω → Prop) : σ → List α → Prop
  | _, [] => True
  | s, a :: as => ∀ t out, M.step s a = some (t, out) → P s a t out ∧ EveryStep P t as

/-- States reached with their observations, all steps within the condition. -/
inductive Exec (C : σ → α → Prop) (s₀ : σ) : List ω → σ → Prop
  | start : Exec C s₀ [] s₀
  | next {tr : List ω} {s t : σ} {a : α} {out : List ω} :
      Exec C s₀ tr s → C s a → M.step s a = some (t, out) → Exec C s₀ (tr ++ out) t

/-- Executions without a condition on their steps. -/
abbrev Reach (s₀ : σ) : List ω → σ → Prop := M.Exec (fun _ _ => True) s₀

variable {M} {C : σ → α → Prop} {s₀ : σ}

theorem Exec.invariant {I : List ω → σ → Prop} (h₀ : I [] s₀)
    (hstep : ∀ tr s a t out, I tr s → C s a → M.step s a = some (t, out) → I (tr ++ out) t)
    {tr : List ω} {s : σ} (h : M.Exec C s₀ tr s) : I tr s := by
  induction h with
  | start => exact h₀
  | next _ hc hs ih => exact hstep _ _ _ _ _ ih hc hs

/-- The rule for properties of the state alone. -/
theorem Exec.stateInvariant {I : σ → Prop} (h₀ : I s₀)
    (hstep : ∀ s a t out, I s → C s a → M.step s a = some (t, out) → I t)
    {tr : List ω} {s : σ} (h : M.Exec C s₀ tr s) : I s :=
  h.invariant (I := fun _ s => I s) h₀ fun _ s a t out hi hc hs => hstep s a t out hi hc hs

/-- The rule for a property that rests on others of the same run. -/
theorem Exec.invariantAlong {I : List ω → σ → Prop} (h₀ : I [] s₀)
    (hstep : ∀ tr s a t out, M.Exec C s₀ tr s → I tr s → C s a → M.step s a = some (t, out) →
      I (tr ++ out) t)
    {tr : List ω} {s : σ} (h : M.Exec C s₀ tr s) : I tr s := by
  induction h with
  | start => exact h₀
  | next before hc hs ih => exact hstep _ _ _ _ _ before ih hc hs

theorem Exec.mono {D : σ → α → Prop} (hCD : ∀ s a, C s a → D s a)
    {tr : List ω} {s : σ} (h : M.Exec C s₀ tr s) : M.Exec D s₀ tr s := by
  induction h with
  | start => exact .start
  | next _ hc hs ih => exact .next ih (hCD _ _ hc) hs

theorem Exec.trans {tr rest : List ω} {s t : σ} (first : M.Exec C s₀ tr s)
    (second : M.Exec C s rest t) : M.Exec C s₀ (tr ++ rest) t := by
  induction second with
  | start => simpa only [List.append_nil] using first
  | next _ hc hs ih =>
      rw [← List.append_assoc]
      exact .next ih hc hs

theorem run_cons {s t : σ} {a : α} {as : List α} {out : List ω}
    (h : M.step s a = some (t, out)) :
    M.run s (a :: as) = (M.run t as).map fun last => (last.1, out ++ last.2) := by
  simp only [run, h, Option.bind_some]

theorem run_cons_some {s u : σ} {a : α} {as : List α} {tr : List ω}
    (h : M.run s (a :: as) = some (u, tr)) :
    ∃ t out rest, M.step s a = some (t, out) ∧ M.run t as = some (u, rest) ∧
      tr = out ++ rest := by
  obtain ⟨⟨t, out⟩, hs, hr⟩ := Option.bind_eq_some_iff.mp h
  obtain ⟨⟨v, rest⟩, hv, he⟩ := Option.map_eq_some_iff.mp hr
  obtain ⟨rfl, rfl⟩ := Prod.mk.inj he
  exact ⟨t, out, rest, hs, hv, rfl⟩

/-- A run whose steps meet the condition is an execution. -/
theorem Exec.of_run {as : List α} {tr : List ω} {s : σ} (hs : M.Exec C s₀ tr s)
    (hc : M.EveryStep (fun s a _ _ => C s a) s as) {u : σ} {rest : List ω}
    (h : M.run s as = some (u, rest)) : M.Exec C s₀ (tr ++ rest) u := by
  induction as generalizing s tr rest with
  | nil =>
      obtain ⟨rfl, rfl⟩ := Prod.mk.inj (Option.some.inj h)
      simpa only [List.append_nil] using hs
  | cons a as ih =>
      obtain ⟨t, out, rest, hst, hr, rfl⟩ := run_cons_some h
      obtain ⟨ha, hrest⟩ := hc t out hst
      rw [← List.append_assoc]
      exact ih (.next hs ha hst) hrest hr

/-- The machine with the steps outside a decidable condition disabled. -/
def within (M : Machine σ α ω) (C : σ → α → Prop) [∀ s a, Decidable (C s a)] : Machine σ α ω where
  step s a := if C s a then M.step s a else none

/-- Running the restricted machine checks the condition on the way. -/
theorem Exec.of_within [∀ s a, Decidable (C s a)] {as : List α} {tr : List ω} {s : σ}
    (hs : M.Exec C s₀ tr s) {u : σ} {rest : List ω} (h : (M.within C).run s as = some (u, rest)) :
    M.Exec C s₀ (tr ++ rest) u := by
  induction as generalizing s tr rest with
  | nil =>
      obtain ⟨rfl, rfl⟩ := Prod.mk.inj (Option.some.inj h)
      simpa only [List.append_nil] using hs
  | cons a as ih =>
      obtain ⟨t, out, rest, hst, hr, rfl⟩ := run_cons_some h
      simp only [within] at hst
      split at hst
      case isTrue hc =>
        rw [← List.append_assoc]
        exact ih (.next hs hc hst) hr
      case isFalse => cases hst

theorem Reach.of_step {s : σ} {a : α} {out : List ω} (h : M.step s₀ a = some (s, out)) :
    M.Reach s₀ out s :=
  .next .start (a := a) trivial h

/-- A machine whose steps are runs of another one shows nothing that the other does not. -/
theorem Exec.refines {τ β : Type*} {N : Machine τ β ω} {f : σ → τ} {I : σ → Prop} (h₀ : I s₀)
    (hstep : ∀ s a t out, I s → C s a → M.step s a = some (t, out) →
      I t ∧ N.Reach (f s) out (f t))
    {tr : List ω} {s : σ} (h : M.Exec C s₀ tr s) : I s ∧ N.Reach (f s₀) tr (f s) := by
  induction h with
  | start => exact ⟨h₀, .start⟩
  | next _ hc hs ih =>
      obtain ⟨hi, hr⟩ := ih
      obtain ⟨hi, hn⟩ := hstep _ _ _ _ hi hc hs
      exact ⟨hi, hr.trans hn⟩

/-- A part of the observations can be those of another machine. -/
theorem Exec.projects {τ β υ : Type*} {N : Machine τ β υ} {f : σ → τ} {g : ω → Option υ}
    (hstep : ∀ s a t out, M.step s a = some (t, out) → N.Reach (f s) (out.filterMap g) (f t))
    {tr : List ω} {s : σ} (h : M.Exec C s₀ tr s) : N.Reach (f s₀) (tr.filterMap g) (f s) := by
  induction h with
  | start => exact .start
  | next _ hc hs ih =>
      rw [List.filterMap_append]
      exact ih.trans (hstep _ _ _ _ hs)

/-- A condition on the inputs alone can be checked on the list. -/
theorem everyStep_of_inputs {P : σ → α → σ → List ω → Prop} {as : List α}
    (h : ∀ a ∈ as, ∀ s t out, P s a t out) (s : σ) : M.EveryStep P s as := by
  induction as generalizing s with
  | nil => trivial
  | cons a as ih =>
      intro t out _
      exact ⟨h a List.mem_cons_self s t out, ih (fun b hb => h b (List.mem_cons_of_mem a hb)) t⟩

theorem everyStep_trivial (s : σ) (as : List α) :
    M.EveryStep (fun _ _ _ _ => True) s as :=
  everyStep_of_inputs (fun _ _ _ _ _ => trivial) s

theorem Reach.of_run {as : List α} {s : σ} {tr : List ω} (h : M.run s₀ as = some (s, tr)) :
    M.Reach s₀ tr s :=
  Exec.of_run .start (everyStep_trivial s₀ as) h

/-- Two step properties agree along a run when they agree wherever an
invariant holds and either one re-establishes it. -/
theorem everyStep_congr {P Q : σ → α → σ → List ω → Prop} {I : σ → Prop}
    (hiff : ∀ s a t out, I s → M.step s a = some (t, out) → (P s a t out ↔ Q s a t out))
    (hnext : ∀ s a t out, I s → M.step s a = some (t, out) → Q s a t out → I t)
    {s : σ} (h₀ : I s) (as : List α) : M.EveryStep P s as ↔ M.EveryStep Q s as := by
  induction as generalizing s with
  | nil => exact Iff.rfl
  | cons a as ih =>
      refine forall_congr' fun t => forall_congr' fun out => forall_congr' fun hs => ?_
      have hpq := hiff s a t out h₀ hs
      constructor
      · rintro ⟨hp, hrest⟩
        have hq := hpq.mp hp
        exact ⟨hq, (ih (hnext s a t out h₀ hs hq)).mp hrest⟩
      · rintro ⟨hq, hrest⟩
        exact ⟨hpq.mpr hq, (ih (hnext s a t out h₀ hs hq)).mpr hrest⟩

/-- The first step, where none is ever disabled. -/
theorem EveryStep.of_total {P : σ → α → σ → List ω → Prop} {f : σ → α → σ × List ω}
    (total : ∀ s a, M.step s a = some (f s a)) {s : σ} {a : α} {as : List α}
    (h : M.EveryStep P s (a :: as)) :
    P s a (f s a).1 (f s a).2 ∧ M.EveryStep P (f s a).1 as :=
  h _ _ (total s a)

/-- What holds of every step of a run holds of the steps after a part of it. -/
theorem EveryStep.after {P : σ → α → σ → List ω → Prop} {s t : σ} {as bs : List α} {tr : List ω}
    (h : M.EveryStep P s (as ++ bs)) (hr : M.run s as = some (t, tr)) : M.EveryStep P t bs := by
  induction as generalizing s tr with
  | nil =>
      obtain ⟨rfl, -⟩ := Prod.mk.inj (Option.some.inj hr)
      exact h
  | cons a as ih =>
      obtain ⟨u, out, rest, hs, hr, -⟩ := run_cons_some hr
      exact ih (h u out hs).2 hr

end Machine
