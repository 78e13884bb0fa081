import Mathlib.Data.List.Basic
import Mathlib.Logic.Basic

/-! Views that a log brings up to date. An entry of the log may say of a key whether it is
present now; the last such entry decides, and where there is none the view itself does. -/
namespace Replay
variable {α κ : Type*} {say : α → κ → Option Bool} {xs ys : List α} {x : α} {k : κ}
  {view now then' : κ → Prop}

/-- The last word of the log on a key. -/
def lastSaid (say : α → κ → Option Bool) (xs : List α) (k : κ) : Option Bool :=
  (xs.filterMap fun x => say x k).getLast?

theorem last_said_nil : lastSaid say [] k = none := rfl

theorem last_said_append :
    lastSaid say (xs ++ ys) k = (lastSaid say ys k).or (lastSaid say xs k) := by
  rw [lastSaid, List.filterMap_append, List.getLast?_append]
  rfl

theorem last_said_concat : lastSaid say (xs ++ [x]) k = (say x k).or (lastSaid say xs k) := by
  have single : lastSaid say [x] k = say x k := by
    rw [lastSaid, List.filterMap_cons, List.filterMap_nil]
    cases say x k <;> rfl
  rw [last_said_append, single]

/-- What the log says last is so. -/
def Told (say : α → κ → Option Bool) (xs : List α) (now : κ → Prop) : Prop :=
  ∀ k b, lastSaid say xs k = some b → (b = true ↔ now k)

/-- The view with the log read over it is what is so. -/
structure Covers (say : α → κ → Option Bool) (xs : List α) (view now : κ → Prop) : Prop where
  told : Told say xs now
  unsaid : ∀ k, lastSaid say xs k = none → (view k ↔ now k)

/-- The entry says what has become of every key that has changed. -/
def Explains (say : α → κ → Option Bool) (x : α) (then' now : κ → Prop) : Prop :=
  ∀ k, (∀ b, say x k = some b → (b = true ↔ now k)) ∧ (say x k = none → (now k ↔ then' k))

theorem Told.nil : Told say [] now := fun _ _ wrong => nomatch wrong

theorem Told.of_append (told : Told say (xs ++ ys) now) : Told say ys now := by
  intro k b last
  refine told k b ?_
  rw [last_said_append, last, Option.some_or]

theorem Told.concat (told : Told say xs then') (explains : Explains say x then' now) :
    Told say (xs ++ [x]) now := by
  intro k b last
  rw [last_said_concat] at last
  cases said : say x k with
  | some b' =>
      rw [said] at last
      exact Option.some.inj last ▸ (explains k).1 b' said
  | none =>
      rw [said, Option.none_or] at last
      exact (told k b last).trans ((explains k).2 said).symm

/-- A view that is taken of the present covers it, whatever is still to be read. -/
theorem Told.snapshot (told : Told say xs now) (same : ∀ k, view k ↔ now k) :
    Covers say xs view now :=
  ⟨told, fun k _ => same k⟩

namespace Covers

theorem concat (covers : Covers say xs view then') (explains : Explains say x then' now) :
    Covers say (xs ++ [x]) view now := by
  refine ⟨covers.told.concat explains, fun k silent => ?_⟩
  rw [last_said_concat, Option.or_eq_none_iff] at silent
  exact (covers.unsaid k silent.2).trans ((explains k).2 silent.1).symm

theorem congr (covers : Covers say xs view then') (same : ∀ k, now k ↔ then' k) :
    Covers say xs view now :=
  ⟨fun k b last => (covers.told k b last).trans (same k).symm,
    fun k silent => (covers.unsaid k silent).trans (same k).symm⟩

/-- To read a part of the log brings the view up to the rest of it. -/
theorem read {view' : κ → Prop} (covers : Covers say (xs ++ ys) view now)
    (reads : ∀ k, view' k ↔ (lastSaid say xs k).elim (view k) (· = true)) :
    Covers say ys view' now := by
  refine ⟨covers.told.of_append, fun k silent => ?_⟩
  rw [reads]
  cases first : lastSaid say xs k with
  | some b =>
      refine covers.told k b ?_
      rw [last_said_append, silent, first, Option.none_or]
  | none =>
      refine covers.unsaid k ?_
      rw [last_said_append, silent, first, Option.none_or]

/-- With nothing left to read the view is what is so. -/
theorem caught_up (covers : Covers say [] view now) (k : κ) : view k ↔ now k :=
  covers.unsaid k last_said_nil

end Covers
end Replay
