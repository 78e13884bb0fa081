import Mathlib.Data.List.Basic
import P2pUsb.Library.Machine

/-! Queues with a bound, which make room for a new element by dropping the oldest one. -/

inductive QueueCall (α : Type*) where
  | push (a : α)
  | pop

inductive QueueEvent (α : Type*) where
  | pushed (a : α)
  | dropped (a : α)
  | popped (a : α)
  deriving DecidableEq, Repr

namespace QueueEvent
variable {α : Type*}

def entry : QueueEvent α → Option α
  | .pushed a => some a
  | .dropped _ | .popped _ => none

def loss : QueueEvent α → Option α
  | .dropped a => some a
  | .pushed _ | .popped _ => none

def delivery : QueueEvent α → Option α
  | .popped a => some a
  | .pushed _ | .dropped _ => none

/-- An element leaves the queue when it is dropped or popped. -/
def exit : QueueEvent α → Option α
  | .dropped a | .popped a => some a
  | .pushed _ => none

end QueueEvent

namespace BoundedQueue
variable {α : Type*} {capacity : ℕ} {queue : List α} {tr : List (QueueEvent α)}
  {a : α}

/-- What a push finds in its way. -/
def overflow (capacity : ℕ) (queue : List α) : List α :=
  if capacity ≤ queue.length then queue.take 1 else []

/-- What a push leaves. -/
def room (capacity : ℕ) (queue : List α) : List α :=
  if capacity ≤ queue.length then queue.drop 1 else queue

def dropOldest (capacity : ℕ) : Machine (List α) (QueueCall α) (QueueEvent α) where
  step queue
    | .push a => some (room capacity queue ++ [a],
        (overflow capacity queue).map .dropped ++ [.pushed a])
    | .pop => some (queue.drop 1, (queue.take 1).map .popped)

def entered (tr : List (QueueEvent α)) : List α := tr.filterMap QueueEvent.entry
def lost (tr : List (QueueEvent α)) : List α := tr.filterMap QueueEvent.loss
def delivered (tr : List (QueueEvent α)) : List α := tr.filterMap QueueEvent.delivery
def departed (tr : List (QueueEvent α)) : List α := tr.filterMap QueueEvent.exit

/-- Events of one kind that all have this part. -/
theorem part_of_each {part : QueueEvent α → Option α} {event : α → QueueEvent α}
    (has : ∀ a, part (event a) = some a) (queue : List α) :
    (queue.map event).filterMap part = queue := by
  have same : part ∘ event = some := funext has
  rw [List.filterMap_map, same, List.filterMap_some]

theorem part_of_none {part : QueueEvent α → Option α} {event : α → QueueEvent α}
    (lacks : ∀ a, part (event a) = none) (queue : List α) :
    (queue.map event).filterMap part = [] := by
  have same : part ∘ event = fun _ => none := funext lacks
  rw [List.filterMap_map, same]
  exact List.filterMap_eq_nil_iff.mpr fun _ _ => rfl

@[simp] theorem departed_dropped (queue : List α) :
    departed (queue.map QueueEvent.dropped) = queue := part_of_each (fun _ => rfl) queue

@[simp] theorem departed_popped (queue : List α) :
    departed (queue.map QueueEvent.popped) = queue := part_of_each (fun _ => rfl) queue

@[simp] theorem entered_dropped (queue : List α) :
    entered (queue.map QueueEvent.dropped) = [] := part_of_none (fun _ => rfl) queue

@[simp] theorem entered_popped (queue : List α) :
    entered (queue.map QueueEvent.popped) = [] := part_of_none (fun _ => rfl) queue

@[simp] theorem delivered_dropped (queue : List α) :
    delivered (queue.map QueueEvent.dropped) = [] := part_of_none (fun _ => rfl) queue

theorem delivered_append (tr tr' : List (QueueEvent α)) :
    delivered (tr ++ tr') = delivered tr ++ delivered tr' := List.filterMap_append

theorem entered_append (tr tr' : List (QueueEvent α)) :
    entered (tr ++ tr') = entered tr ++ entered tr' := List.filterMap_append

theorem departed_append (tr tr' : List (QueueEvent α)) :
    departed (tr ++ tr') = departed tr ++ departed tr' := List.filterMap_append

theorem overflow_append_room (capacity : ℕ) (queue : List α) :
    overflow capacity queue ++ room capacity queue = queue := by
  unfold overflow room
  split
  case isTrue => exact List.take_append_drop 1 queue
  case isFalse => exact List.nil_append queue

/-- Only the oldest element is in the way, and only of a full queue. -/
theorem mem_overflow (present : a ∈ overflow capacity queue) :
    queue.head? = some a ∧ capacity ≤ queue.length := by
  unfold overflow at present
  split at present
  case isTrue full =>
    cases queue with
    | nil => exact absurd present List.not_mem_nil
    | cons first rest =>
        rw [List.take_succ_cons, List.take_zero, List.mem_singleton] at present
        exact ⟨congrArg some present.symm, full⟩
  case isFalse => exact absurd present List.not_mem_nil

theorem length_room (positive : 1 ≤ capacity) (bounded : queue.length ≤ capacity) :
    (room capacity queue).length + 1 ≤ capacity := by
  unfold room
  split
  case isTrue => rw [List.length_drop]; omega
  case isFalse => omega

/-- The queue is what has entered and not departed, in the order of entry. -/
theorem entered_eq (run : (dropOldest capacity).Reach [] tr queue) :
    entered tr = departed tr ++ queue := by
  refine run.invariant (I := fun tr queue => entered tr = departed tr ++ queue) rfl ?_
  intro tr queue call next out kept _ step
  rw [entered_append, departed_append, kept]
  cases call with
  | push a =>
      obtain ⟨rfl, rfl⟩ := Prod.mk.inj (Option.some.inj step)
      have same := overflow_append_room capacity queue
      rw [entered_append, departed_append, entered_dropped, departed_dropped]
      simp only [List.append_assoc]
      rw [List.append_cancel_left_eq]
      exact (congrArg (· ++ [a]) same.symm).trans (by rw [List.append_assoc]; rfl)
  | pop =>
      obtain ⟨rfl, rfl⟩ := Prod.mk.inj (Option.some.inj step)
      rw [entered_popped, departed_popped, List.append_nil, List.append_assoc,
        List.take_append_drop]

theorem length_le (positive : 1 ≤ capacity) (run : (dropOldest capacity).Reach [] tr queue) :
    queue.length ≤ capacity := by
  refine run.stateInvariant (I := fun queue => queue.length ≤ capacity) (Nat.zero_le _) ?_
  intro queue call next out bounded _ step
  cases call with
  | push a =>
      obtain ⟨rfl, -⟩ := Prod.mk.inj (Option.some.inj step)
      rw [List.length_append, List.length_singleton]
      exact length_room positive bounded
  | pop =>
      obtain ⟨rfl, -⟩ := Prod.mk.inj (Option.some.inj step)
      rw [List.length_drop]
      omega

/-- Several pops at once are one after another. -/
theorem reach_pops (capacity : ℕ) (popped queue : List α) :
    (dropOldest capacity).Reach (popped ++ queue) (popped.map .popped) queue := by
  induction popped with
  | nil => exact .start
  | cons a popped ih =>
      have first : (dropOldest capacity).Reach (a :: popped ++ queue) [.popped a]
          (popped ++ queue) := .of_step (a := .pop) rfl
      exact first.trans ih

theorem reach_push (capacity : ℕ) (queue : List α) (a : α) :
    (dropOldest capacity).Reach queue ((overflow capacity queue).map .dropped ++ [.pushed a])
      (room capacity queue ++ [a]) :=
  .of_step (a := .push a) rfl

/-- Every element that has departed was either popped or dropped. -/
theorem length_departed (tr : List (QueueEvent α)) :
    (departed tr).length = (delivered tr).length + (lost tr).length := by
  induction tr with
  | nil => rfl
  | cons event tr ih =>
      simp only [departed, delivered, lost] at ih ⊢
      cases event with
      | pushed a => exact ih
      | dropped a => exact congrArg Nat.succ ih
      | popped a => exact (congrArg Nat.succ ih).trans (Nat.succ_add _ _).symm

theorem delivered_sublist (tr : List (QueueEvent α)) :
    (delivered tr).Sublist (departed tr) := by
  induction tr with
  | nil => exact .slnil
  | cons event tr ih =>
      simp only [delivered, departed] at ih ⊢
      cases event with
      | pushed a => exact ih
      | dropped a => exact ih.cons a
      | popped a => exact ih.cons_cons a

theorem room_sublist (capacity : ℕ) (queue : List α) : (room capacity queue).Sublist queue := by
  unfold room
  split
  case isTrue => exact List.drop_sublist 1 queue
  case isFalse => exact List.Sublist.refl queue

/-- Elements leave in order if each is pushed after all that have left and all that stay. -/
theorem pairwise_push {r : α → α → Prop} {gone : List α} (sorted : (gone ++ queue).Pairwise r)
    (after : ∀ b ∈ gone ++ room capacity queue, r b a) :
    (gone ++ (room capacity queue ++ [a])).Pairwise r := by
  have fewer := (room_sublist capacity queue).append_left gone
  rw [← List.append_assoc]
  refine List.pairwise_append.mpr ⟨sorted.sublist fewer, List.pairwise_singleton r a, ?_⟩
  intro b before c last
  rw [List.mem_singleton.mp last]
  exact after b before

/-- In an ordered queue the element in the way is before all others. -/
theorem overflow_least {r : α → α → Prop} (sorted : queue.Pairwise r)
    (present : a ∈ overflow capacity queue) : ∀ b ∈ queue, b = a ∨ r a b := by
  obtain ⟨oldest, -⟩ := mem_overflow present
  obtain ⟨rest, rfl⟩ := List.head?_eq_some_iff.mp oldest
  intro b waiting
  exact (List.mem_cons.mp waiting).imp id ((List.pairwise_cons.mp sorted).1 b)

end BoundedQueue
