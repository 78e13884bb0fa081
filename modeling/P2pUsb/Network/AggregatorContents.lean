import P2pUsb.Network.NotificationAggregator

/-! What the aggregator holds between two flushes, and when it asks for one. -/
namespace P2pUsb
open Coalescing (latest)

def AGGREGATION_WINDOW : Duration := Duration.fromMillis 100

def MAX_PENDING_NOTIFICATIONS : Nat := 50

inductive AggregatorCall where
  | add (notification : PendingNotification) (now : Instant)
  | flush

/-- The notifications that were added since the last flush. -/
def sinceFlush (calls : List AggregatorCall) : List PendingNotification :=
  calls.foldl (fun added call => match call with
    | .add notification _ => added ++ [notification]
    | .flush => []) []

namespace NotificationAggregator

def shouldFlush (a : NotificationAggregator) (now : Instant) : Bool :=
  if a.pending.size = 0 then false
  else if a.pending.size ≥ MAX_PENDING_NOTIFICATIONS then true
  else a.windowStart.any fun start => decide (now - start ≥ AGGREGATION_WINDOW)

def timeUntilFlush (a : NotificationAggregator) (now : Instant) : Option Duration :=
  a.windowStart.map fun start =>
    let elapsed := now - start
    if elapsed ≥ AGGREGATION_WINDOW then 0 else AGGREGATION_WINDOW - elapsed

def perform (a : NotificationAggregator) : AggregatorCall → NotificationAggregator
  | .add notification now => a.add notification now
  | .flush => a.flush.2

def performAll (calls : List AggregatorCall) : NotificationAggregator := calls.foldl perform new

/-- The map and the order agree with what was added, and a window is open from the first
addition on. -/
structure Contents (a : NotificationAggregator) (added : List PendingNotification) : Prop where
  pending : Coalescing.Holds PendingNotification.deviceId a.pending a.pendingOrder added
  order : a.pendingOrder = (added.map PendingNotification.deviceId).eraseDups
  window : a.windowStart = none ↔ added = []

namespace Contents
variable {a : NotificationAggregator} {added : List PendingNotification}

theorem start : Contents new [] where
  pending := .empty
  order := rfl
  window := iff_of_true rfl rfl

theorem add (h : a.Contents added) (n : PendingNotification) (now : Instant) :
    (a.add n now).Contents (added ++ [n]) where
  pending := h.pending.add n
  order := by
    rw [List.map_append, List.map_singleton, Coalescing.eraseDups_concat, ← h.order]
    simp only [NotificationAggregator.add, h.pending.mem_keys]
  window := by
    have opened : a.windowStart.or (some now) ≠ none := by cases a.windowStart <;> simp
    exact iff_of_false opened (List.append_ne_nil_of_right_ne_nil _ (List.cons_ne_nil n []))

theorem empty_iff (h : a.Contents added) : a.pending.size = 0 ↔ added = [] := by
  rw [AList.size_eq_zero, ← List.map_eq_nil_iff (f := PendingNotification.deviceId),
    List.eq_nil_iff_forall_not_mem]
  exact forall_congr' fun d => not_congr h.pending.mem_keys

/-- Nothing pending is no window either. -/
theorem eq_new (h : a.Contents []) : a = new := by
  obtain ⟨pending, order, window⟩ := a
  have nothing : pending = ∅ :=
    AList.ext (List.length_eq_zero_iff.mp (h.empty_iff.mpr rfl))
  obtain rfl : order = [] := h.order
  obtain rfl : window = none := h.window.mpr rfl
  rw [nothing]
  rfl

theorem flush_new (h : a.Contents added) : a.flush.2 = new := by
  unfold flush
  split
  case isTrue empty => exact (h.empty_iff.mp empty ▸ h).eq_new
  case isFalse => rfl

end Contents

theorem perform_contents (calls : List AggregatorCall) :
    (performAll calls).Contents (sinceFlush calls) := by
  induction calls using List.reverseRecOn with
  | nil => exact .start
  | append_singleton calls call ih =>
      rw [performAll, sinceFlush, List.foldl_append, List.foldl_append]
      cases call with
      | add n now => exact ih.add n now
      | flush =>
          simp only [List.foldl_cons, List.foldl_nil, perform]
          rw [← performAll, ih.flush_new]
          exact .start

/-- A flush gives the latest notification of every device since the last one, in the order
of their first ones, and leaves nothing behind. -/
theorem flush_contents (calls : List AggregatorCall) :
    ((performAll calls).flush.1 = none ↔ sinceFlush calls = []) ∧
    (∀ batch, (performAll calls).flush.1 = some batch →
      ∃ notifications : List PendingNotification,
        batch = notifications.map PendingNotification.aggregated ∧
        notifications.map PendingNotification.deviceId =
          ((sinceFlush calls).map PendingNotification.deviceId).eraseDups ∧
        (notifications.map PendingNotification.deviceId).Nodup ∧
        ∀ n ∈ notifications,
          latest PendingNotification.deviceId (sinceFlush calls) n.deviceId = some n) ∧
    (performAll calls).flush.2 = new ∧
    (performAll calls).pendingOrder.Nodup ∧
    ∀ d, d ∈ (performAll calls).pendingOrder ↔ d ∈ (performAll calls).pending := by
  have h := perform_contents calls
  refine ⟨?_, ?_, h.flush_new, h.pending.once, h.pending.keys⟩
  · rw [← h.empty_iff, flush]
    split
    case isTrue empty => exact iff_of_true rfl empty
    case isFalse some => exact iff_of_false (Option.some_ne_none _) some
  · intro batch flushed
    rw [flush] at flushed
    split at flushed
    case isTrue => cases flushed
    case isFalse =>
      obtain rfl := Option.some.inj flushed
      refine ⟨_, rfl, ?_, ?_, fun n listed => h.pending.mem_flush.mp listed⟩
      · rw [h.pending.keys_flush, h.order]
      · rw [h.pending.keys_flush]
        exact h.pending.once

end NotificationAggregator
end P2pUsb
