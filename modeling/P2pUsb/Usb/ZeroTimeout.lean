import P2pUsb.Usb.ExpiryPass

/-! A lock timeout of zero. The ages of the lock and of the requests are compared with the
timeout itself, so with zero each of them is over age as soon as any time has passed. -/
namespace P2pUsb
namespace DeviceSharingState
variable {s : DeviceSharingState} {now clock : Instant}

/-- The state in which a call runs `process_queue`, if it does. -/
def queueServed (s : DeviceSharingState) (now : Instant) : SharingOp → Option DeviceSharingState
  | .processQueue => some s
  | .processAll => some ((s.checkLockTimeout now).elim s fun holder => (s.releaseLock holder).2)
  | _ => none

/-- No entry of an attached client is dropped, except the one that is granted. -/
def KeepsWaiting (s : DeviceSharingState) (now : Instant) : Prop :=
  ∀ e ∈ s.accessQueue, e.handle ∈ s.attachedClients →
    e ∈ (s.processQueue now).2.accessQueue ∨ (s.processQueue now).1 = some e.handle

/-- Neither the lock nor a request runs out. -/
structure NeverTimesOut (s : DeviceSharingState) (call : SharingOp × Instant) : Prop where
  lock : call.1 = .processAll → ∀ d h, .lockExpired d h ∉ (s.processTimeouts call.2).1
  queue : ∀ u, s.queueServed call.2 call.1 = some u → u.KeepsWaiting call.2

/-- No time has passed since the lock was taken or, when it is free, since any of the waiting
clients asked for it. -/
structure AtOnce (s : DeviceSharingState) (call : SharingOp × Instant) : Prop where
  lock : call.1 = .processAll → ∀ h c a, s.Holds h → s.attachedClients.lookup h = some c →
    c.lockAcquiredAt = some a → call.2 ≤ a
  queue : call.1 = .processQueue ∨ call.1 = .processAll → s.lockAvailable = true →
    ∀ e ∈ s.accessQueue, call.2 ≤ e.requestedAt

namespace QueueOrder

theorem expired_iff (hs : s.QueueOrder clock) (zero : s.lockTimeout = 0) (now : Instant)
    {e : QueueEntry} (waits : e ∈ s.accessQueue) : e.expired now = true ↔ e.requestedAt < now := by
  rw [QueueEntry.expired, hs.timeout e waits, zero]
  exact decide_eq_true_iff.trans Nat.sub_pos_iff_lt

theorem keeps_waiting_iff (hs : s.QueueOrder clock) (zero : s.lockTimeout = 0) :
    s.KeepsWaiting now ↔
      (s.lockAvailable = true → ∀ e ∈ s.accessQueue, now ≤ e.requestedAt) := by
  constructor
  · intro keeps available e waits
    by_contra late
    have expired := (hs.expired_iff zero now waits).mpr (Nat.lt_of_not_le late)
    have live := hs.live_after now
    have kept := keeps e waits (hs.attached e waits)
    cases served : s.accessQueue.dropWhile (QueueEntry.expired now) with
    | nil =>
        rw [process_queue_eq, if_pos available, served] at kept
        rcases kept with gone | nobody
        · exact List.not_mem_nil gone
        · cases nobody
    | cons entry rest =>
        rw [hs.process_free available now served] at kept
        rw [served] at live
        have less := List.dropWhile_sublist (l := s.accessQueue) (QueueEntry.expired now)
        rw [served] at less
        rcases kept with behind | granted
        · rw [grant_lock_queue] at behind
          have young := live e (List.mem_cons_of_mem entry behind)
          exact Bool.false_ne_true (young.symm.trans expired)
        · have same : entry = e := List.inj_on_of_nodup_map hs.once
            (less.subset List.mem_cons_self) waits (Option.some.inj granted)
          have young := live entry List.mem_cons_self
          rw [same] at young
          exact Bool.false_ne_true (young.symm.trans expired)
  · intro young e waits attached
    cases available : s.lockAvailable with
    | false =>
        rw [process_queue_eq, available]
        exact .inl waits
    | true =>
        cases queue : s.accessQueue with
        | nil =>
            rw [queue] at waits
            exact absurd waits List.not_mem_nil
        | cons entry rest =>
            have first : entry ∈ s.accessQueue := by
              rw [queue]
              exact List.mem_cons_self
            have live : ¬ entry.expired now = true := by
              intro expired
              have late := (hs.expired_iff zero now first).mp expired
              exact absurd (young available entry first) (Nat.not_le.mpr late)
            have served : s.accessQueue.dropWhile (QueueEntry.expired now) = entry :: rest := by
              rw [queue, List.dropWhile_cons_of_neg live]
            rw [hs.process_free available now served, grant_lock_queue]
            rw [queue] at waits
            rcases List.mem_cons.mp waits with rfl | behind
            · exact .inr rfl
            · exact .inl behind

/-- A lock is not over age exactly as long as no time has passed. -/
theorem check_lock_timeout_none (hs : s.QueueOrder clock) (zero : s.lockTimeout = 0) :
    s.checkLockTimeout now = none ↔ ∀ h c a, s.Holds h → s.attachedClients.lookup h = some c →
      c.lockAcquiredAt = some a → now ≤ a := by
  rw [Option.eq_none_iff_forall_ne_some]
  constructor
  · intro none h c a held present acquired
    by_contra late
    refine none h ((hs.check_lock_timeout now).mpr ⟨held, ?_⟩)
    rw [lockExpired, present, Option.bind_some, acquired, Option.any_some, zero]
    exact decide_eq_true (Nat.sub_pos_of_lt (Nat.lt_of_not_le late))
  · intro young h found
    obtain ⟨held, late⟩ := (hs.check_lock_timeout now).mp found
    obtain ⟨a, acquired, overdue⟩ := (Option.any_eq_true _ _).mp late
    obtain ⟨c, present, since⟩ := Option.bind_eq_some_iff.mp acquired
    have overdue : now - a > s.lockTimeout := of_decide_eq_true overdue
    rw [zero] at overdue
    exact absurd (young h c a held present since) (Nat.not_le.mpr (Nat.sub_pos_iff_lt.mp overdue))

theorem never_times_out_iff (hs : s.QueueOrder clock) (zero : s.lockTimeout = 0)
    (call : SharingOp × Instant) : s.NeverTimesOut call ↔ s.AtOnce call := by
  obtain ⟨op, now⟩ := call
  have lock : (∀ d h, .lockExpired d h ∉ (s.processTimeouts now).1) ↔
      s.checkLockTimeout now = none := by
    simp only [lock_expired_event, not_and, Option.eq_none_iff_forall_ne_some, ne_eq]
    exact ⟨fun silent h => silent s.deviceId h rfl, fun silent _ h _ => silent h⟩
  constructor
  · intro never
    refine ⟨fun all => ?_, fun served => ?_⟩
    · exact (hs.check_lock_timeout_none zero).mp (lock.mp (never.lock all))
    · rcases served with rfl | rfl
      · exact (hs.keeps_waiting_iff zero).mp (never.queue s rfl)
      · have kept := never.queue _ rfl
        rw [lock.mp (never.lock rfl)] at kept
        exact (hs.keeps_waiting_iff zero).mp kept
  · intro once
    refine ⟨fun all => ?_, fun u served => ?_⟩
    · exact lock.mpr ((hs.check_lock_timeout_none zero).mpr (once.lock all))
    · cases op with
      | attachClient | detachClient | acquireLock | releaseLock => cases served
      | processQueue =>
          obtain rfl := Option.some.inj served
          exact (hs.keeps_waiting_iff zero).mpr (once.queue (.inl rfl))
      | processAll =>
          obtain rfl := Option.some.inj served
          rw [(hs.check_lock_timeout_none zero).mpr (once.lock rfl)]
          exact (hs.keeps_waiting_iff zero).mpr (once.queue (.inr rfl))

end QueueOrder

theorem perform_timeout (s : DeviceSharingState) (op : SharingOp) (now : Instant) :
    (s.perform now op).lockTimeout = s.lockTimeout := by
  have step := s.perform_joined op now
  generalize s.perform now op = t at step ⊢
  rcases step with step | step
  · exact step.timeout
  · cases step
    rfl

theorem zero_timeout_iff_at_once (id : DeviceId) (mode : SharingMode) (maxClients : Nat)
    (start : Instant) (calls : List (SharingOp × Instant)) :
    timedSharing.EveryStep (fun s call _ _ => s.1.NeverTimesOut call)
        (new id mode maxClients (Duration.fromSecs 0), start) calls ↔
      timedSharing.EveryStep (fun s call _ _ => s.1.AtOnce call)
        (new id mode maxClients (Duration.fromSecs 0), start) calls := by
  refine Machine.everyStep_congr (I := fun s => s.1.QueueOrder s.2 ∧ s.1.lockTimeout = 0) ?_ ?_
    ⟨QueueOrder.new id mode maxClients _ start, rfl⟩ calls
  · intro s call t out hs step
    exact hs.1.never_times_out_iff hs.2 call
  · intro s call t out hs step _
    obtain ⟨later, rfl⟩ := timed_sharing_step step
    exact ⟨hs.1.perform call.1 later, (s.1.perform_timeout call.1 call.2).trans hs.2⟩

/-- With a timeout of zero the first pass takes the lock away, and drops the client that
waits for it without a grant. -/
theorem zero_timeout_expires :
    ∃ s clock tr, timedSharing.Reach (new ⟨1⟩ .shared 4 (Duration.fromSecs 0), 0) tr (s, clock) ∧
      s.Holds ⟨1⟩ ∧ s.Queued ⟨2⟩ ∧ (s.processTimeouts 3).1 = [.lockExpired ⟨1⟩ ⟨1⟩] ∧
      (s.processTimeouts 3).2.accessQueue = [] ∧ ¬ s.NeverTimesOut (.processAll, 3) := by
  have attached : timedSharing.Reach (new ⟨1⟩ .shared 4 (Duration.fromSecs 0), 0) _ _ :=
    .next (.next .start (a := (.attachClient "a" ⟨1⟩, 0)) trivial rfl)
      (a := (.attachClient "b" ⟨2⟩, 0)) trivial rfl
  have run : timedSharing.Reach (new ⟨1⟩ .shared 4 (Duration.fromSecs 0), 0) _ _ :=
    .next (.next attached (a := (.acquireLock ⟨1⟩ false, 1)) trivial rfl)
      (a := (.acquireLock ⟨2⟩ false, 2)) trivial rfl
  refine ⟨_, _, _, run, .inl rfl, .head _, rfl, rfl, fun never => ?_⟩
  exact never.lock rfl ⟨1⟩ ⟨1⟩ (.head _)

end DeviceSharingState
end P2pUsb
