import P2pUsb.Usb.AccessQueue

/-! What `process_queue` grants. The clock only goes forward, so the queue is in the order
of its requests and those that have expired stand in front. -/
namespace P2pUsb
namespace DeviceSharingState
variable {s t : DeviceSharingState} {h : DeviceHandle} {w : Bool} {now clock : Instant}

/-- One device under any calls, each no earlier than the one before. -/
def timedSharing : Machine (DeviceSharingState × Instant) (SharingOp × Instant) Empty where
  step s call := if s.2 ≤ call.2 then some ((s.1.perform call.2 call.1, call.2), []) else none

theorem timed_sharing_step {s t : DeviceSharingState × Instant} {call : SharingOp × Instant}
    {out : List Empty} (step : timedSharing.step s call = some (t, out)) :
    s.2 ≤ call.2 ∧ t = (s.1.perform call.2 call.1, call.2) := by
  simp only [timedSharing] at step
  split at step
  case isFalse => cases step
  case isTrue later => exact ⟨later, (Prod.mk.inj (Option.some.inj step)).1.symm⟩

/-- Each lock is used in its own mode; each waiting client is attached and waits once, in
the order of the requests, for the lock and with the timeout of the device. -/
structure QueueOrder (s : DeviceSharingState) (clock : Instant) : Prop where
  exclusiveLock : s.exclusiveLockHolder ≠ none → s.mode = .shared
  writeLock : s.writeLockHolder ≠ none → s.mode = .readOnly
  once : (s.accessQueue.map QueueEntry.handle).Nodup
  attached : ∀ e ∈ s.accessQueue, e.handle ∈ s.attachedClients
  ordered : s.accessQueue.Pairwise fun e e' => e.requestedAt ≤ e'.requestedAt
  past : ∀ e ∈ s.accessQueue, e.requestedAt ≤ clock
  timeout : ∀ e ∈ s.accessQueue, e.timeout = some s.lockTimeout
  writes : s.mode = .readOnly → ∀ e ∈ s.accessQueue, e.wantsWrite = true
  unused : s.mode = .exclusive → s.accessQueue = []

/-- What the operations do to the configuration, the locks and the queue. -/
structure Shrinks (s t : DeviceSharingState) : Prop where
  mode : t.mode = s.mode
  timeout : t.lockTimeout = s.lockTimeout
  exclusiveLock : t.exclusiveLockHolder ≠ none → s.exclusiveLockHolder ≠ none ∨ s.mode = .shared
  writeLock : t.writeLockHolder ≠ none → s.writeLockHolder ≠ none ∨ s.mode = .readOnly
  queue : t.accessQueue.Sublist s.accessQueue
  attached : ∀ e ∈ t.accessQueue, e.handle ∈ s.attachedClients → e.handle ∈ t.attachedClients

/-- A new entry at the end of the queue. -/
inductive Joined (s : DeviceSharingState) (now : Instant) : DeviceSharingState → Prop
  | entry (e : QueueEntry) (attached : e.handle ∈ s.attachedClients)
      (absent : ¬ s.Queued e.handle) (requested : e.requestedAt = now)
      (timeout : e.timeout = some s.lockTimeout) (used : s.mode ≠ .exclusive)
      (writes : s.mode = .readOnly → e.wantsWrite = true) :
      Joined s now { s with accessQueue := s.accessQueue ++ [e] }

namespace Shrinks

theorem refl (s : DeviceSharingState) : s.Shrinks s where
  mode := rfl
  timeout := rfl
  exclusiveLock := .inl
  writeLock := .inl
  queue := List.Sublist.refl _
  attached := fun _ _ => id

theorem trans {u : DeviceSharingState} (first : s.Shrinks t) (second : t.Shrinks u) :
    s.Shrinks u where
  mode := second.mode.trans first.mode
  timeout := second.timeout.trans first.timeout
  exclusiveLock := fun held => (second.exclusiveLock held).elim first.exclusiveLock fun shared =>
    .inr (first.mode ▸ shared)
  writeLock := fun held => (second.writeLock held).elim first.writeLock fun readOnly =>
    .inr (first.mode ▸ readOnly)
  queue := second.queue.trans first.queue
  attached := fun e waits present =>
    second.attached e waits (first.attached e (second.queue.subset waits) present)

theorem trim {queue : List QueueEntry} (less : queue.Sublist s.accessQueue) :
    s.Shrinks { s with accessQueue := queue } where
  mode := rfl
  timeout := rfl
  exclusiveLock := .inl
  writeLock := .inl
  queue := less
  attached := fun _ _ => id

theorem grantLock (free : s.lockAvailable = true) (h : DeviceHandle) (now : Instant) :
    s.Shrinks (s.grantLock h now) := by
  unfold DeviceSharingState.grantLock
  split
  case isTrue shared =>
    exact ⟨rfl, rfl, fun _ => .inr shared, .inl, List.Sublist.refl _, fun _ _ present =>
      AList.mem_modify.mpr present⟩
  case isFalse notShared =>
    refine ⟨rfl, rfl, .inl, fun _ => .inr ?_, List.Sublist.refl _, fun _ _ present =>
      AList.mem_modify.mpr present⟩
    cases hm : s.mode with
    | shared => exact absurd hm notShared
    | readOnly => rfl
    | exclusive =>
        rw [lockAvailable, hm] at free
        cases free

end Shrinks

theorem attach_shrinks (s : DeviceSharingState) (clientId : String) (h : DeviceHandle)
    (now : Instant) : s.Shrinks (s.attachClient clientId h now) where
  mode := rfl
  timeout := rfl
  exclusiveLock := .inl
  writeLock := .inl
  queue := List.Sublist.refl _
  attached := fun _ _ present => (AList.mem_insert _).mpr (.inr present)

theorem detach_shrinks (s : DeviceSharingState) (h : DeviceHandle) :
    s.Shrinks (s.detachClient h).2 := by
  unfold detachClient
  split
  · exact .refl s
  have kept : ∀ {l : Option DeviceHandle}, (if l = some h then none else l) ≠ none → l ≠ none := by
    intro l held
    obtain ⟨j, held⟩ := Option.ne_none_iff_exists'.mp held
    exact Option.ne_none_iff_exists'.mpr ⟨j, holder_kept held⟩
  refine ⟨rfl, rfl, fun held => .inl (kept held), fun held => .inl (kept held),
    List.filter_sublist, fun e waits present => ?_⟩
  have other := (List.mem_filter.mp waits).2
  exact AList.mem_erase.mpr ⟨bne_iff_ne.mp other, present⟩

theorem release_shrinks (s : DeviceSharingState) (h : DeviceHandle) :
    s.Shrinks (s.releaseLock h).2 := by
  rcases s.release_lock_cases h with ⟨same, -⟩ | ⟨-, -, freed⟩ | ⟨-, -, freed⟩
  · rw [same]
    exact .refl s
  · rw [freed]
    exact ⟨rfl, rfl, fun held => absurd rfl held, .inl, List.Sublist.refl _,
      fun _ _ present => AList.mem_modify.mpr present⟩
  · rw [freed]
    exact ⟨rfl, rfl, .inl, fun held => absurd rfl held, List.Sublist.refl _,
      fun _ _ present => AList.mem_modify.mpr present⟩

/-- The queue is served from its first entry that has not expired. -/
theorem process_queue_eq (s : DeviceSharingState) (now : Instant) :
    s.processQueue now =
      if s.lockAvailable then
        match s.accessQueue.dropWhile (QueueEntry.expired now) with
        | [] => (none, { s with accessQueue := [] })
        | entry :: rest =>
            if entry.handle ∈ s.attachedClients then
              (some entry.handle,
                if s.mode = .readOnly ∧ entry.wantsWrite = false then { s with accessQueue := rest }
                else grantLock { s with accessQueue := rest } entry.handle now)
            else (none, { s with accessQueue := rest })
      else (none, s) := by
  unfold processQueue
  cases available : s.lockAvailable with
  | false => rfl
  | true =>
      cases queue : s.accessQueue with
      | nil =>
          have same : { s with accessQueue := [] } = s := by rw [← queue]
          simp only [List.isEmpty_nil, Bool.or_true, if_true, List.dropWhile_nil, same]
      | cons front others =>
          simp only [List.isEmpty_cons, Bool.not_true, Bool.or_false, Bool.false_eq_true, if_false,
            if_true]
          cases (front :: others).dropWhile (QueueEntry.expired now) with
          | nil => rfl
          | cons entry rest =>
              dsimp only
              split
              case isFalse => rfl
              case isTrue =>
                cases hm : s.mode with
                | exclusive =>
                    rw [lockAvailable, hm] at available
                    cases available
                | shared =>
                    simp only [DeviceSharingState.grantLock, reduceCtorEq, false_and, if_false,
                      if_true]
                | readOnly =>
                    cases writes : entry.wantsWrite with
                    | true =>
                        simp only [DeviceSharingState.grantLock, reduceCtorEq, and_false, if_false,
                          if_true]
                    | false =>
                        simp only [Bool.false_eq_true, if_false, and_self, if_true]

/-- What `process_queue` does to the device. -/
inductive Serves (s : DeviceSharingState) (now : Instant) : DeviceSharingState → Prop
  | idle : Serves s now s
  | trim (queue : List QueueEntry) (less : queue.Sublist s.accessQueue) :
      Serves s now { s with accessQueue := queue }
  | grant (entry : QueueEntry) (rest : List QueueEntry) (available : s.lockAvailable = true)
      (front : s.accessQueue.dropWhile (QueueEntry.expired now) = entry :: rest)
      (less : (entry :: rest).Sublist s.accessQueue) :
      Serves s now (grantLock { s with accessQueue := rest } entry.handle now)

theorem process_queue_serves_cases (s : DeviceSharingState) (now : Instant) :
    s.Serves now (s.processQueue now).2 := by
  rw [process_queue_eq]
  split
  case isFalse => exact .idle
  case isTrue available =>
    have less := List.dropWhile_sublist (l := s.accessQueue) (QueueEntry.expired now)
    split
    case h_1 => exact .trim [] (List.nil_sublist _)
    case h_2 entry rest served =>
      rw [served] at less
      have trimmed : s.Serves now { s with accessQueue := rest } :=
        .trim rest ((List.sublist_cons_self entry rest).trans less)
      split
      case isFalse => exact trimmed
      case isTrue =>
        dsimp only
        split
        case isTrue => exact trimmed
        case isFalse => exact .grant entry rest available served less

theorem process_queue_shrinks (s : DeviceSharingState) (now : Instant) :
    s.Shrinks (s.processQueue now).2 := by
  have step := s.process_queue_serves_cases now
  generalize (s.processQueue now).2 = t at step
  cases step with
  | idle => exact .refl s
  | trim queue less => exact .trim less
  | grant entry rest available front less =>
      have trimmed : s.Shrinks { s with accessQueue := rest } :=
        .trim ((List.sublist_cons_self entry rest).trans less)
      exact trimmed.trans (Shrinks.grantLock (s := { s with accessQueue := rest }) available _ now)

theorem add_to_queue_joined (w : Bool) (now : Instant) (attached : h ∈ s.attachedClients)
    (used : s.mode ≠ .exclusive) (writes : s.mode = .readOnly → w = true) :
    s.Shrinks (s.addToQueue h w now).2 ∨ s.Joined now (s.addToQueue h w now).2 := by
  unfold addToQueue
  cases position : s.queueIndex h with
  | some pos => exact .inl (.refl s)
  | none =>
      refine .inr (.entry _ attached ?_ rfl rfl used writes)
      intro queued
      obtain ⟨e, he, same⟩ := List.mem_map.mp queued
      have other := List.findIdx?_eq_none_iff.mp position e he
      dsimp only at same
      rw [same, beq_self_eq_true] at other
      cases other

theorem acquire_joined (s : DeviceSharingState) (h : DeviceHandle) (w : Bool) (now : Instant) :
    s.Shrinks (s.acquireLock h w now).2 ∨ s.Joined now (s.acquireLock h w now).2 := by
  cases available : s.lockAvailable with
  | true =>
      rcases acquire_lock_cases s h w now with ⟨same | ⟨-, -, busy, -⟩, -⟩ |
        ⟨-, shared, -, granted⟩ | ⟨-, readOnly, -, granted⟩
      · rw [same]
        exact .inl (.refl s)
      · exact absurd (available.symm.trans busy) Bool.noConfusion
      · have taken := Shrinks.grantLock available h now
        rw [DeviceSharingState.grantLock, if_pos shared] at taken
        rw [granted]
        exact .inl taken
      · have taken := Shrinks.grantLock available h now
        rw [DeviceSharingState.grantLock,
          if_neg (by rw [readOnly]; exact SharingMode.noConfusion)] at taken
        rw [granted]
        exact .inl taken
  | false =>
      unfold acquireLock
      cases hl : s.attachedClients.lookup h with
      | none => exact .inl (.refl s)
      | some client =>
          have attached := AList.mem_of_lookup hl
          cases hm : s.mode with
          | exclusive =>
              dsimp only
              split <;> exact .inl (.refl s)
          | shared =>
              have used : s.mode ≠ .exclusive := by rw [hm]; exact SharingMode.noConfusion
              have held : s.exclusiveLockHolder ≠ none := by
                simpa only [lockAvailable, hm, Option.isNone_eq_false_iff,
                  Option.isSome_iff_ne_none] using available
              dsimp only
              split
              case isTrue => exact .inl (.refl s)
              refine add_to_queue_joined w now attached used fun wrong => ?_
              rw [hm] at wrong
              cases wrong
          | readOnly =>
              have used : s.mode ≠ .exclusive := by rw [hm]; exact SharingMode.noConfusion
              have held : s.writeLockHolder ≠ none := by
                simpa only [lockAvailable, hm, Option.isNone_eq_false_iff,
                  Option.isSome_iff_ne_none] using available
              dsimp only
              split
              case isFalse => exact .inl (.refl s)
              split
              case isTrue => exact .inl (.refl s)
              exact add_to_queue_joined true now attached used fun _ => rfl

/-- Every operation shortens the queue or appends one new entry. -/
theorem perform_joined (s : DeviceSharingState) (op : SharingOp) (now : Instant) :
    s.Shrinks (s.perform now op) ∨ s.Joined now (s.perform now op) := by
  cases op with
  | attachClient clientId handle => exact .inl (s.attach_shrinks clientId handle now)
  | detachClient handle => exact .inl (s.detach_shrinks handle)
  | acquireLock handle writeAccess => exact s.acquire_joined handle writeAccess now
  | releaseLock handle => exact .inl (s.release_shrinks handle)
  | processQueue => exact .inl (s.process_queue_shrinks now)
  | processAll =>
      rcases s.process_timeouts_cases now with ⟨holder, expired⟩ | idle
      · simp only [perform, expired]
        exact .inl ((s.release_shrinks holder).trans (process_queue_shrinks _ now))
      · simp only [perform, idle]
        exact .inl (s.process_queue_shrinks now)

namespace QueueOrder

theorem new (id : DeviceId) (mode : SharingMode) (maxClients : Nat) (timeout : Duration)
    (clock : Instant) : QueueOrder (.new id mode maxClients timeout) clock where
  exclusiveLock := fun held => absurd rfl held
  writeLock := fun held => absurd rfl held
  once := List.nodup_nil
  attached := fun _ waits => absurd waits List.not_mem_nil
  ordered := List.Pairwise.nil
  past := fun _ waits => absurd waits List.not_mem_nil
  timeout := fun _ waits => absurd waits List.not_mem_nil
  writes := fun _ _ waits => absurd waits List.not_mem_nil
  unused := fun _ => rfl

theorem shrinks (hs : s.QueueOrder clock) (later : clock ≤ now) (step : s.Shrinks t) :
    t.QueueOrder now where
  exclusiveLock := fun held => step.mode ▸ (step.exclusiveLock held).elim hs.exclusiveLock id
  writeLock := fun held => step.mode ▸ (step.writeLock held).elim hs.writeLock id
  once := hs.once.sublist (step.queue.map QueueEntry.handle)
  attached := fun e waits => step.attached e waits (hs.attached e (step.queue.subset waits))
  ordered := hs.ordered.sublist step.queue
  past := fun e waits => Nat.le_trans (hs.past e (step.queue.subset waits)) later
  timeout := fun e waits => step.timeout ▸ hs.timeout e (step.queue.subset waits)
  writes := fun readOnly e waits => hs.writes (step.mode ▸ readOnly) e (step.queue.subset waits)
  unused := fun exclusive => List.sublist_nil.mp (hs.unused (step.mode ▸ exclusive) ▸ step.queue)

theorem joined (hs : s.QueueOrder clock) (later : clock ≤ now) (step : s.Joined now t) :
    t.QueueOrder now := by
  cases step with
  | entry e attached absent requested timeout used writes =>
      refine ⟨hs.exclusiveLock, hs.writeLock, ?_, ?_, ?_, ?_, ?_, ?_,
        fun exclusive => absurd exclusive used⟩
      · rw [List.map_append, List.map_singleton]
        refine List.nodup_append.mpr ⟨hs.once, List.nodup_singleton _, ?_⟩
        rintro j queued k new rfl
        rw [List.mem_singleton.mp new] at queued
        exact absent queued
      all_goals simp only [List.mem_append, List.mem_singleton, or_imp, forall_and, forall_eq]
      · exact ⟨hs.attached, attached⟩
      · refine List.pairwise_append.mpr ⟨hs.ordered, List.pairwise_singleton _ _, ?_⟩
        intro e' waits last own
        rw [List.mem_singleton.mp own, requested]
        exact Nat.le_trans (hs.past e' waits) later
      · exact ⟨fun e' waits => Nat.le_trans (hs.past e' waits) later, Nat.le_of_eq requested⟩
      · exact ⟨hs.timeout, timeout⟩
      · exact ⟨hs.writes, writes⟩

theorem perform (hs : s.QueueOrder clock) (op : SharingOp) (later : clock ≤ now) :
    (s.perform now op).QueueOrder now :=
  (s.perform_joined op now).elim (hs.shrinks later) (hs.joined later)

/-- An entry behind an expired one may live, but not before it. -/
theorem live_after (hs : s.QueueOrder clock) (now : Instant) :
    ∀ e ∈ s.accessQueue.dropWhile (QueueEntry.expired now), e.expired now = false := by
  have monotone : s.accessQueue.Pairwise fun e e' =>
      e'.expired now = true → e.expired now = true := by
    refine hs.ordered.imp_of_mem fun {e e'} waits waits' order late => ?_
    rw [QueueEntry.expired, hs.timeout e' waits'] at late
    rw [QueueEntry.expired, hs.timeout e waits]
    have overdue : now - e'.requestedAt > s.lockTimeout := of_decide_eq_true late
    exact decide_eq_true (Nat.lt_of_lt_of_le overdue (Nat.sub_le_sub_left order now))
  intro e live
  cases served : s.accessQueue.dropWhile (QueueEntry.expired now) with
  | nil =>
      rw [served] at live
      exact absurd live List.not_mem_nil
  | cons front rest =>
      have first : front.expired now = false := by
        have found := List.head?_dropWhile_not (QueueEntry.expired now) s.accessQueue
        rw [served] at found
        simpa using found
      rw [served] at live
      have tail := monotone.sublist (List.dropWhile_sublist (QueueEntry.expired now))
      rw [served] at tail
      rcases List.mem_cons.mp live with rfl | later
      · exact first
      · by_contra late
        rw [Bool.not_eq_false] at late
        have wrong := (List.pairwise_cons.mp tail).1 e later late
        exact Bool.false_ne_true (first.symm.trans wrong)

/-- The lock that is held is the one of the mode. -/
theorem holds_cases (hs : s.QueueOrder clock) (held : s.Holds h) :
    s.mode = .shared ∧ s.exclusiveLockHolder = some h ∨
      s.mode = .readOnly ∧ s.writeLockHolder = some h := by
  rcases held with lock | lock
  · exact .inl ⟨hs.exclusiveLock (by rw [lock]; exact Option.some_ne_none h), lock⟩
  · exact .inr ⟨hs.writeLock (by rw [lock]; exact Option.some_ne_none h), lock⟩

theorem lock_available_iff (hs : s.QueueOrder clock) :
    s.lockAvailable = true ↔ s.mode ≠ .exclusive ∧ ∀ h, ¬ s.Holds h :=
  lock_available_iff_of_modes (fun other => not_not.mp fun held => other (hs.exclusiveLock held))
    fun other => not_not.mp fun held => other (hs.writeLock held)

theorem process_free (hs : s.QueueOrder clock) (available : s.lockAvailable = true)
    (now : Instant) {entry : QueueEntry} {rest : List QueueEntry}
    (served : s.accessQueue.dropWhile (QueueEntry.expired now) = entry :: rest) :
    s.processQueue now =
      (some entry.handle, grantLock { s with accessQueue := rest } entry.handle now) := by
  have waits : entry ∈ s.accessQueue := by
    refine (List.dropWhile_sublist (QueueEntry.expired now)).subset ?_
    rw [served]
    exact List.mem_cons_self
  have writes : ¬ (s.mode = .readOnly ∧ entry.wantsWrite = false) := by
    rintro ⟨readOnly, reads⟩
    exact Bool.false_ne_true (reads.symm.trans (hs.writes readOnly entry waits))
  rw [process_queue_eq, if_pos available, served]
  dsimp only
  rw [if_pos (hs.attached entry waits), if_neg writes]

theorem perform_run {id : DeviceId} {mode : SharingMode} {maxClients : Nat} {timeout : Duration}
    {start : Instant} {tr : List Empty}
    (run : timedSharing.Reach (.new id mode maxClients timeout, start) tr (s, clock)) :
    s.QueueOrder clock := by
  refine run.stateInvariant (I := fun s => s.1.QueueOrder s.2)
    (.new id mode maxClients timeout start) ?_
  intro s call t out hs _ step
  obtain ⟨later, rfl⟩ := timed_sharing_step step
  exact hs.perform call.1 later

end QueueOrder

/-- The lock of the device's mode belongs to the client, since this time. -/
structure Granted (s : DeviceSharingState) (h : DeviceHandle) (now : Instant) : Prop where
  holds : s.Holds h
  client : ∃ c, s.attachedClients.lookup h = some c ∧ c.lockAcquiredAt = some now ∧
    (s.mode = .shared → c.hasAccess = true) ∧ (s.mode = .readOnly → c.hasWriteLock = true)

theorem grant_lock_granted (attached : h ∈ s.attachedClients) :
    (s.grantLock h now).Granted h now := by
  refine ⟨grant_lock_holds, ?_⟩
  obtain ⟨c, present⟩ := AList.mem_iff.mp attached
  unfold grantLock
  split
  case isTrue shared =>
    refine ⟨{ c with hasAccess := true, lockAcquiredAt := some now }, ?_, rfl, fun _ => rfl,
      fun readOnly => absurd (shared.symm.trans readOnly) SharingMode.noConfusion⟩
    rw [grantExclusive, AList.lookup_modify_self, present, Option.map_some]
  case isFalse notShared =>
    refine ⟨{ c with hasWriteLock := true, lockAcquiredAt := some now }, ?_, rfl,
      fun shared => absurd shared notShared, fun _ => rfl⟩
    rw [grantWrite, AList.lookup_modify_self, present, Option.map_some]

theorem grant_lock_mode : (s.grantLock h now).mode = s.mode := by
  unfold grantLock
  split <;> rfl

theorem process_queue_serves {id : DeviceId} {mode : SharingMode} {maxClients : Nat}
    {timeout : Duration} {start : Instant} {tr : List Empty}
    (run : timedSharing.Reach (.new id mode maxClients timeout, start) tr (s, clock)) :
    (s.accessQueue.map QueueEntry.handle).Nodup ∧
    (∀ e ∈ s.accessQueue, e.handle ∈ s.attachedClients) ∧
    (s.accessQueue.Pairwise fun e e' => e.requestedAt ≤ e'.requestedAt) ∧
    ∀ now,
      (s.mode ≠ .exclusive → (∀ h, ¬ s.Holds h) → ∃ expired live,
        s.accessQueue = expired ++ live ∧ (∀ e ∈ expired, e.expired now = true) ∧
        (∀ e ∈ live, e.expired now = false) ∧
        (live = [] → s.processQueue now = (none, { s with accessQueue := [] })) ∧
        ∀ entry rest, live = entry :: rest → ∃ t, s.processQueue now = (some entry.handle, t) ∧
          t.accessQueue = rest ∧ t.mode = s.mode ∧ t.Granted entry.handle now) ∧
      ((s.processQueue now).1 = none ↔
        s.mode = .exclusive ∨ (∃ h, s.Holds h) ∨ ∀ e ∈ s.accessQueue, e.expired now = true) ∧
      (s.mode = .exclusive ∨ (∃ h, s.Holds h) → s.processQueue now = (none, s)) := by
  have hs : s.QueueOrder clock := QueueOrder.perform_run run
  refine ⟨hs.once, hs.attached, hs.ordered, fun now => ⟨fun used free => ?_, ?_, fun busy => ?_⟩⟩
  · have available := hs.lock_available_iff.mpr ⟨used, free⟩
    refine ⟨_, _, (List.takeWhile_append_dropWhile (p := QueueEntry.expired now)).symm,
      fun e before => List.mem_takeWhile_imp before, hs.live_after now, fun none => ?_,
      fun entry rest served => ?_⟩
    · rw [process_queue_eq, if_pos available, none]
    · refine ⟨_, hs.process_free available now served, grant_lock_queue, grant_lock_mode, ?_⟩
      refine grant_lock_granted (hs.attached entry ?_)
      refine (List.dropWhile_sublist (QueueEntry.expired now)).subset ?_
      rw [served]
      exact List.mem_cons_self
  · cases available : s.lockAvailable with
    | false =>
        have idle : (s.processQueue now).1 = none := by
          rw [process_queue_eq, available]
          rfl
        refine ⟨fun _ => ?_, fun _ => idle⟩
        by_contra nothing
        rw [not_or, not_or, not_exists] at nothing
        have wrong := hs.lock_available_iff.mpr ⟨nothing.1, nothing.2.1⟩
        exact Bool.false_ne_true (available.symm.trans wrong)
    | true =>
        obtain ⟨used, free⟩ := hs.lock_available_iff.mp available
        cases served : s.accessQueue.dropWhile (QueueEntry.expired now) with
        | nil =>
            refine ⟨fun _ => .inr (.inr (List.dropWhile_eq_nil_iff.mp served)), fun _ => ?_⟩
            rw [process_queue_eq, if_pos available, served]
        | cons entry rest =>
            rw [hs.process_free available now served]
            refine ⟨fun wrong => (nomatch wrong), ?_⟩
            rintro (exclusive | ⟨h, held⟩ | expired)
            · exact absurd exclusive used
            · exact absurd held (free h)
            · rw [List.dropWhile_eq_nil_iff.mpr expired] at served
              cases served
  · have unavailable : s.lockAvailable = false := by
      rw [← Bool.not_eq_true, hs.lock_available_iff, not_and, not_forall]
      intro used
      rcases busy with exclusive | ⟨h, held⟩
      · exact absurd exclusive used
      · exact ⟨h, not_not.mpr held⟩
    rw [process_queue_eq, unavailable]
    rfl

/-- Of two requests that wait, the first one has expired when the lock comes free. -/
theorem process_queue_serves_second :
    ∃ s clock tr, timedSharing.Reach (new ⟨1⟩ .shared 4 10, 0) tr (s, clock) ∧
      s.accessQueue.map QueueEntry.handle = [⟨2⟩, ⟨3⟩] ∧
      (s.processQueue 12).1 = some ⟨3⟩ ∧ (s.processQueue 30).1 = none := by
  have attached : timedSharing.Reach (new ⟨1⟩ .shared 4 10, 0) _ _ :=
    .next (.next (.next .start (a := (.attachClient "a" ⟨1⟩, 0)) trivial rfl)
      (a := (.attachClient "b" ⟨2⟩, 0)) trivial rfl) (a := (.attachClient "c" ⟨3⟩, 0)) trivial rfl
  have run : timedSharing.Reach (new ⟨1⟩ .shared 4 10, 0) _ _ :=
    .next (.next (.next (.next attached (a := (.acquireLock ⟨1⟩ false, 0)) trivial rfl)
      (a := (.acquireLock ⟨2⟩ false, 1)) trivial rfl)
      (a := (.acquireLock ⟨3⟩ false, 5)) trivial rfl) (a := (.releaseLock ⟨1⟩, 6)) trivial rfl
  refine ⟨_, _, _, run, rfl, rfl, ?_⟩
  refine ((process_queue_serves run).2.2.2 30).2.1.mpr (.inr (.inr ?_))
  decide

end DeviceSharingState
end P2pUsb
