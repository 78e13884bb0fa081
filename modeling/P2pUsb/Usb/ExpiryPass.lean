import P2pUsb.Usb.ManagerSteps
import P2pUsb.Usb.QueueGrants

/-! One pass of `process_all`. A holder that left its entry in the queue made that request
before it took the lock, so when the lock has expired, the entry has. -/
namespace P2pUsb
namespace DeviceSharingState
variable {s t : DeviceSharingState} {h j : DeviceHandle} {now clock : Instant}

/-- An entry that a holder has left in the queue is older than its lock. -/
structure ExpiryInv (s : DeviceSharingState) (clock : Instant) : Prop
    extends QueueOrder s clock where
  before : ∀ h c a, s.Holds h → s.attachedClients.lookup h = some c → c.lockAcquiredAt = some a →
    ∀ e ∈ s.accessQueue, e.handle = h → e.requestedAt ≤ a

theorem grant_lock_holder (hs : s.QueueOrder clock) (available : s.lockAvailable = true)
    (held : (s.grantLock h now).Holds j) : j = h := by
  have free := (hs.lock_available_iff.mp available).2
  unfold grantLock at held
  split at held
  · rcases held with own | other
    · exact (Option.some.inj own).symm
    · exact absurd (.inr other) (free j)
  · rcases held with other | own
    · exact absurd (.inl other) (free j)
    · exact (Option.some.inj own).symm

/-- In the new state the lock of the holder was taken just now. -/
theorem grant_lock_acquired {c : AttachedClient}
    (present : (s.grantLock h now).attachedClients.lookup h = some c) :
    c.lockAcquiredAt = some now := by
  unfold grantLock at present
  split at present
  all_goals
    simp only [grantExclusive, grantWrite, AList.lookup_modify_self] at present
    obtain ⟨old, -, rfl⟩ := Option.map_eq_some_iff.mp present
    rfl

/-- Nobody holds the lock of a mode that is free. -/
theorem QueueOrder.nobody (hs : s.QueueOrder clock)
    (shared : s.mode = .shared → s.exclusiveLockHolder = none)
    (readOnly : s.mode = .readOnly → s.writeLockHolder = none) : ¬ s.Holds j := by
  intro held
  rcases hs.holds_cases held with ⟨mode, lock⟩ | ⟨mode, lock⟩
  · exact Option.some_ne_none j (lock.symm.trans (shared mode))
  · exact Option.some_ne_none j (lock.symm.trans (readOnly mode))

/-- A release leaves everything as it is, or no holder at all. -/
theorem QueueOrder.release_cases (hs : s.QueueOrder clock) (h : DeviceHandle) :
    ((s.releaseLock h).2 = s ∧ (h ∈ s.attachedClients → ¬ s.Holds h)) ∨
      ∀ j, ¬ (s.releaseLock h).2.Holds j := by
  have after := hs.shrinks (Nat.le_refl clock) (s.release_shrinks h)
  rcases s.release_lock_cases h with ⟨same, missed⟩ | ⟨shared, -, freed⟩ | ⟨readOnly, -, freed⟩
  · refine .inl ⟨same, fun attached held => ?_⟩
    rcases hs.holds_cases held with ⟨mode, lock⟩ | ⟨mode, lock⟩
    · exact (missed attached).1 mode lock
    · exact (missed attached).2 mode lock
  · rw [freed] at after ⊢
    refine .inr fun j => after.nobody (fun _ => rfl) fun wrong => ?_
    exact absurd (shared.symm.trans wrong) SharingMode.noConfusion
  · rw [freed] at after ⊢
    refine .inr fun j => after.nobody (fun wrong => ?_) fun _ => rfl
    exact absurd (readOnly.symm.trans wrong) SharingMode.noConfusion

/-- The lock of a holder that is over age is the one that the pass finds. -/
theorem QueueOrder.check_lock_timeout (hs : s.QueueOrder clock) (now : Instant) :
    s.checkLockTimeout now = some h ↔ s.Holds h ∧ s.lockExpired now h = true := by
  unfold checkLockTimeout Holds
  cases exclusive : s.exclusiveLockHolder with
  | none =>
      simp only [Option.filter_none, Option.none_or, Option.filter_eq_some_iff, reduceCtorEq,
        false_or]
  | some holder =>
      have shared := hs.exclusiveLock (by rw [exclusive]; exact Option.some_ne_none holder)
      have unwritten : s.writeLockHolder = none := by
        by_contra held
        exact absurd (shared.symm.trans (hs.writeLock held)) SharingMode.noConfusion
      simp only [unwritten, Option.filter_none, Option.or_none, Option.filter_eq_some_iff,
        reduceCtorEq, or_false]

namespace ExpiryInv

theorem new (id : DeviceId) (mode : SharingMode) (maxClients : Nat) (timeout : Duration)
    (clock : Instant) : ExpiryInv (.new id mode maxClients timeout) clock where
  toQueueOrder := .new id mode maxClients timeout clock
  before := fun _ _ _ _ _ _ _ waits => absurd waits List.not_mem_nil

theorem idle (hs : s.ExpiryInv clock) (later : clock ≤ now) : s.ExpiryInv now where
  toQueueOrder := hs.toQueueOrder.shrinks later (.refl s)
  before := hs.before

/-- A lock granted now is younger than every entry. -/
theorem grantLock (hs : s.ExpiryInv clock) (later : clock ≤ now)
    (available : s.lockAvailable = true) (h : DeviceHandle) :
      (s.grantLock h now).ExpiryInv now where
  toQueueOrder := hs.toQueueOrder.shrinks later (.grantLock available h now)
  before := by
    intro j c a held present acquired e waits _
    obtain rfl := grant_lock_holder hs.toQueueOrder available held
    obtain rfl := Option.some.inj (acquired.symm.trans (grant_lock_acquired present))
    rw [grant_lock_queue] at waits
    exact Nat.le_trans (hs.past e waits) later

theorem trim (hs : s.ExpiryInv clock) {queue : List QueueEntry}
    (less : queue.Sublist s.accessQueue) : ExpiryInv { s with accessQueue := queue } clock where
  toQueueOrder := hs.toQueueOrder.shrinks (Nat.le_refl clock) (.trim less)
  before := fun h c a held present acquired e waits =>
    hs.before h c a held present acquired e (less.subset waits)

theorem attach (hs : s.ExpiryInv clock) (later : clock ≤ now) (clientId : String)
    (h : DeviceHandle) : (s.attachClient clientId h now).ExpiryInv now where
  toQueueOrder := hs.toQueueOrder.shrinks later (s.attach_shrinks clientId h now)
  before := by
    intro j c a held present acquired
    have used : s.mode ≠ .exclusive := by
      intro exclusive
      rcases hs.holds_cases held with ⟨mode, -⟩ | ⟨mode, -⟩
      all_goals exact absurd (exclusive.symm.trans mode) SharingMode.noConfusion
    simp only [attachClient, AList.lookup_insert_eq] at present
    split at present
    case isTrue =>
      obtain rfl := Option.some.inj present
      cases acquired
    case isFalse => exact hs.before j c a held present acquired

theorem detach (hs : s.ExpiryInv clock) (later : clock ≤ now) (h : DeviceHandle) :
    (s.detachClient h).2.ExpiryInv now where
  toQueueOrder := hs.toQueueOrder.shrinks later (s.detach_shrinks h)
  before := by
    intro j c a held present acquired e waits
    unfold detachClient at held present waits
    cases hl : s.attachedClients.lookup h with
    | none =>
        rw [hl] at held present waits
        exact hs.before j c a held present acquired e waits
    | some client =>
        rw [hl] at held present waits
        have old : s.Holds j := held.imp holder_kept holder_kept
        have there := (AList.lookup_erase_eq_some.mp present).2
        exact hs.before j c a old there acquired e (List.mem_filter.mp waits).1

theorem release (hs : s.ExpiryInv clock) (h : DeviceHandle) :
    (s.releaseLock h).2.ExpiryInv clock := by
  rcases hs.toQueueOrder.release_cases h with ⟨same, -⟩ | nobody
  · rwa [same]
  · exact ⟨hs.toQueueOrder.shrinks (Nat.le_refl clock) (s.release_shrinks h),
      fun j _ _ held => absurd held (nobody j)⟩

theorem acquire (hs : s.ExpiryInv clock) (later : clock ≤ now) (h : DeviceHandle) (w : Bool) :
    (s.acquireLock h w now).2.ExpiryInv now := by
  have order : (s.acquireLock h w now).2.QueueOrder now :=
    (s.acquire_joined h w now).elim (hs.toQueueOrder.shrinks later) (hs.toQueueOrder.joined later)
  have step := s.acquire_lock_acquires h w now
  generalize (s.acquireLock h w now).1 = result at step
  generalize (s.acquireLock h w now).2 = t at step order
  cases step with
  | unchanged => exact hs.idle later
  | takes attached wants free => exact hs.grantLock later free h
  | waits position entry own absent shared readOnly =>
      refine ⟨order, fun j c a held present acquired e waits same => ?_⟩
      rcases List.mem_append.mp waits with old | new
      · exact hs.before j c a held present acquired e old same
      obtain rfl := List.mem_singleton.mp new
      obtain rfl := own.symm.trans same
      -- the holder does not ask for its own lock
      rcases hs.holds_cases held with ⟨mode, lock⟩ | ⟨mode, lock⟩
      · exact absurd lock (shared mode)
      · exact absurd lock (readOnly mode)

theorem process (hs : s.ExpiryInv clock) (later : clock ≤ now) :
    (s.processQueue now).2.ExpiryInv now := by
  have step := s.process_queue_serves_cases now
  generalize (s.processQueue now).2 = t at step
  cases step with
  | idle => exact hs.idle later
  | trim queue less => exact (hs.trim less).idle later
  | grant entry rest available front less =>
      have trimmed := hs.trim ((List.sublist_cons_self entry rest).trans less)
      exact trimmed.grantLock later available entry.handle

theorem process_timeouts (hs : s.ExpiryInv clock) (later : clock ≤ now) :
    (s.processTimeouts now).2.ExpiryInv now := by
  rcases s.process_timeouts_cases now with ⟨holder, expired⟩ | idle
  · rw [expired]
    exact (hs.release holder).process later
  · rw [idle]
    exact hs.process later

theorem perform (hs : s.ExpiryInv clock) (op : SharingOp) (later : clock ≤ now) :
    (s.perform now op).ExpiryInv now := by
  cases op with
  | attachClient clientId handle => exact hs.attach later clientId handle
  | detachClient handle => exact hs.detach later handle
  | acquireLock handle writeAccess => exact hs.acquire later handle writeAccess
  | releaseLock handle => exact (hs.release handle).idle later
  | processQueue => exact hs.process later
  | processAll => exact hs.process_timeouts later

/-- Whoever holds the lock after the queue was processed held it before, or had a live
entry. -/
theorem process_holds (hs : s.ExpiryInv clock) (held : (s.processQueue now).2.Holds j) :
    s.Holds j ∨ ∃ e ∈ s.accessQueue, e.handle = j ∧ e.expired now = false := by
  have step := s.process_queue_serves_cases now
  generalize (s.processQueue now).2 = t at step held
  cases step with
  | idle => exact .inl held
  | trim queue less => exact .inl held
  | grant entry rest available front less =>
      have trimmed := hs.trim ((List.sublist_cons_self entry rest).trans less)
      have own := grant_lock_holder trimmed.toQueueOrder available held
      have live := hs.live_after now entry (by rw [front]; exact List.mem_cons_self)
      exact .inr ⟨entry, less.subset List.mem_cons_self, own.symm, live⟩

/-- A lock that is over age is released, and not granted to the same client again. -/
theorem expired_released (hs : s.ExpiryInv clock) (held : s.Holds h)
    (late : s.lockExpired now h = true) : ¬ (s.processTimeouts now).2.Holds h := by
  obtain ⟨a, acquired, overdue⟩ := (Option.any_eq_true _ _).mp late
  obtain ⟨c, present, since⟩ := Option.bind_eq_some_iff.mp acquired
  have found := (hs.toQueueOrder.check_lock_timeout now).mpr ⟨held, late⟩
  have after : (s.processTimeouts now).2 = ((s.releaseLock h).2.processQueue now).2 := by
    unfold processTimeouts
    rw [found]
    dsimp only
    split
    case h_1 served => rw [served]
    case h_2 idle => rw [idle]
  have nobody : ∀ j, ¬ (s.releaseLock h).2.Holds j := by
    rcases hs.toQueueOrder.release_cases h with ⟨-, missed⟩ | nobody
    · exact absurd held (missed (AList.mem_of_lookup present))
    · exact nobody
  intro again
  rw [after] at again
  rcases (hs.release h).process_holds again with kept | ⟨e, waits, own, live⟩
  · exact nobody h kept
  have queued := (s.release_shrinks h).queue.subset waits
  have order := hs.before h c a held present since e queued own
  rw [QueueEntry.expired, hs.timeout e queued] at live
  have young : ¬ now - e.requestedAt > s.lockTimeout := of_decide_eq_false live
  exact young (Nat.lt_of_lt_of_le (of_decide_eq_true overdue) (Nat.sub_le_sub_left order now))

end ExpiryInv

theorem Settle.device_id (step : s.Settle t) : t.deviceId = s.deviceId := by
  cases step <;> rfl

theorem process_timeouts_device_id (s : DeviceSharingState) (now : Instant) :
    (s.processTimeouts now).2.deviceId = s.deviceId := by
  obtain ⟨u, first, second⟩ := s.process_timeouts_settle now
  exact second.device_id.trans first.device_id

theorem perform_device_id (s : DeviceSharingState) (op : SharingOp) (now : Instant) :
    (s.perform now op).deviceId = s.deviceId := by
  cases op with
  | attachClient clientId handle => rfl
  | detachClient handle =>
      rw [perform, detachClient]
      split <;> rfl
  | acquireLock handle writeAccess =>
      have step := s.acquire_lock_acquires handle writeAccess now
      rw [perform]
      generalize (s.acquireLock handle writeAccess now).1 = result at step
      generalize (s.acquireLock handle writeAccess now).2 = t at step
      cases step with
      | unchanged => rfl
      | waits => rfl
      | takes =>
          unfold grantLock
          split <;> rfl
  | releaseLock handle => exact (s.release_lock_settle handle).device_id
  | processQueue => exact (s.process_queue_settle now).device_id
  | processAll => exact s.process_timeouts_device_id now

theorem get_all_queue_positions_eq (s : DeviceSharingState) :
    s.getAllQueuePositions = (s.accessQueue.map QueueEntry.handle).zipIdx 1 := by
  have shifted : ∀ (queue : List QueueEntry) n,
      (queue.zipIdx n).map (fun e => (e.1.handle, e.2 + 1)) =
        (queue.map QueueEntry.handle).zipIdx (n + 1) := by
    intro queue
    induction queue with
    | nil => exact fun _ => rfl
    | cons entry rest ih =>
        intro n
        rw [List.zipIdx_cons, List.map_cons, List.map_cons, List.zipIdx_cons, ih]
  exact shifted s.accessQueue 0

/-- One pass reports the expired lock, then the grant, then the queue it leaves. -/
theorem process_timeouts_events (s : DeviceSharingState) (now : Instant) :
    ∃ granted : Option DeviceHandle, (s.processTimeouts now).1 =
      (s.checkLockTimeout now).toList.map (.lockExpired s.deviceId) ++
        granted.toList.flatMap fun h => .accessGranted s.deviceId h ::
          (s.processTimeouts now).2.getAllQueuePositions.map fun p =>
            .queuePositionChanged s.deviceId p.1 p.2 := by
  have same := s.process_timeouts_device_id now
  unfold processTimeouts at same ⊢
  cases found : s.checkLockTimeout now with
  | none =>
      rw [found] at same
      dsimp only at same ⊢
      split
      case h_1 granted served eq =>
        rw [eq] at same
        have own : served.deviceId = s.deviceId := same
        refine ⟨some granted, ?_⟩
        simp only [own, Option.toList, List.map_nil, List.flatMap_singleton]
      case h_2 => exact ⟨none, rfl⟩
  | some holder =>
      rw [found] at same
      dsimp only at same ⊢
      split
      case h_1 granted served eq =>
        rw [eq] at same
        have own : served.deviceId = s.deviceId := same
        refine ⟨some granted, ?_⟩
        simp only [own, Option.toList, List.map_nil, List.map_cons, List.flatMap_singleton]
      case h_2 => exact ⟨none, rfl⟩

theorem lock_expired_event {d : DeviceId} :
    .lockExpired d h ∈ (s.processTimeouts now).1 ↔
      d = s.deviceId ∧ s.checkLockTimeout now = some h := by
  obtain ⟨granted, events⟩ := s.process_timeouts_events now
  simp [events, Option.mem_toList, and_comm, eq_comm]

/-- The devices and positions that the events for one device announce. -/
def positionChanges (events : List SharingEvent) (d : DeviceId) : List (DeviceHandle × Nat) :=
  events.filterMap fun
    | .queuePositionChanged deviceId handle newPosition =>
        if deviceId = d then some (handle, newPosition) else none
    | _ => none

theorem position_changes_append (before after : List SharingEvent) (d : DeviceId) :
    positionChanges (before ++ after) d = positionChanges before d ++ positionChanges after d :=
  List.filterMap_append

/-- After a grant the announced positions are those of the remaining queue. -/
theorem granted_positions {d : DeviceId}
    (granted : .accessGranted d h ∈ (s.processTimeouts now).1) :
    d = s.deviceId ∧ positionChanges (s.processTimeouts now).1 d =
      ((s.processTimeouts now).2.accessQueue.map QueueEntry.handle).zipIdx 1 := by
  obtain ⟨served, events⟩ := s.process_timeouts_events now
  have announced : ∀ positions : List (DeviceHandle × Nat), ∀ d j,
      positionChanges (.accessGranted d j ::
        positions.map fun p => .queuePositionChanged d p.1 p.2) d = positions := by
    intro positions d j
    rw [positionChanges, List.filterMap_cons, List.filterMap_map]
    simp
  have unannounced : positionChanges
      ((s.checkLockTimeout now).toList.map (.lockExpired s.deviceId)) d = [] := by
    rw [positionChanges, List.filterMap_map]
    simp
  rw [events] at granted ⊢
  rcases List.mem_append.mp granted with wrong | mine
  · simp at wrong
  obtain ⟨j, someone, mine⟩ := List.mem_flatMap.mp mine
  obtain rfl := Option.mem_toList.mp someone
  have own : d = s.deviceId ∧ h = j := by simpa using mine
  refine ⟨own.1, ?_⟩
  rw [position_changes_append, unannounced, List.nil_append, Option.toList_some,
    List.flatMap_singleton, ← own.1, announced, get_all_queue_positions_eq]

/-- The events of one device say nothing of another. -/
theorem other_positions {d : DeviceId} (other : s.deviceId ≠ d) :
    positionChanges (s.processTimeouts now).1 d = [] := by
  obtain ⟨served, events⟩ := s.process_timeouts_events now
  rw [events, positionChanges, List.filterMap_eq_nil_iff]
  intro event mine
  cases event with
  | lockExpired => rfl
  | accessGranted => rfl
  | queuePositionChanged deviceId handle newPosition =>
      have own : deviceId = s.deviceId := by
        have both := mine
        simp at both
        exact both.2.2.symm
      exact if_neg fun same => other (own.symm.trans same)

end DeviceSharingState

namespace DeviceAccessTracker
variable {t : DeviceAccessTracker} {d : DeviceId} {h : DeviceHandle} {now clock : Instant}

inductive TrackerOp where
  | registerDevice (deviceId : DeviceId) (mode : SharingMode) (maxClients : Nat)
      (lockTimeout : Duration)
  | unregisterDevice (deviceId : DeviceId)
  | onState (deviceId : DeviceId) (op : DeviceSharingState.SharingOp)
  | processAll

def perform (t : DeviceAccessTracker) (now : Instant) : TrackerOp → DeviceAccessTracker
  | .registerDevice deviceId mode maxClients lockTimeout =>
      t.registerDevice deviceId mode maxClients lockTimeout
  | .unregisterDevice deviceId => t.unregisterDevice deviceId
  | .onState deviceId op => t.modifyState deviceId fun s => s.perform now op
  | .processAll => (t.processAll now).2

/-- The tracker under any calls, each no earlier than the one before. -/
def tracking : Machine (DeviceAccessTracker × Instant) (TrackerOp × Instant) Empty where
  step s call := if s.2 ≤ call.2 then some ((s.1.perform call.2 call.1, call.2), []) else none

/-- Every device is kept under its own name, in a state that its calls can reach. -/
def ExpiryInv (t : DeviceAccessTracker) (clock : Instant) : Prop :=
  ∀ d s, t.getState d = some s → s.deviceId = d ∧ s.ExpiryInv clock

theorem get_state_process_all (t : DeviceAccessTracker) (now : Instant) (d : DeviceId) :
    (t.processAll now).2.getState d = (t.getState d).map fun s => (s.processTimeouts now).2 :=
  AList.lookup_mapVal _ _ _

namespace ExpiryInv

theorem perform (ht : t.ExpiryInv clock) (op : TrackerOp) (later : clock ≤ now) :
    (t.perform now op).ExpiryInv now := by
  have idle : ∀ d s, t.getState d = some s → s.deviceId = d ∧ s.ExpiryInv now :=
    fun d s found => (ht d s found).imp id fun hs => hs.idle later
  intro d s found
  cases op with
  | registerDevice deviceId mode maxClients lockTimeout =>
      rcases AList.lookup_insert_eq_some.mp found with ⟨rfl, rfl⟩ | ⟨-, old⟩
      · exact ⟨rfl, .new d mode maxClients lockTimeout now⟩
      · exact idle d s old
  | unregisterDevice deviceId => exact idle d s (AList.lookup_erase_eq_some.mp found).2
  | onState deviceId op =>
      simp only [DeviceAccessTracker.perform, get_state_modify] at found
      split at found
      case isTrue same =>
        obtain ⟨u, old, rfl⟩ := Option.map_eq_some_iff.mp found
        obtain ⟨own, hu⟩ := ht deviceId u old
        exact ⟨(u.perform_device_id op now).trans (own.trans same.symm), hu.perform op later⟩
      case isFalse => exact idle d s found
  | processAll =>
      simp only [DeviceAccessTracker.perform, get_state_process_all] at found
      obtain ⟨u, old, rfl⟩ := Option.map_eq_some_iff.mp found
      obtain ⟨own, hu⟩ := ht d u old
      exact ⟨(u.process_timeouts_device_id now).trans own, hu.process_timeouts later⟩

theorem perform_run {start : Instant} {tr : List Empty}
    (run : tracking.Reach (.new, start) tr (t, clock)) : t.ExpiryInv clock := by
  refine run.stateInvariant (I := fun s => s.1.ExpiryInv s.2) (fun _ _ none => (nomatch none)) ?_
  intro s call t out ht _ step
  simp only [tracking] at step
  split at step
  case isFalse => cases step
  case isTrue later =>
    obtain ⟨rfl, -⟩ := Prod.mk.inj (Option.some.inj step)
    exact ht.perform call.1 later

/-- An event of the pass comes from the device that it names. -/
theorem event_device (ht : t.ExpiryInv clock) {event : SharingEvent}
    (emitted : event ∈ (t.processAll now).1) :
    ∃ d s, t.getState d = some s ∧ s.deviceId = d ∧ s.ExpiryInv clock ∧
      event ∈ (s.processTimeouts now).1 := by
  obtain ⟨⟨d, s⟩, kept, mine⟩ := List.mem_flatMap.mp emitted
  have found := AList.lookup_eq_some.mpr kept
  obtain ⟨own, hs⟩ := ht d s found
  exact ⟨d, s, found, own, hs, mine⟩

/-- The positions announced for one device are announced by its own pass. -/
theorem position_changes (ht : t.ExpiryInv clock) {s : DeviceSharingState}
    (found : t.getState d = some s) :
    DeviceSharingState.positionChanges (t.processAll now).1 d =
      DeviceSharingState.positionChanges (s.processTimeouts now).1 d := by
  have others : ∀ e : Σ _ : DeviceId, DeviceSharingState, e ∈ t.devices.entries → e.1 ≠ d →
      DeviceSharingState.positionChanges (e.2.processTimeouts now).1 d = [] := by
    intro e kept other
    have own := (ht e.1 e.2 (AList.lookup_eq_some.mpr kept)).1
    exact DeviceSharingState.other_positions fun same => other (own.symm.trans same)
  rw [← AList.flatMap_entries_single found others, DeviceSharingState.positionChanges, processAll,
    List.filterMap_flatMap]
  rfl

end ExpiryInv

theorem process_all_consistent {start : Instant} {tr : List Empty}
    (run : tracking.Reach (.new, start) tr (t, clock)) (now : Instant) :
    (∀ d h, .lockExpired d h ∈ (t.processAll now).1 →
      ∃ s', (t.processAll now).2.getState d = some s' ∧ ¬ s'.Holds h) ∧
    (∀ d s h c a, t.getState d = some s → s.Holds h → s.attachedClients.lookup h = some c →
      c.lockAcquiredAt = some a → now - a > s.lockTimeout →
      ∃ s', (t.processAll now).2.getState d = some s' ∧ ¬ s'.Holds h) ∧
    (∀ d h, .accessGranted d h ∈ (t.processAll now).1 →
      ∃ s', (t.processAll now).2.getState d = some s' ∧
        DeviceSharingState.positionChanges (t.processAll now).1 d =
          (s'.accessQueue.map QueueEntry.handle).zipIdx 1) ∧
    t.SameClients (t.processAll now).2 := by
  have ht := ExpiryInv.perform_run run
  refine ⟨fun d h expired => ?_, fun d s h c a found held present acquired overdue => ?_,
    fun d h granted => ?_, .process_all t now⟩
  · obtain ⟨d', s, found, own, hs, mine⟩ := ht.event_device expired
    obtain ⟨rfl, late⟩ := DeviceSharingState.lock_expired_event.mp mine
    obtain ⟨held, overdue⟩ := (hs.toQueueOrder.check_lock_timeout now).mp late
    refine ⟨_, ?_, hs.expired_released held overdue⟩
    rw [get_state_process_all, own, found, Option.map_some]
  · have late : s.lockExpired now h = true := by
      rw [DeviceSharingState.lockExpired, present, Option.bind_some, acquired, Option.any_some]
      exact decide_eq_true overdue
    refine ⟨_, ?_, (ht d s found).2.expired_released held late⟩
    rw [get_state_process_all, found, Option.map_some]
  · obtain ⟨d', s, found, own, -, mine⟩ := ht.event_device granted
    obtain ⟨rfl, listed⟩ := DeviceSharingState.granted_positions mine
    rw [own] at listed ⊢
    refine ⟨_, ?_, (ht.position_changes found).trans listed⟩
    rw [get_state_process_all, found, Option.map_some]

/-- The lock of the second client expires while its old entry still stands in the queue. -/
theorem process_all_consistent_left_entry :
    ∃ t clock tr, tracking.Reach (.new, 0) tr (t, clock) ∧
      (t.processAll 14).1 = [.lockExpired ⟨1⟩ ⟨2⟩, .accessGranted ⟨1⟩ ⟨3⟩] ∧
      ∃ s', (t.processAll 14).2.getState ⟨1⟩ = some s' ∧ ¬ s'.Holds ⟨2⟩ := by
  have attached : tracking.Reach (.new, 0) _ _ :=
    .next (.next (.next (.next .start (a := (.registerDevice ⟨1⟩ .shared 4 10, 0)) trivial rfl)
      (a := (.onState ⟨1⟩ (.attachClient "a" ⟨1⟩), 0)) trivial rfl)
      (a := (.onState ⟨1⟩ (.attachClient "b" ⟨2⟩), 0)) trivial rfl)
      (a := (.onState ⟨1⟩ (.attachClient "c" ⟨3⟩), 0)) trivial rfl
  have waiting : tracking.Reach (.new, 0) _ _ :=
    .next (.next attached (a := (.onState ⟨1⟩ (.acquireLock ⟨1⟩ false), 0)) trivial rfl)
      (a := (.onState ⟨1⟩ (.acquireLock ⟨2⟩ false), 1)) trivial rfl
  have run : tracking.Reach (.new, 0) _ _ :=
    .next (.next (.next waiting (a := (.onState ⟨1⟩ (.releaseLock ⟨1⟩), 2)) trivial rfl)
      (a := (.onState ⟨1⟩ (.acquireLock ⟨2⟩ false), 3)) trivial rfl)
      (a := (.onState ⟨1⟩ (.acquireLock ⟨3⟩ false), 5)) trivial rfl
  refine ⟨_, _, _, run, by decide, ?_⟩
  exact (process_all_consistent run 14).1 ⟨1⟩ ⟨2⟩ (by decide)

end DeviceAccessTracker
end P2pUsb