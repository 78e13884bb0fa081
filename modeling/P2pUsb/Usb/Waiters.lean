import P2pUsb.Usb.Worker

/-! Waiting for a lock. Nothing in the worker's loop processes the queues, so a
lock that is given up or outlives its timeout is handed on only if no live
request waits for it; this module says exactly when a run gets by with that. -/
namespace P2pUsb
namespace DeviceManager
variable {m : DeviceManager}

/-- The event removes this device. -/
def Unplugs (m : DeviceManager) (event : DebouncedEvent) (id : DeviceId) : Prop :=
  event.eventType = .left ∧ m.deviceIds.lookup id = some (event.bus, event.address)

/-- A freshly registered device. -/
def IsNew (s : DeviceSharingState) : Prop :=
  ∃ id mode maxClients timeout, s = .new id mode maxClients timeout

theorem RegistryInv.ready_event_states (hm : m.RegistryInv) (env : UsbEnv)
    (event : DebouncedEvent) (j : DeviceId) :
    ((m.processReadyEvent env event).2.accessTracker.getState j = m.accessTracker.getState j ∧
      (m.processReadyEvent env event).2.deviceIds.lookup j = m.deviceIds.lookup j ∧
      ¬ m.Unplugs event j) ∨
    ((m.processReadyEvent env event).2.accessTracker.getState j = none ∧ m.Unplugs event j) ∨
    (j ∉ m.deviceIds ∧
      ∃ s, (m.processReadyEvent env event).2.accessTracker.getState j = some s ∧ IsNew s) := by
  obtain ⟨eventType, fireAt, bus, address⟩ := event
  cases eventType with
  | arrived =>
      have stays : ¬ m.Unplugs ⟨.arrived, fireAt, bus, address⟩ j := fun h => nomatch h.1
      simp only [processReadyEvent]
      rcases m.device_arrived_cases env bus address with same | ⟨device, added⟩
      · rw [same]
        exact .inl ⟨rfl, rfl, stays⟩
      rw [added]
      rcases m.add_device_cases device with ⟨same, -⟩ | ⟨burnt, -⟩ | ⟨d, free, -, id, -, tracked⟩
      · rw [same]
        exact .inl ⟨rfl, rfl, stays⟩
      · rw [burnt]
        exact .inl ⟨rfl, rfl, stays⟩
      rw [tracked]
      by_cases hj : j = d.id
      · refine .inr (.inr ⟨?_, .new d.id m.sharingConfig.defaultMode
          m.sharingConfig.defaultMaxClients
          (Duration.fromSecs m.sharingConfig.defaultLockTimeoutSecs), ?_, ⟨_, _, _, _, rfl⟩⟩)
        · rw [hj, id]
          exact hm.next_id_free
        · rw [hj]
          exact AList.lookup_insert _
      · exact .inl ⟨AList.lookup_insert_ne hj, AList.lookup_insert_ne hj, stays⟩
  | left =>
      have same : (m.processReadyEvent env ⟨.left, fireAt, bus, address⟩).2 =
          (m.removeDevice bus address).2 := by
        simp only [processReadyEvent, handleDeviceLeftInternal]
        split <;> rename_i removed <;> rw [removed]
      rw [same]
      cases tracked : m.devices.lookup (bus, address) with
      | none =>
          simp only [removeDevice, tracked]
          refine .inl ⟨trivial, trivial, fun unplugged => ?_⟩
          obtain ⟨d, there, -⟩ := hm.id_device j _ unplugged.2
          rw [tracked] at there
          cases there
      | some device =>
          simp only [removeDevice, tracked]
          have here := hm.device_key _ _ tracked
          by_cases hj : j = device.id
          · exact .inr (.inl ⟨hj ▸ AList.lookup_erase _ _, rfl, hj ▸ here⟩)
          · refine .inl ⟨AList.lookup_erase_ne hj, AList.lookup_erase_ne hj, fun unplugged => ?_⟩
            exact hj (hm.tracked_id unplugged.2 tracked).symm

end DeviceManager

namespace DeviceSharingState
variable {s s' : DeviceSharingState} {h : DeviceHandle} {clock start finish : Instant}

/-- No live request waits for a free lock, and no lock was over age at `start`. -/
structure Served (s : DeviceSharingState) (start finish : Instant) : Prop where
  free_lock : s.lockAvailable = true →
    ∀ e ∈ s.accessQueue, e.handle ∈ s.attachedClients → e.expired finish = true
  held_lock : ∀ h, s.Holds h → s.lockExpired start h = false

/-- What the end of one round leaves for the next. -/
structure Settled (s : DeviceSharingState) (clock : Instant) : Prop where
  consistent : s.LockConsistent
  waiting : ∀ e ∈ s.accessQueue, e.handle ∈ s.attachedClients
  free_lock : s.lockAvailable = true → ∀ e ∈ s.accessQueue, e.expired clock = true

/-- Locks are held and waited for by attached clients only. -/
structure Orderly (s : DeviceSharingState) : Prop where
  consistent : s.LockConsistent
  waiting : ∀ e ∈ s.accessQueue, e.handle ∈ s.attachedClients

/-- What has to hold of a held lock when a round begins: a command that gives
it up finds no live request of another client, and a lock that is kept is not
over age. -/
structure Prompt (s : DeviceSharingState) (command : Option UsbCommand) (start finish : Instant)
    (h : DeviceHandle) : Prop where
  released : command = some (.unlockDevice h) →
    ∀ e ∈ s.accessQueue, e.handle ∈ s.attachedClients → e.expired finish = true
  detached : command = some (.detachDevice h) →
    ∀ e ∈ s.accessQueue, e.handle ∈ s.attachedClients → e.handle ≠ h → e.expired finish = true
  kept : command ≠ some (.unlockDevice h) → command ≠ some (.detachDevice h) →
    s.lockExpired start h = false

theorem expired_mono {e : QueueEntry} (later : clock ≤ finish) (h : e.expired clock = true) :
    e.expired finish = true := by
  unfold QueueEntry.expired at h ⊢
  cases ht : e.timeout with
  | none => rw [ht] at h; cases h
  | some timeout =>
      rw [ht] at h
      have before : clock - e.requestedAt > timeout := of_decide_eq_true h
      exact decide_eq_true (lt_of_lt_of_le before (Nat.sub_le_sub_right later _))

namespace LockConsistent

theorem holds_attached (hs : s.LockConsistent) (held : s.Holds h) : h ∈ s.attachedClients := by
  rcases held with exclusive | write
  · obtain ⟨-, c, present, -⟩ := hs.exclusive_holder h exclusive
    exact AList.mem_of_lookup present
  · obtain ⟨-, c, present, -⟩ := hs.write_holder h write
    exact AList.mem_of_lookup present

theorem lock_available_iff (hs : s.LockConsistent) :
    s.lockAvailable = true ↔ s.mode ≠ .exclusive ∧ ∀ h, ¬ s.Holds h :=
  lock_available_iff_of_modes hs.no_exclusive_holder hs.no_write_holder

/-- In shared mode only the exclusive lock can be held. -/
theorem holds_shared (hs : s.LockConsistent) (hm : s.mode = .shared) :
    s.Holds h ↔ s.exclusiveLockHolder = some h := by
  have unwritten := hs.no_write_holder (by rw [hm]; exact SharingMode.noConfusion)
  simp only [Holds, unwritten, reduceCtorEq, or_false]

theorem holds_read_only (hs : s.LockConsistent) (hm : s.mode = .readOnly) :
    s.Holds h ↔ s.writeLockHolder = some h := by
  have unlocked := hs.no_exclusive_holder (by rw [hm]; exact SharingMode.noConfusion)
  simp only [Holds, unlocked, reduceCtorEq, false_or]

theorem holds_mode (hs : s.LockConsistent) (held : s.Holds h) : s.mode ≠ .exclusive := by
  rcases held with exclusive | write
  · rw [(hs.exclusive_holder h exclusive).1]
    exact SharingMode.noConfusion
  · rw [(hs.write_holder h write).1]
    exact SharingMode.noConfusion

theorem holds_unique (hs : s.LockConsistent) {j : DeviceHandle} (hh : s.Holds h)
    (hj : s.Holds j) : j = h := by
  cases hm : s.mode with
  | exclusive => exact absurd hm (hs.holds_mode hh)
  | shared =>
      have held := (hs.holds_shared hm).mp hh
      rw [(hs.holds_shared hm).mp hj] at held
      exact Option.some.inj held
  | readOnly =>
      have held := (hs.holds_read_only hm).mp hh
      rw [(hs.holds_read_only hm).mp hj] at held
      exact Option.some.inj held

end LockConsistent

namespace Orderly

theorem new (id : DeviceId) (mode : SharingMode) (maxClients : Nat) (timeout : Duration) :
    Orderly (.new id mode maxClients timeout) :=
  ⟨.new id mode maxClients timeout, fun _ wrong => absurd wrong List.not_mem_nil⟩

theorem detach (hs : s.Orderly) (h : DeviceHandle) : (s.detachClient h).2.Orderly := by
  refine ⟨hs.consistent.detach h, fun e he => mem_detach_client.mpr ?_⟩
  unfold detachClient at he
  split at he
  case h_1 absent =>
    have attached := hs.waiting e he
    refine ⟨?_, attached⟩
    rintro rfl
    exact AList.lookup_eq_none.mp absent attached
  case h_2 =>
    obtain ⟨before, other⟩ := List.mem_filter.mp he
    exact ⟨by simpa using other, hs.waiting e before⟩

theorem acquire (hs : s.Orderly) (h : DeviceHandle) (w : Bool) (now : Instant) :
    (s.acquireLock h w now).2.Orderly := by
  refine ⟨hs.consistent.acquire h w now, fun e he => ?_⟩
  rw [(acquire_lock_same_clients s h w now).mem_iff]
  rcases acquire_lock_cases s h w now with ⟨joins, -⟩ | ⟨-, -, -, granted⟩ | ⟨-, -, -, granted⟩
  · rcases joins with same | ⟨entry, attached, -, joined⟩
    · exact hs.waiting e (same ▸ he)
    · rw [joined] at he
      rcases List.mem_append.mp he with old | new
      · exact hs.waiting e old
      · rwa [List.mem_singleton.mp new]
  · exact hs.waiting e (by rwa [granted] at he)
  · exact hs.waiting e (by rwa [granted] at he)

theorem release (hs : s.Orderly) (h : DeviceHandle) : (s.releaseLock h).2.Orderly := by
  refine ⟨hs.consistent.settle (s.release_lock_settle h), fun e he => ?_⟩
  rw [(SameClients.settle (s.release_lock_settle h)).mem_iff]
  rcases s.release_lock_cases h with ⟨same, -⟩ | ⟨-, -, freed⟩ | ⟨-, -, freed⟩
  · exact hs.waiting e (same ▸ he)
  · exact hs.waiting e (by rwa [freed] at he)
  · exact hs.waiting e (by rwa [freed] at he)

theorem command (hs : s.Orderly) {env : UsbEnv} {cmd : UsbCommand}
    (effect : DeviceManager.CommandEffect env cmd s s') : s'.Orderly := by
  cases cmd with
  | listDevices | submitTransfer | resetDevice | getSharingStatus =>
      obtain rfl : s' = s := effect
      exact hs
  | attachDevice id client =>
      rcases effect with rfl | ⟨h, fresh, rfl⟩
      · exact hs
      · exact ⟨hs.consistent.attach client env.now fresh,
          fun e he => (AList.mem_insert _).mpr (.inr (hs.waiting e he))⟩
  | detachDevice h =>
      obtain rfl : s' = (s.detachClient h).2 := effect
      exact hs.detach h
  | lockDevice h w =>
      obtain rfl : s' = (s.acquireLock h w env.now).2 := effect
      exact hs.acquire h w env.now
  | unlockDevice h =>
      obtain rfl : s' = (s.releaseLock h).2 := effect
      exact hs.release h

end Orderly

theorem holds_detach {j : DeviceHandle} (attached : h ∈ s.attachedClients) :
    (s.detachClient h).2.Holds j ↔ j ≠ h ∧ s.Holds j := by
  obtain ⟨c, present⟩ := AList.mem_iff.mp attached
  have kept : ∀ holder : Option DeviceHandle,
      (if holder = some h then none else holder) = some j ↔ j ≠ h ∧ holder = some j := by
    intro holder
    split
    case isTrue held =>
      rw [held]
      refine ⟨fun wrong => (nomatch wrong), fun both => ?_⟩
      exact absurd (Option.some.inj both.2).symm both.1
    case isFalse other =>
      refine ⟨fun held => ⟨?_, held⟩, And.right⟩
      rintro rfl
      exact other held
  simp only [Holds, detachClient, present, kept, and_or_left]

namespace Settled

/-- While the queue and the holders stay, only the clock matters. -/
theorem unchanged (hs : s.Settled clock) (later : clock ≤ finish) :
    s.Served start finish ↔ ∀ h, s.Holds h → s.lockExpired start h = false :=
  ⟨fun served => served.held_lock, fun held =>
    ⟨fun free e he _ => expired_mono later (hs.free_lock free e he), held⟩⟩

theorem unchanged_prompt (hs : s.Settled clock) (later : clock ≤ finish)
    {command : Option UsbCommand}
    (keeps : ∀ h, s.Holds h → command ≠ some (.unlockDevice h) ∧ command ≠ some (.detachDevice h)) :
    s.Served start finish ↔ ∀ h, s.Holds h → s.Prompt command start finish h := by
  rw [hs.unchanged later]
  refine forall_congr' fun h => forall_congr' fun held => ?_
  obtain ⟨unlock, detach⟩ := keeps h held
  exact ⟨fun young => ⟨fun wrong => absurd wrong unlock, fun wrong => absurd wrong detach,
    fun _ _ => young⟩, fun prompt => prompt.kept unlock detach⟩

theorem attach_prompt (hs : s.Settled clock) (later : clock ≤ finish) {client : String}
    {now : Instant} (fresh : h ∉ s.attachedClients) {command : Option UsbCommand}
    (keeps : ∀ j, s.Holds j → command ≠ some (.unlockDevice j) ∧ command ≠ some (.detachDevice j)) :
    (s.attachClient client h now).Served start finish ↔
      ∀ j, s.Holds j → s.Prompt command start finish j := by
  have age : ∀ j, s.Holds j →
      (s.attachClient client h now).lockExpired start j = s.lockExpired start j := by
    intro j held
    have other : j ≠ h := by
      rintro rfl
      exact fresh (hs.consistent.holds_attached held)
    simp only [lockExpired, attachClient, AList.lookup_insert_ne other]
    rfl
  rw [← hs.unchanged_prompt later keeps, hs.unchanged later]
  constructor
  · intro served j held
    rw [← age j held]
    exact served.held_lock j held
  · intro young
    refine ⟨fun free e he _ => expired_mono later (hs.free_lock free e he), fun j held => ?_⟩
    rw [age j held]
    exact young j held

theorem acquire_prompt (hs : s.Settled clock) (later : clock ≤ finish) (w : Bool) {now : Instant}
    (reads : start ≤ now) : (s.acquireLock h w now).2.Served start finish ↔
      ∀ j, s.Holds j → s.Prompt (some (.lockDevice h w)) start finish j := by
  have keeps : ∀ j, s.Holds j → some (UsbCommand.lockDevice h w) ≠ some (.unlockDevice j) ∧
      some (UsbCommand.lockDevice h w) ≠ some (.detachDevice j) := fun j _ =>
    ⟨fun wrong => (nomatch wrong), fun wrong => (nomatch wrong)⟩
  -- a lock that was just granted is not over age
  have young : ∀ {j c}, (c : AttachedClient).lockAcquiredAt = some now →
      ∀ {t : DeviceSharingState}, t.attachedClients.lookup j = some c →
        t.lockExpired start j = false := by
    intro j c acquired t present
    simp only [lockExpired, present, Option.bind_some, acquired, Option.any_some,
      Nat.sub_eq_zero_of_le reads]
    exact decide_eq_false (Nat.not_lt_zero _)
  rcases acquire_lock_cases s h w now with ⟨joins, -⟩ | ⟨attached, shared, free, granted⟩ |
    ⟨attached, readOnly, free, granted⟩
  · rcases joins with same | ⟨entry, -, busy, joined⟩
    · rw [same]
      exact hs.unchanged_prompt later keeps
    · rw [joined, ← hs.unchanged_prompt later keeps, hs.unchanged later]
      refine ⟨fun served => served.held_lock, fun young => ⟨fun free => ?_, young⟩⟩
      exact absurd (busy.symm.trans free) Bool.false_ne_true
  · obtain ⟨c, present⟩ := AList.mem_iff.mp attached
    have holds : ∀ j, ¬ s.Holds j := by
      intro j held
      rw [hs.consistent.holds_shared shared, free] at held
      cases held
    have found : (s.grantExclusive h now).attachedClients.lookup h =
        some { c with hasAccess := true, lockAcquiredAt := some now } := by
      simp only [grantExclusive, AList.lookup_modify_self, present, Option.map_some]
    have unwritten := hs.consistent.no_write_holder (by rw [shared]; exact SharingMode.noConfusion)
    rw [granted]
    refine iff_of_true ⟨fun available => ?_, fun j held => ?_⟩ fun j held => absurd held (holds j)
    · simp only [lockAvailable, grantExclusive, shared, Option.isNone_some,
        Bool.false_eq_true] at available
    · rcases held with exclusive | write
      · obtain rfl := Option.some.inj exclusive
        exact young rfl found
      · exact absurd (unwritten.symm.trans write) (Option.some_ne_none j).symm
  · obtain ⟨c, present⟩ := AList.mem_iff.mp attached
    have holds : ∀ j, ¬ s.Holds j := by
      intro j held
      rw [hs.consistent.holds_read_only readOnly, free] at held
      cases held
    have found : (s.grantWrite h now).attachedClients.lookup h =
        some { c with hasWriteLock := true, lockAcquiredAt := some now } := by
      simp only [grantWrite, AList.lookup_modify_self, present, Option.map_some]
    have unlocked :=
      hs.consistent.no_exclusive_holder (by rw [readOnly]; exact SharingMode.noConfusion)
    rw [granted]
    refine iff_of_true ⟨fun available => ?_, fun j held => ?_⟩ fun j held => absurd held (holds j)
    · simp only [lockAvailable, grantWrite, readOnly, Option.isNone_some,
        Bool.false_eq_true] at available
    · rcases held with exclusive | write
      · exact absurd (unlocked.symm.trans exclusive) (Option.some_ne_none j).symm
      · obtain rfl := Option.some.inj write
        exact young rfl found

theorem release_prompt (hs : s.Settled clock) (later : clock ≤ finish) :
    (s.releaseLock h).2.Served start finish ↔
      ∀ j, s.Holds j → s.Prompt (some (.unlockDevice h)) start finish j := by
  -- once the holder has released, only the queue decides
  have freed : ∀ {t : DeviceSharingState}, s.Holds h → (∀ j, s.Holds j → j = h) →
      t.accessQueue = s.accessQueue → (∀ j, j ∈ t.attachedClients ↔ j ∈ s.attachedClients) →
      t.lockAvailable = true → (∀ j, ¬ t.Holds j) →
      (t.Served start finish ↔
        ∀ j, s.Holds j → s.Prompt (some (.unlockDevice h)) start finish j) := by
    intro t held sole queue clients available nobody
    constructor
    · intro served j hj
      obtain rfl := sole j hj
      refine ⟨fun _ e he present => ?_, fun wrong => (nomatch wrong),
        fun wrong => absurd rfl wrong⟩
      exact served.free_lock available e (queue ▸ he) ((clients _).mpr present)
    · intro prompt
      refine ⟨fun _ e he present => ?_, fun j wrong => absurd wrong (nobody j)⟩
      exact (prompt h held).released rfl e (queue ▸ he) ((clients _).mp present)
  rcases s.release_lock_cases h with ⟨same, other⟩ | ⟨shared, held, released⟩ |
    ⟨readOnly, held, released⟩
  · rw [same]
    refine hs.unchanged_prompt later fun j hj => ⟨?_, fun wrong => (nomatch wrong)⟩
    intro mine
    obtain rfl : h = j := by simpa using mine
    obtain ⟨notShared, notReadOnly⟩ := other (hs.consistent.holds_attached hj)
    rcases hj with exclusive | write
    · exact notShared (hs.consistent.exclusive_holder h exclusive).1 exclusive
    · exact notReadOnly (hs.consistent.write_holder h write).1 write
  · have unwritten := hs.consistent.no_write_holder (by rw [shared]; exact SharingMode.noConfusion)
    rw [released]
    refine freed (.inl held) ?_ rfl (fun j => AList.mem_modify) ?_ ?_
    · intro j hj
      rw [hs.consistent.holds_shared shared, held] at hj
      exact (Option.some.inj hj).symm
    · simp only [lockAvailable, shared, Option.isNone_none]
    · rintro j (wrong | write)
      · cases wrong
      · exact absurd (unwritten.symm.trans write) (Option.some_ne_none j).symm
  · have unlocked :=
      hs.consistent.no_exclusive_holder (by rw [readOnly]; exact SharingMode.noConfusion)
    rw [released]
    refine freed (.inr held) ?_ rfl (fun j => AList.mem_modify) ?_ ?_
    · intro j hj
      rw [hs.consistent.holds_read_only readOnly, held] at hj
      exact (Option.some.inj hj).symm
    · simp only [lockAvailable, readOnly, Option.isNone_none]
    · rintro j (exclusive | wrong)
      · exact absurd (unlocked.symm.trans exclusive) (Option.some_ne_none j).symm
      · cases wrong

theorem detach_prompt (hs : s.Settled clock) (later : clock ≤ finish) :
    (s.detachClient h).2.Served start finish ↔
      ∀ j, s.Holds j → s.Prompt (some (.detachDevice h)) start finish j := by
  cases present : s.attachedClients.lookup h with
  | none =>
      have absent : h ∉ s.attachedClients := AList.lookup_eq_none.mp present
      have same : (s.detachClient h).2 = s := by simp only [detachClient, present]
      rw [same]
      refine hs.unchanged_prompt later fun j hj => ⟨by rintro ⟨⟩, ?_⟩
      intro mine
      obtain rfl : h = j := by simpa using mine
      exact absent (hs.consistent.holds_attached hj)
  | some client =>
      have attached := AList.mem_of_lookup present
      have after := hs.consistent.detach h
      have mode : (s.detachClient h).2.mode = s.mode := (s.detach_client_frame h).1
      have queued : ∀ e, e ∈ (s.detachClient h).2.accessQueue ↔
          e ∈ s.accessQueue ∧ e.handle ≠ h := by
        intro e
        simp only [detachClient, present, List.mem_filter, bne_iff_ne]
      by_cases held : s.Holds h
      · have available : (s.detachClient h).2.lockAvailable = true := by
          refine after.lock_available_iff.mpr ⟨mode ▸ hs.consistent.holds_mode held, ?_⟩
          intro j hj
          obtain ⟨other, before⟩ := (holds_detach attached).mp hj
          exact other (hs.consistent.holds_unique held before)
        constructor
        · intro served j hj
          obtain rfl := hs.consistent.holds_unique held hj
          refine ⟨by rintro ⟨⟩, fun _ e he _ other => ?_, fun _ wrong => absurd rfl wrong⟩
          refine served.free_lock available e ((queued e).mpr ⟨he, other⟩) ?_
          exact mem_detach_client.mpr ⟨other, hs.waiting e he⟩
        · intro prompt
          constructor
          · intro _ e he _
            obtain ⟨before, other⟩ := (queued e).mp he
            exact (prompt h held).detached rfl e before (hs.waiting e before) other
          · intro j hj
            obtain ⟨other, before⟩ := (holds_detach attached).mp hj
            exact absurd (hs.consistent.holds_unique held before) other
      · have others : ∀ {j}, s.Holds j → j ≠ h := by
          rintro j hj rfl
          exact held hj
        have age : ∀ j, s.Holds j →
            (s.detachClient h).2.lockExpired start j = s.lockExpired start j := by
          intro j hj
          simp only [lockExpired, detachClient, present, AList.lookup_erase_ne (others hj)]
        have keeps : ∀ j, s.Holds j → some (UsbCommand.detachDevice h) ≠ some (.unlockDevice j) ∧
            some (UsbCommand.detachDevice h) ≠ some (.detachDevice j) := by
          refine fun j hj => ⟨by rintro ⟨⟩, fun mine => ?_⟩
          obtain rfl : h = j := by simpa using mine
          exact held hj
        rw [← hs.unchanged_prompt later keeps, hs.unchanged later]
        constructor
        · intro served j hj
          rw [← age j hj]
          exact served.held_lock j ((holds_detach attached).mpr ⟨others hj, hj⟩)
        · intro young
          constructor
          · intro available e he _
            have before : s.lockAvailable = true := by
              obtain ⟨shareable, nobody⟩ := after.lock_available_iff.mp available
              refine hs.consistent.lock_available_iff.mpr ⟨mode ▸ shareable, fun j hj => ?_⟩
              exact nobody j ((holds_detach attached).mpr ⟨others hj, hj⟩)
            exact expired_mono later (hs.free_lock before e ((queued e).mp he).1)
          · intro j hj
            obtain ⟨-, before⟩ := (holds_detach attached).mp hj
            rw [age j before]
            exact young j before

/-- After any command or none, the round ends well exactly if it began well. -/
theorem served_iff_prompt (hs : s.Settled clock) {command : Option (UsbEnv × UsbCommand)}
    (effect : command.elim (s' = s) fun c => DeviceManager.CommandEffect c.1 c.2 s s')
    (later : clock ≤ finish) (reads : ∀ c ∈ command, start ≤ c.1.now) :
    s'.Served start finish ↔
      ∀ j, s.Holds j → s.Prompt (command.map Prod.snd) start finish j := by
  rcases command with _ | ⟨env, cmd⟩
  · obtain rfl : s' = s := effect
    exact hs.unchanged_prompt later fun j _ =>
      ⟨fun wrong => (nomatch wrong), fun wrong => (nomatch wrong)⟩
  have keeps : ∀ cmd : UsbCommand, (∀ j, cmd ≠ .unlockDevice j) → (∀ j, cmd ≠ .detachDevice j) →
      ∀ j, s.Holds j → some cmd ≠ some (.unlockDevice j) ∧ some cmd ≠ some (.detachDevice j) :=
    fun _ unlock detach j _ => ⟨fun same => unlock j (Option.some.inj same),
      fun same => detach j (Option.some.inj same)⟩
  cases cmd with
  | listDevices | submitTransfer | resetDevice | getSharingStatus =>
      obtain rfl : s' = s := effect
      exact hs.unchanged_prompt later (keeps _ (fun _ => UsbCommand.noConfusion)
        fun _ => UsbCommand.noConfusion)
  | attachDevice id client =>
      have unrelated := keeps (.attachDevice id client) (fun _ => UsbCommand.noConfusion)
        fun _ => UsbCommand.noConfusion
      rcases effect with rfl | ⟨h, fresh, rfl⟩
      · exact hs.unchanged_prompt later unrelated
      · exact hs.attach_prompt later fresh unrelated
  | detachDevice h =>
      obtain rfl : s' = (s.detachClient h).2 := effect
      exact hs.detach_prompt later
  | lockDevice h w =>
      obtain rfl : s' = (s.acquireLock h w env.now).2 := effect
      exact hs.acquire_prompt later w (reads _ rfl)
  | unlockDevice h =>
      obtain rfl : s' = (s.releaseLock h).2 := effect
      exact hs.release_prompt later

/-- A round that ends well leaves the state settled for the next. -/
theorem next (hs : s.Settled clock) {command : Option (UsbEnv × UsbCommand)}
    (effect : command.elim (s' = s) fun c => DeviceManager.CommandEffect c.1 c.2 s s')
    (served : s'.Served start finish) : s'.Settled finish := by
  have before : s.Orderly := ⟨hs.consistent, hs.waiting⟩
  have after : s'.Orderly := by
    rcases command with _ | ⟨env, cmd⟩
    · obtain rfl : s' = s := effect
      exact before
    · exact before.command effect
  exact ⟨after.consistent, after.waiting,
    fun free e he => served.free_lock free e he (after.waiting e he)⟩

end Settled
end DeviceSharingState

namespace UsbWorkerThread
variable {m : DeviceManager}

/-- Some event of the list removes this device. -/
def Unplugged (m : DeviceManager) (fired : List (UsbEnv × DebouncedEvent)) (id : DeviceId) : Prop :=
  ∃ f ∈ fired, m.Unplugs f.2 id

theorem after_events_update {fired : List (UsbEnv × DebouncedEvent)} (hm : m.RegistryInv) :
    (afterEvents m fired).RegistryInv := by
  induction fired generalizing m with
  | nil => exact hm
  | cons f rest ih => exact ih (hm.update (m.process_ready_event_update f.1 f.2))

/-- What is there after the events was there before, or is new. -/
theorem after_events_old {fired : List (UsbEnv × DebouncedEvent)} (hm : m.RegistryInv)
    {j : DeviceId} {s : DeviceSharingState}
    (after : (afterEvents m fired).accessTracker.getState j = some s) :
    DeviceManager.IsNew s ∨ m.accessTracker.getState j = some s ∧ ¬ Unplugged m fired j := by
  induction fired generalizing m with
  | nil => exact .inr ⟨after, fun ⟨_, wrong, _⟩ => absurd wrong List.not_mem_nil⟩
  | cons f rest ih =>
      rcases ih (hm.update (m.process_ready_event_update f.1 f.2)) after with isNew | ⟨found, stays⟩
      · exact .inl isNew
      rcases hm.ready_event_states f.1 f.2 j with ⟨same, key, here⟩ | ⟨gone, -⟩ |
        ⟨-, s', new, isNew⟩
      · refine .inr ⟨same ▸ found, ?_⟩
        rintro ⟨g, hg, unplugs⟩
        rcases List.mem_cons.mp hg with rfl | later
        · exact here unplugs
        · exact stays ⟨g, later, unplugs.1, key.trans unplugs.2⟩
      · rw [gone] at found
        cases found
      · rw [new] at found
        obtain rfl := Option.some.inj found
        exact .inl isNew

theorem after_events_kept {fired : List (UsbEnv × DebouncedEvent)} (hm : m.RegistryInv)
    {j : DeviceId} {s : DeviceSharingState} (found : m.accessTracker.getState j = some s)
    (stays : ¬ Unplugged m fired j) : (afterEvents m fired).accessTracker.getState j = some s := by
  induction fired generalizing m with
  | nil => exact found
  | cons f rest ih =>
      rcases hm.ready_event_states f.1 f.2 j with ⟨same, key, -⟩ | ⟨-, unplugs⟩ | ⟨absent, -⟩
      · refine ih (hm.update (m.process_ready_event_update f.1 f.2)) (same.trans found) ?_
        rintro ⟨g, later, unplugs⟩
        exact stays ⟨g, List.mem_cons_of_mem f later, unplugs.1, key.symm.trans unplugs.2⟩
      · exact absurd ⟨f, List.mem_cons_self, unplugs⟩ stays
      · exact absurd ((hm.registered j).mpr ⟨s, found⟩) absent

theorem is_new_settled {s : DeviceSharingState} (h : DeviceManager.IsNew s) (clock : Instant) :
    s.Settled clock := by
  obtain ⟨id, mode, maxClients, timeout, rfl⟩ := h
  exact ⟨.new id mode maxClients timeout, fun e he => absurd he List.not_mem_nil,
    fun _ e he => absurd he List.not_mem_nil⟩

theorem is_new_served {s : DeviceSharingState} (h : DeviceManager.IsNew s)
    (start finish : Instant) : s.Served start finish := by
  obtain ⟨id, mode, maxClients, timeout, rfl⟩ := h
  refine ⟨fun _ e he => absurd he List.not_mem_nil, fun h held => ?_⟩
  rcases held with wrong | wrong <;> cases wrong

structure Inv (w : UsbWorkerThread) : Prop where
  registry : w.manager.RegistryInv
  settled : ∀ id s, w.manager.accessTracker.getState id = some s → s.Settled w.clock

theorem enumerate_devices_new (devices : List RusbDevice) (hm : m.RegistryInv)
    (states : ∀ id s, m.accessTracker.getState id = some s → DeviceManager.IsNew s) :
    (m.enumerateDevices devices).RegistryInv ∧ ∀ id s,
      (m.enumerateDevices devices).accessTracker.getState id = some s → DeviceManager.IsNew s := by
  induction devices generalizing m with
  | nil => exact ⟨hm, states⟩
  | cons device rest ih =>
      refine ih (hm.update (m.add_device_update device)) ?_
      intro id s found
      have found : (m.addDevice device).2.accessTracker.getState id = some s := found
      rcases m.add_device_cases device with ⟨same, -⟩ | ⟨burnt, -⟩ | ⟨d, -, -, -, -, tracked⟩
      · rw [same] at found
        exact states id s found
      · rw [burnt] at found
        exact states id s found
      · rw [tracked] at found
        have read : (m.track (device.busNumber, device.address) d).accessTracker.getState id =
            if id = d.id then some (.new d.id m.sharingConfig.defaultMode
              m.sharingConfig.defaultMaxClients
              (Duration.fromSecs m.sharingConfig.defaultLockTimeoutSecs))
            else m.accessTracker.getState id := AList.lookup_insert_eq _ _ _ _
        rw [read] at found
        split at found
        · exact ⟨_, _, _, _, (Option.some.inj found).symm⟩
        · exact states id s found

theorem Inv.new (filters : List String) (config : SharingConfig) (devices : List RusbDevice)
    (clock : Instant) : (UsbWorkerThread.new filters config devices clock).Inv := by
  obtain ⟨registry, states⟩ := enumerate_devices_new devices
    (DeviceManager.RegistryInv.new filters config) fun id s wrong => (nomatch wrong)
  exact ⟨registry, fun id s found => is_new_settled (states id s found) clock⟩

theorem after_callbacks_eq (m : DeviceManager) (it : Iteration) :
    ∃ pending, afterCallbacks m it = { m with debounceState := pending } := by
  unfold afterCallbacks
  induction it.callbacks generalizing m with
  | nil => exact ⟨m.debounceState, rfl⟩
  | cons c rest ih =>
      obtain ⟨pending, same⟩ := ih (m.scheduleDebouncedEvent c.now c.bus c.address c.eventType)
      exact ⟨pending, same⟩

/-- What a round does to the registered devices: first the command, then the
events that fire; the callbacks only schedule. -/
theorem round_step {w t : UsbWorkerThread} {it : Iteration} {out : List Empty}
    (step : rounds.step w it = some (t, out)) :
    (w.clock :: it.readings).Pairwise (· ≤ ·) ∧ t.clock = it.finish ∧
      ∃ pending, t.manager =
        afterEvents { afterCommand w.manager it with debounceState := pending } it.fired := by
  simp only [rounds] at step
  split at step
  case isFalse => cases step
  case isTrue enabled =>
    obtain ⟨rfl, -⟩ := Prod.mk.inj (Option.some.inj step)
    obtain ⟨pending, same⟩ := after_callbacks_eq (afterCommand w.manager it) it
    rw [same]
    exact ⟨enabled.1, rfl, _, rfl⟩

theorem readings_order {clock : Instant} {it : Iteration}
    (order : (clock :: it.readings).Pairwise (· ≤ ·)) :
    clock ≤ it.finish ∧ ∀ c ∈ it.command, it.start ≤ c.1.now := by
  obtain ⟨first, order⟩ := List.pairwise_cons.mp order
  obtain ⟨second, -⟩ := List.pairwise_cons.mp order
  constructor
  · refine first it.finish (List.mem_cons_of_mem _ ?_)
    exact List.mem_append_right _ (List.mem_singleton.mpr rfl)
  · intro c hc
    refine second c.1.now ?_
    have given : it.command = some c := hc
    simp only [given, Option.map_some, Option.toList_some, List.cons_append]
    exact List.mem_cons_self

theorem command_effect {w : UsbWorkerThread} (hw : w.Inv) (it : Iteration) :
    (afterCommand w.manager it).RegistryInv ∧
      (afterCommand w.manager it).deviceIds = w.manager.deviceIds ∧
      ∀ j, Option.Rel (fun s s' => it.command.elim (s' = s) fun c =>
          DeviceManager.CommandEffect c.1 c.2 s s')
        (w.manager.accessTracker.getState j)
        ((afterCommand w.manager it).accessTracker.getState j) := by
  unfold afterCommand
  rcases it.command with _ | ⟨env, cmd⟩
  · refine ⟨hw.registry, rfl, fun j => ?_⟩
    cases w.manager.accessTracker.getState j with
    | none => exact .none
    | some s => exact .some rfl
  · exact ⟨hw.registry.update (w.manager.handle_command_update env cmd),
      w.manager.command_device_ids env cmd, hw.registry.command_states env cmd⟩

/-- Every lock free or held when the round ends is where it should be. -/
def WaitersServed (t : UsbWorkerThread) (it : Iteration) : Prop :=
  ∀ id s, t.manager.accessTracker.getState id = some s → s.Served it.start it.finish

/-- The condition on the round: on each device that stays plugged in. -/
def Prompt (w : UsbWorkerThread) (it : Iteration) : Prop :=
  ∀ id s, w.manager.accessTracker.getState id = some s →
    ¬ Unplugged w.manager it.fired id →
      ∀ h, s.Holds h → s.Prompt (it.command.map Prod.snd) it.start it.finish h

theorem Inv.round {w t : UsbWorkerThread} {it : Iteration} {out : List Empty} (hw : w.Inv)
    (step : rounds.step w it = some (t, out)) :
    (WaitersServed t it ↔ Prompt w it) ∧ (WaitersServed t it → t.Inv) := by
  obtain ⟨order, clock, pending, manager⟩ := round_step step
  obtain ⟨later, reads⟩ := readings_order order
  obtain ⟨registry, ids, effect⟩ := command_effect hw it
  have mid : DeviceManager.RegistryInv
      { afterCommand w.manager it with debounceState := pending } := { registry with }
  have stays : ∀ j, Unplugged { afterCommand w.manager it with debounceState := pending } it.fired
    j ↔
      Unplugged w.manager it.fired j := by
    intro j
    simp only [Unplugged, DeviceManager.Unplugs, ids]
  have old : ∀ j s', t.manager.accessTracker.getState j = some s' → DeviceManager.IsNew s' ∨
      ¬ Unplugged w.manager it.fired j ∧ ∃ s, w.manager.accessTracker.getState j = some s ∧
        it.command.elim (s' = s) fun c => DeviceManager.CommandEffect c.1 c.2 s s' := by
    intro j s' found
    rw [manager] at found
    rcases after_events_old mid found with isNew | ⟨before, plugged⟩
    · exact .inl isNew
    · refine .inr ⟨(not_congr (stays j)).mp plugged, ?_⟩
      have related := effect j
      have before : (afterCommand w.manager it).accessTracker.getState j = some s' := before
      rw [before] at related
      cases found : w.manager.accessTracker.getState j with
      | none => rw [found] at related; cases related
      | some s =>
          rw [found] at related
          cases related with
          | some both => exact ⟨s, rfl, both⟩
  refine ⟨⟨fun served id s found plugged => ?_, fun prompt id s' found => ?_⟩, fun served =>
    ⟨?_, ?_⟩⟩
  · have related := effect id
    rw [found] at related
    cases after : (afterCommand w.manager it).accessTracker.getState id with
    | none => rw [after] at related; cases related
    | some s' =>
        rw [after] at related
        cases related with
        | some both =>
            refine ((hw.settled id s found).served_iff_prompt both later reads).mp (served id s' ?_)
            rw [manager]
            exact after_events_kept mid after ((not_congr (stays id)).mpr plugged)
  · rcases old id s' found with isNew | ⟨plugged, s, before, both⟩
    · exact is_new_served isNew _ _
    · exact ((hw.settled id s before).served_iff_prompt both later reads).mpr
        (prompt id s before plugged)
  · rw [manager]
    exact after_events_update mid
  · intro id s' found
    rw [clock]
    rcases old id s' found with isNew | ⟨-, s, before, both⟩
    · exact is_new_settled isNew _
    · exact (hw.settled id s before).next both (served id s' found)

theorem waiters_served_iff_prompt (filters : List String) (config : SharingConfig)
    (devices : List RusbDevice) (clock : Instant) (its : List Iteration) :
    rounds.EveryStep (fun _ it t _ => WaitersServed t it) (new filters config devices clock) its ↔
      rounds.EveryStep (fun w it _ _ => Prompt w it) (new filters config devices clock) its := by
  refine Machine.everyStep_congr (I := Inv) ?_ ?_ (Inv.new filters config devices clock) its
  · exact fun w it t out hw step => (hw.round step).1
  · exact fun w it t out hw step prompt => (hw.round step).2 ((hw.round step).1.mpr prompt)

def exampleConfig (mode : SharingMode) : SharingConfig where
  defaultMode := mode
  defaultLockTimeoutSecs := 300
  defaultMaxClients := 4

/-- A round without hotplug that carries out one command. -/
def commandRound (now : Instant) (cmd : UsbCommand) : Iteration where
  start := now
  command := some (DeviceManager.exampleEnv now [], cmd)
  callbacks := []
  collect := now
  fired := []
  finish := now

/-- The holder unlocks and the queued client is not served. -/
theorem unlock_strands_waiter :
    ∃ (its : List Iteration) (w : UsbWorkerThread) (s : DeviceSharingState),
      rounds.run (new [] (exampleConfig .shared) [DeviceManager.exampleDevice 0 1 1] 0) its =
        some (w, []) ∧
      w.manager.accessTracker.getState ⟨1⟩ = some s ∧ s.exclusiveLockHolder = none ∧
      s.accessQueue.map QueueEntry.handle = [⟨2⟩] ∧ (⟨2⟩ : DeviceHandle) ∈ s.attachedClients ∧
      ¬ rounds.EveryStep (fun _ it t _ => WaitersServed t it)
        (new [] (exampleConfig .shared) [DeviceManager.exampleDevice 0 1 1] 0) its := by
  refine ⟨[commandRound 1 (.attachDevice ⟨1⟩ "a"), commandRound 2 (.attachDevice ⟨1⟩ "b"),
    commandRound 3 (.lockDevice ⟨1⟩ false), commandRound 4 (.lockDevice ⟨2⟩ false),
    commandRound 5 (.unlockDevice ⟨1⟩)], _, _, rfl, rfl, rfl, rfl, by decide, fun every => ?_⟩
  have last := ((((every _ _ rfl).2 _ _ rfl).2 _ _ rfl).2 _ _ rfl).2 _ _ rfl
  have live := (last.1 ⟨1⟩ _ rfl).free_lock rfl _ List.mem_cons_self (by decide)
  cases live

end UsbWorkerThread
end P2pUsb
