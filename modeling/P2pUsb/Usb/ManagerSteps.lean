import P2pUsb.Usb.Manager
import P2pUsb.Usb.SharingLocks

/-! What each operation of the device manager can do: one relation, `Update`,
and for every operation the cases in which it does what. -/
namespace P2pUsb

/-- Room for one more is room for the new client. -/
theorem DeviceSharingState.attach_client_size {s : DeviceSharingState} {h : DeviceHandle}
    (room : s.canAttach = true) (newcomer : h ∉ s.attachedClients) (client : String)
    (now : Instant) : (s.attachClient client h now).attachedClients.size ≤
      if s.mode = .exclusive then 1 else s.maxClients := by
  simp only [attachClient, AList.size_insert_of_notMem newcomer]
  unfold canAttach at room
  cases hm : s.mode with
  | exclusive =>
      rw [hm] at room
      rw [beq_iff_eq.mp room, if_pos rfl]
  | shared | readOnly =>
      rw [hm] at room
      rw [if_neg SharingMode.noConfusion]
      exact of_decide_eq_true room

theorem DeviceSharingState.mem_detach_client {s : DeviceSharingState} {h j : DeviceHandle} :
    j ∈ (s.detachClient h).2.attachedClients ↔ j ≠ h ∧ j ∈ s.attachedClients := by
  unfold detachClient
  cases hl : s.attachedClients.lookup h with
  | none =>
      refine ⟨fun present => ⟨?_, present⟩, And.right⟩
      rintro rfl
      exact AList.lookup_eq_none.mp hl present
  | some client => exact AList.mem_erase

/-- A detach keeps the configuration and only shrinks the set of clients. -/
theorem DeviceSharingState.detach_client_frame (s : DeviceSharingState) (h : DeviceHandle) :
    (s.detachClient h).2.mode = s.mode ∧ (s.detachClient h).2.maxClients = s.maxClients ∧
      (s.detachClient h).2.attachedClients.size ≤ s.attachedClients.size := by
  unfold detachClient
  cases s.attachedClients.lookup h with
  | none => exact ⟨rfl, rfl, le_refl _⟩
  | some client => exact ⟨rfl, rfl, AList.size_erase_le _ _⟩

/-- The same devices with the same clients, whatever became of their locks. -/
def DeviceAccessTracker.SameClients (t t' : DeviceAccessTracker) : Prop :=
  ∀ id, Option.Rel DeviceSharingState.SameClients (t.getState id) (t'.getState id)

namespace DeviceAccessTracker

theorem get_state_modify (t : DeviceAccessTracker) (id : DeviceId)
    (f : DeviceSharingState → DeviceSharingState) (j : DeviceId) :
    (t.modifyState id f).getState j =
      if j = id then (t.getState id).map f else t.getState j :=
  AList.lookup_modify_eq _ _ _ _

/-- To write a state back is to change it in place. -/
theorem get_state_write {t : DeviceAccessTracker} {id : DeviceId} {s : DeviceSharingState}
    (found : t.getState id = some s) (f : DeviceSharingState → DeviceSharingState)
    (j : DeviceId) :
    (t.modifyState id fun _ => f s).getState j = (t.modifyState id f).getState j := by
  rw [get_state_modify, get_state_modify, found, Option.map_some, Option.map_some]

theorem SameClients.modify {t : DeviceAccessTracker} {id : DeviceId} {s s' : DeviceSharingState}
    (found : t.getState id = some s) (same : s.SameClients s') :
    t.SameClients (t.modifyState id fun _ => s') := by
  intro j
  rw [get_state_modify]
  by_cases hj : j = id
  · rw [if_pos hj, hj, found]
    exact .some same
  · rw [if_neg hj]
    cases t.getState j with
    | none => exact .none
    | some u => exact .some (.refl u)

theorem process_timeouts_same (s : DeviceSharingState) (now : Instant) :
    s.SameClients (s.processTimeouts now).2 := by
  obtain ⟨u, first, second⟩ := s.process_timeouts_settle now
  exact (DeviceSharingState.SameClients.settle first).trans (.settle second)

theorem SameClients.process_all (t : DeviceAccessTracker) (now : Instant) :
    t.SameClients (t.processAll now).2 := by
  intro id
  simp only [getState, processAll, AList.lookup_mapVal]
  cases t.devices.lookup id with
  | none => exact .none
  | some s => exact .some (process_timeouts_same s now)

theorem SameClients.some_left {t t' : DeviceAccessTracker} (same : t.SameClients t')
    {id : DeviceId} {s' : DeviceSharingState} (h : t'.getState id = some s') :
    ∃ s, t.getState id = some s ∧ s.SameClients s' := by
  have related := same id
  rw [h] at related
  cases hs : t.getState id with
  | none => rw [hs] at related; cases related
  | some s =>
      rw [hs] at related
      cases related with
      | some both => exact ⟨s, rfl, both⟩

theorem SameClients.some_right {t t' : DeviceAccessTracker} (same : t.SameClients t')
    {id : DeviceId} {s : DeviceSharingState} (h : t.getState id = some s) :
    ∃ s', t'.getState id = some s' ∧ s.SameClients s' := by
  have related := same id
  rw [h] at related
  cases hs : t'.getState id with
  | none => rw [hs] at related; cases related
  | some s' =>
      rw [hs] at related
      cases related with
      | some both => exact ⟨s', rfl, both⟩

end DeviceAccessTracker

namespace DeviceManager

/-- The new attachment of an open device. -/
def grant (m : DeviceManager) (key : BusAddress) (device : UsbDevice) (deviceId : DeviceId)
    (clientId : String) (now : Instant) : DeviceManager :=
  { m with
    devices := m.devices.modify key fun _ => device
    nextHandleId := m.nextHandleId + 1
    accessTracker := m.accessTracker.modifyState deviceId fun state =>
      state.attachClient clientId ⟨m.nextHandleId⟩ now
    attached := m.attached.insert ⟨m.nextHandleId⟩ (deviceId, clientId) }

/-- A newly discovered device. -/
def track (m : DeviceManager) (key : BusAddress) (device : UsbDevice) : DeviceManager :=
  { m with
    nextDeviceId := m.nextDeviceId + 1
    deviceIds := m.deviceIds.insert device.id key
    devices := m.devices.insert key device
    accessTracker := m.accessTracker.registerDevice device.id
      m.sharingConfig.defaultMode m.sharingConfig.defaultMaxClients
      (Duration.fromSecs m.sharingConfig.defaultLockTimeoutSecs) }

/-- Everything an operation can do to the registry. -/
inductive Update (m : DeviceManager) : DeviceManager → Prop
  | refl : Update m m
  | burn : Update m { m with nextDeviceId := m.nextDeviceId + 1 }
  | track (key : BusAddress) (device : UsbDevice) (free : m.devices.lookup key = none)
      (id : device.id = ⟨m.nextDeviceId⟩) (closed : device.handle = none)
      (address : (device.busNumber, device.deviceAddress) = key) :
      Update m (m.track key device)
  | remove (bus address : UInt8) (device : UsbDevice)
      (tracked : m.devices.lookup (bus, address) = some device) :
      Update m (m.removeDevice bus address).2
  | grant (key : BusAddress) (device opened : UsbDevice) (deviceId : DeviceId) (clientId : String)
      (now : Instant) (registered : m.deviceIds.lookup deviceId = some key)
      (allowed : m.accessTracker.canAttach deviceId = true)
      (tracked : m.devices.lookup key = some device) (same : device.SameDevice opened)
      (isOpen : opened.handle.isSome) : Update m (m.grant key opened deviceId clientId now)
  | detach (handle : DeviceHandle) (deviceId : DeviceId) (clientId : String)
      (held : m.attached.lookup handle = some (deviceId, clientId)) :
      Update m (m.detachDevice handle).2
  | locks (tracker : DeviceAccessTracker) (same : m.accessTracker.SameClients tracker) :
      Update m { m with accessTracker := tracker }
  | debounce (pending : AList fun _ : BusAddress => DebouncedEvent) :
      Update m { m with debounceState := pending }

variable {m : DeviceManager}

theorem add_device_cases (m : DeviceManager) (device : RusbDevice) :
    (m.addDevice device).2 = m ∧ (∀ id, (m.addDevice device).1 = .ok id →
        ∃ key d, m.devices.lookup key = some d ∧ d.id = id) ∨
      (m.addDevice device).2 = { m with nextDeviceId := m.nextDeviceId + 1 } ∧
        (∃ e, (m.addDevice device).1 = .error e) ∨
      ∃ d : UsbDevice, m.devices.lookup (device.busNumber, device.address) = none ∧
        d.device = device ∧ d.id = ⟨m.nextDeviceId⟩ ∧ d.handle = none ∧
        m.addDevice device = (.ok ⟨m.nextDeviceId⟩,
          m.track (device.busNumber, device.address) d) := by
  unfold addDevice
  by_cases allowed : m.isDeviceAllowed device = true
  case neg =>
    simp only [allowed, Bool.not_false, if_true]
    exact .inl ⟨trivial, fun id wrong => nomatch wrong⟩
  simp only [allowed, Bool.not_true, Bool.false_eq_true, if_false]
  cases tracked : m.devices.lookup (device.busNumber, device.address) with
  | some existing =>
      refine .inl ⟨rfl, fun id same => ⟨_, existing, tracked, ?_⟩⟩
      exact Except.ok.inj same
  | none =>
      by_cases hub : isRootHub device = true
      · simp only [hub, if_true]
        exact .inl ⟨trivial, fun id wrong => nomatch wrong⟩
      simp only [hub, Bool.false_eq_true, if_false]
      cases made : UsbDevice.new device ⟨m.nextDeviceId⟩ with
      | error e => exact .inr (.inl ⟨rfl, e, rfl⟩)
      | ok d =>
          obtain ⟨ofDevice, id, closed⟩ := UsbDevice.new_spec made
          refine .inr (.inr ⟨d, trivial, ofDevice, id, closed, ?_⟩)
          simp only [DeviceManager.track, id]

theorem add_device_update (m : DeviceManager) (device : RusbDevice) :
    m.Update (m.addDevice device).2 := by
  rcases m.add_device_cases device with ⟨same, -⟩ | ⟨burnt, -⟩ | ⟨d, free, rfl, id, closed, added⟩
  · rw [same]
    exact .refl
  · rw [burnt]
    exact .burn
  · rw [added]
    exact .track _ d free id closed rfl

theorem remove_device_update (m : DeviceManager) (bus address : UInt8) :
    m.Update (m.removeDevice bus address).2 := by
  cases tracked : m.devices.lookup (bus, address) with
  | some device => exact .remove bus address device tracked
  | none =>
      have same : (m.removeDevice bus address).2 = m := by simp only [removeDevice, tracked]
      rw [same]
      exact .refl

theorem attach_device_cases (m : DeviceManager) (env : UsbEnv) (id : DeviceId) (client : String) :
    (∃ e, m.attachDevice env id client = (.error e, m)) ∨
      ∃ key device opened, m.deviceIds.lookup id = some key ∧
        m.accessTracker.canAttach id = true ∧ m.devices.lookup key = some device ∧
        device.SameDevice opened ∧ opened.handle.isSome ∧
        m.attachDevice env id client =
          (.ok ⟨m.nextHandleId⟩, m.grant key opened id client env.now) := by
  unfold attachDevice
  cases registered : m.deviceIds.lookup id with
  | none => exact .inl ⟨_, rfl⟩
  | some key =>
      dsimp only
      by_cases allowed : m.accessTracker.canAttach id = true
      case neg =>
        simp only [allowed, Bool.not_false, if_true]
        exact .inl ⟨_, rfl⟩
      simp only [allowed, Bool.not_true, Bool.false_eq_true, if_false]
      split
      · exact .inl ⟨_, rfl⟩
      cases tracked : m.devices.lookup key with
      | none => exact .inl ⟨_, rfl⟩
      | some device =>
          dsimp only
          cases isOpen : device.open' env with
          | error e => exact .inl ⟨e, rfl⟩
          | ok opened =>
              obtain ⟨same, handle⟩ := UsbDevice.open_spec isOpen
              exact .inr ⟨key, device, opened, rfl, trivial, tracked, same, handle, rfl⟩

theorem attach_device_error {env : UsbEnv} {id : DeviceId} {client : String} {e : AttachError}
    (failed : (m.attachDevice env id client).1 = .error e) :
    (m.attachDevice env id client).2 = m := by
  rcases m.attach_device_cases env id client with ⟨e', same⟩ | ⟨_, _, _, _, _, _, _, _, granted⟩
  · rw [same]
  · rw [granted] at failed
    cases failed

theorem attach_device_update (m : DeviceManager) (env : UsbEnv) (id : DeviceId) (client : String) :
    m.Update (m.attachDevice env id client).2 := by
  rcases m.attach_device_cases env id client with ⟨e, same⟩ |
    ⟨key, device, opened, registered, allowed, tracked, same, isOpen, granted⟩
  · rw [same]
    exact .refl
  · rw [granted]
    exact .grant key device opened id client env.now registered allowed tracked same isOpen

theorem detach_device_cases (m : DeviceManager) (h : DeviceHandle) :
    (m.attached.lookup h = none ∧ m.detachDevice h = (.error .handleNotFound, m)) ∨
      ∃ id client, m.attached.lookup h = some (id, client) ∧ (m.detachDevice h).1 = .ok () := by
  unfold detachDevice
  cases held : m.attached.lookup h with
  | none => exact .inl ⟨rfl, rfl⟩
  | some entry =>
      refine .inr ⟨entry.1, entry.2, rfl, ?_⟩
      dsimp only
      split
      · rfl
      · split <;> rfl

theorem detach_device_update (m : DeviceManager) (h : DeviceHandle) :
    m.Update (m.detachDevice h).2 := by
  rcases m.detach_device_cases h with ⟨-, same⟩ | ⟨id, client, held, -⟩
  · rw [same]
    exact .refl
  · exact .detach h id client held

theorem acquire_lock_update (m : DeviceManager) (now : Instant) (h : DeviceHandle) (w : Bool) :
    m.Update (m.acquireLock now h w).2 := by
  unfold acquireLock
  split
  · exact .refl
  split
  · exact .refl
  case h_2 state found =>
  exact .locks _ (.modify found (state.acquire_lock_same_clients h w now))

theorem release_lock_update (m : DeviceManager) (h : DeviceHandle) :
    m.Update (m.releaseLock h).2 := by
  unfold releaseLock
  split
  · exact .refl
  split
  · exact .refl
  case h_2 state found => exact .locks _ (.modify found (.settle (state.release_lock_settle h)))

theorem process_device_queue_update (m : DeviceManager) (now : Instant) (id : DeviceId) :
    m.Update (m.processDeviceQueue now id).2 := by
  unfold processDeviceQueue
  split
  · exact .refl
  case h_2 state found => exact .locks _ (.modify found (.settle (state.process_queue_settle now)))

theorem process_all_queues_update (m : DeviceManager) (now : Instant) :
    m.Update (m.processAllQueues now).2 :=
  .locks _ (.process_all m.accessTracker now)

/-- A detach of a held handle, with the address of its device at hand. -/
theorem detach_device_eq {h : DeviceHandle} {id : DeviceId} {client : String} {key : BusAddress}
    (held : m.attached.lookup h = some (id, client))
      (registered : m.deviceIds.lookup id = some key) :
    (m.detachDevice h).2 = { m with
      attached := m.attached.erase h
      accessTracker := m.accessTracker.modifyState id fun state => (state.detachClient h).2
      devices := if (m.attached.erase h).entries.any (fun e => e.2.1 == id) then m.devices
        else m.devices.modify key UsbDevice.close } := by
  unfold detachDevice
  simp only [held, registered]
  split <;> rfl

theorem Update.counters {m' : DeviceManager} (step : m.Update m') :
    m.nextDeviceId ≤ m'.nextDeviceId ∧ m.nextHandleId ≤ m'.nextHandleId := by
  cases step with
  | refl | locks | debounce => exact ⟨le_refl _, le_refl _⟩
  | burn | track => exact ⟨Nat.le_succ _, le_refl _⟩
  | grant => exact ⟨le_refl _, Nat.le_succ _⟩
  | remove bus address device tracked =>
      simp only [removeDevice, tracked]
      exact ⟨le_refl _, le_refl _⟩
  | detach h id client held =>
      simp only [detachDevice, held]
      split
      · exact ⟨le_refl _, le_refl _⟩
      · split <;> exact ⟨le_refl _, le_refl _⟩

/-- A device found after a step was there before, or its identifier is new. -/
theorem Update.device_origin {m' : DeviceManager} (step : m.Update m') {key : BusAddress}
    {d : UsbDevice} (found : m'.devices.lookup key = some d) :
    (∃ d₀, m.devices.lookup key = some d₀ ∧ d₀.SameDevice d) ∨ d.id = ⟨m.nextDeviceId⟩ := by
  have kept : m.devices.lookup key = some d →
      ∃ d₀, m.devices.lookup key = some d₀ ∧ d₀.SameDevice d := fun there => ⟨d, there, .refl d⟩
  cases step with
  | refl | burn | locks | debounce => exact .inl (kept found)
  | track key' device free id closed address =>
      simp only [DeviceManager.track, AList.lookup_insert_eq] at found
      split at found
      · obtain rfl := Option.some.inj found
        exact .inr id
      · exact .inl (kept found)
  | remove bus address device tracked =>
      simp only [removeDevice, tracked, AList.lookup_erase_eq_some] at found
      exact .inl (kept found.2)
  | grant key' device opened id client now registered allowed tracked same isOpen =>
      simp only [DeviceManager.grant, AList.lookup_modify_eq] at found
      split at found
      case isTrue hk =>
        rw [tracked] at found
        obtain rfl := Option.some.inj found
        exact .inl ⟨device, hk ▸ tracked, same⟩
      case isFalse => exact .inl (kept found)
  | detach h id client held =>
      simp only [detachDevice, held] at found
      split at found
      · exact .inl (kept found)
      split at found
      · exact .inl (kept found)
      rw [AList.lookup_modify_eq] at found
      split at found
      case isTrue hk =>
        obtain ⟨d₀, there, rfl⟩ := Option.map_eq_some_iff.mp found
        exact .inl ⟨d₀, hk ▸ there, d₀.close_same⟩
      case isFalse => exact .inl (kept found)

/-- An attachment found after a step was there before, or its handle is new. -/
theorem Update.attached_origin {m' : DeviceManager} (step : m.Update m') {h : DeviceHandle}
    {entry : DeviceId × String} (held : m'.attached.lookup h = some entry) :
    m.attached.lookup h = some entry ∨ h = ⟨m.nextHandleId⟩ := by
  cases step with
  | refl | burn | track | locks | debounce => exact .inl held
  | remove bus address device tracked =>
      simp only [removeDevice, tracked, AList.lookup_retain, Option.filter_eq_some_iff] at held
      exact .inl held.1
  | grant key device opened id client now registered allowed tracked same isOpen =>
      simp only [DeviceManager.grant, AList.lookup_insert_eq] at held
      split at held
      case isTrue hh => exact .inr hh
      case isFalse => exact .inl held
  | detach j id client there =>
      have erased : ∀ {e}, (m.attached.erase j).lookup h = some e →
          m.attached.lookup h = some e :=
        fun found => (AList.lookup_erase_eq_some.mp found).2
      simp only [detachDevice, there] at held
      split at held
      · exact .inl (erased held)
      · split at held <;> exact .inl (erased held)

end DeviceManager
end P2pUsb
