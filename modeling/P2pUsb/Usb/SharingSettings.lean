import P2pUsb.Usb.Worker

/-! The settings under which a device is shared. They are the configuration's of the
device manager when the device is registered, and nothing that is done to the device or
to its clients changes them. -/
namespace P2pUsb

structure SharingSetting where
  mode : SharingMode
  maxClients : Nat
  lockTimeout : Duration
  deriving DecidableEq, Repr

def SharingConfig.setting (config : SharingConfig) : SharingSetting where
  mode := config.defaultMode
  maxClients := config.defaultMaxClients
  lockTimeout := Duration.fromSecs config.defaultLockTimeoutSecs

namespace DeviceSharingState
variable {s t : DeviceSharingState}

def setting (s : DeviceSharingState) : SharingSetting where
  mode := s.mode
  maxClients := s.maxClients
  lockTimeout := s.lockTimeout

theorem Settle.setting (step : s.Settle t) : t.setting = s.setting := by
  cases step <;> rfl

theorem acquire_lock_setting (s : DeviceSharingState) (h : DeviceHandle) (w : Bool)
    (now : Instant) : (s.acquireLock h w now).2.setting = s.setting := by
  rcases acquire_lock_cases s h w now with ⟨joins, -⟩ | ⟨-, -, -, granted⟩ | ⟨-, -, -, granted⟩
  · exact joins.settle.setting
  · rw [granted]
    rfl
  · rw [granted]
    rfl

theorem detach_client_setting (s : DeviceSharingState) (h : DeviceHandle) :
    (s.detachClient h).2.setting = s.setting := by
  unfold detachClient
  split <;> rfl

end DeviceSharingState

/-- Every device of the tracker is shared under this setting. -/
def DeviceAccessTracker.Shares (t : DeviceAccessTracker) (setting : SharingSetting) : Prop :=
  ∀ id s, t.getState id = some s → s.setting = setting

theorem DeviceAccessTracker.Shares.modify {t : DeviceAccessTracker} {setting : SharingSetting}
    (ht : t.Shares setting) (id : DeviceId) {f : DeviceSharingState → DeviceSharingState}
    (keeps : ∀ s, t.getState id = some s → (f s).setting = s.setting) :
    (t.modifyState id f).Shares setting := by
  intro j s found
  rw [get_state_modify] at found
  split at found
  case isTrue =>
    obtain ⟨u, old, rfl⟩ := Option.map_eq_some_iff.mp found
    exact (keeps u old).trans (ht id u old)
  case isFalse => exact ht j s found

namespace DeviceManager
variable {m : DeviceManager} {config : SharingConfig}

/-- The manager is configured so, and shares every device accordingly. -/
structure SharedUnder (m : DeviceManager) (config : SharingConfig) : Prop where
  configured : m.sharingConfig = config
  shares : m.accessTracker.Shares config.setting

namespace SharedUnder

theorem new (filters : List String) (config : SharingConfig) :
    (withSharingConfig filters config).SharedUnder config :=
  ⟨rfl, fun _ _ wrong => nomatch wrong⟩

theorem add_device (hm : m.SharedUnder config) (device : RusbDevice) :
    (m.addDevice device).2.SharedUnder config := by
  rcases m.add_device_cases device with ⟨same, -⟩ | ⟨burnt, -⟩ | ⟨d, -, -, -, -, added⟩
  · rw [same]
    exact hm
  · rw [burnt]
    exact ⟨hm.configured, hm.shares⟩
  · rw [added]
    refine ⟨hm.configured, fun id s found => ?_⟩
    rcases AList.lookup_insert_eq_some.mp found with ⟨-, rfl⟩ | ⟨-, old⟩
    · rw [← hm.configured]
      rfl
    · exact hm.shares id s old

theorem enumerate_devices (hm : m.SharedUnder config) (devices : List RusbDevice) :
    (m.enumerateDevices devices).SharedUnder config := by
  induction devices generalizing m with
  | nil => exact hm
  | cons device rest ih => exact ih (hm.add_device device)

theorem remove_device (hm : m.SharedUnder config) (bus address : UInt8) :
    (m.removeDevice bus address).2.SharedUnder config := by
  unfold removeDevice
  dsimp only
  split
  · exact hm
  · exact ⟨hm.configured, fun id s found => hm.shares id s (AList.lookup_erase_eq_some.mp found).2⟩

theorem attach_device (hm : m.SharedUnder config) (env : UsbEnv) (id : DeviceId)
    (client : String) : (m.attachDevice env id client).2.SharedUnder config := by
  rcases m.attach_device_cases env id client with ⟨e, same⟩ | ⟨_, _, _, _, _, _, _, _, granted⟩
  · rw [same]
    exact hm
  · rw [granted]
    exact ⟨hm.configured, hm.shares.modify id fun s _ => rfl⟩

theorem detach_device (hm : m.SharedUnder config) (h : DeviceHandle) :
    (m.detachDevice h).2.SharedUnder config := by
  unfold detachDevice
  split
  · exact hm
  case h_2 id client held =>
    have shares := hm.shares.modify id fun s _ => s.detach_client_setting h
    dsimp only
    split
    · exact ⟨hm.configured, shares⟩
    · split <;> exact ⟨hm.configured, shares⟩

/-- A state that is read, changed and written back. -/
theorem write (hm : m.SharedUnder config) {id : DeviceId} {s t : DeviceSharingState}
    (found : m.accessTracker.getState id = some s) (same : t.setting = s.setting) :
    SharedUnder { m with accessTracker := m.accessTracker.modifyState id fun _ => t } config := by
  refine ⟨hm.configured, hm.shares.modify id fun u there => ?_⟩
  obtain rfl := Option.some.inj (found.symm.trans there)
  exact same

theorem acquire_lock (hm : m.SharedUnder config) (now : Instant) (h : DeviceHandle) (w : Bool) :
    (m.acquireLock now h w).2.SharedUnder config := by
  unfold acquireLock
  split
  · exact hm
  split
  · exact hm
  case h_2 state found => exact hm.write found (state.acquire_lock_setting h w now)

theorem release_lock (hm : m.SharedUnder config) (h : DeviceHandle) :
    (m.releaseLock h).2.SharedUnder config := by
  unfold releaseLock
  split
  · exact hm
  split
  · exact hm
  case h_2 state found => exact hm.write found (state.release_lock_settle h).setting

theorem handle_command (hm : m.SharedUnder config) (env : UsbEnv) (cmd : UsbCommand) :
    (m.handleCommandInner env cmd).2.SharedUnder config := by
  cases cmd with
  | attachDevice deviceId clientId => exact hm.attach_device env deviceId clientId
  | detachDevice handle => exact hm.detach_device handle
  | lockDevice handle w => exact hm.acquire_lock env.now handle w
  | unlockDevice handle => exact hm.release_lock handle
  | listDevices | submitTransfer | resetDevice | getSharingStatus => exact hm

theorem ready_event (hm : m.SharedUnder config) (env : UsbEnv) (event : DebouncedEvent) :
    (m.processReadyEvent env event).2.SharedUnder config := by
  unfold processReadyEvent
  split
  · rcases m.device_arrived_cases env event.bus event.address with same | ⟨device, added⟩
    · rw [same]
      exact hm
    · rw [added]
      exact hm.add_device device
  · have removed := hm.remove_device event.bus event.address
    unfold handleDeviceLeftInternal
    split
    case h_1 left => rwa [left] at removed
    case h_2 absent => rwa [absent] at removed

end SharedUnder
end DeviceManager
end P2pUsb
