import P2pUsb.Usb.Registry

/-! The USB worker thread: how it answers a command, and one round of its loop.
The `Shutdown` command, which only ends the loop, is left out, and so are
panics, which `handle_command` catches. -/
namespace P2pUsb

inductive UsbCommand where
  | listDevices
  | attachDevice (deviceId : DeviceId) (clientId : String)
  | detachDevice (handle : DeviceHandle)
  | submitTransfer (handle : DeviceHandle) (request : UsbRequest)
  | resetDevice (handle : DeviceHandle)
  | getSharingStatus (deviceId : DeviceId) (handle : Option DeviceHandle)
  | lockDevice (handle : DeviceHandle) (writeAccess : Bool)
  | unlockDevice (handle : DeviceHandle)
  deriving DecidableEq, Repr

/-- What is sent on the one-shot channel of a command. -/
inductive UsbReply where
  | devices (devices : List DeviceInfo)
  | attached (result : Except AttachError DeviceHandle)
  | detached (result : Except DetachError Unit)
  | transferred (response : UsbResponse)
  | reset (result : Except UsbError Unit)
  | sharingStatus (result : Except AttachError DeviceSharingStatus)
  | locked (result : LockResult)
  | unlocked (result : UnlockResult)

namespace DeviceManager

/-- The device that a transfer or a reset on this handle reaches: it must be open. -/
def openDevice (m : DeviceManager) (handle : DeviceHandle) : Option UsbDevice :=
  (m.getDeviceByHandle handle).filter fun device => device.handle.isSome

def transferTarget (m : DeviceManager) (handle : DeviceHandle) : Option RusbDeviceHandle :=
  (m.openDevice handle).bind UsbDevice.handle

def submitTransfer (m : DeviceManager) (env : UsbEnv) (handle : DeviceHandle)
    (request : UsbRequest) : UsbResponse where
  id := request.id
  result := match m.transferTarget handle with
    | some deviceHandle => env.executeTransfer deviceHandle.device request.transfer
    | none => .error .notFound

def handleCommandInner (m : DeviceManager) (env : UsbEnv) : UsbCommand → UsbReply × DeviceManager
  | .listDevices => (.devices (m.listDevices env), m)
  | .attachDevice deviceId clientId => (m.attachDevice env deviceId clientId).map .attached id
  | .detachDevice handle => (m.detachDevice handle).map .detached id
  | .submitTransfer handle request => (.transferred (m.submitTransfer env handle request), m)
  | .resetDevice handle =>
      (.reset (match m.transferTarget handle with
        | some deviceHandle => env.resetDevice deviceHandle.device
        | none => .error .notFound), m)
  | .getSharingStatus deviceId handle => (.sharingStatus (m.getSharingStatus deviceId handle), m)
  | .lockDevice handle writeAccess => (m.acquireLock env.now handle writeAccess).map .locked id
  | .unlockDevice handle => (m.releaseLock handle).map .unlocked id

variable {m : DeviceManager}

theorem open_device_some {handle : DeviceHandle} {device : UsbDevice} :
    m.openDevice handle = some device ↔
      m.getDeviceByHandle handle = some device ∧ device.handle.isSome = true :=
  Option.filter_eq_some_iff

theorem open_device_none {handle : DeviceHandle} (free : m.getDeviceByHandle handle = none) :
    m.openDevice handle = none := by
  rw [openDevice, free, Option.filter_none]

theorem handle_command_update (m : DeviceManager) (env : UsbEnv) (cmd : UsbCommand) :
    m.Update (m.handleCommandInner env cmd).2 := by
  cases cmd with
  | attachDevice deviceId clientId => exact m.attach_device_update env deviceId clientId
  | detachDevice handle => exact m.detach_device_update handle
  | lockDevice handle w => exact m.acquire_lock_update env.now handle w
  | unlockDevice handle => exact m.release_lock_update handle
  | listDevices | submitTransfer | resetDevice | getSharingStatus => exact .refl

theorem device_left_update (m : DeviceManager) (bus address : UInt8) :
    m.Update (m.handleDeviceLeftInternal bus address).2 := by
  have update := m.remove_device_update bus address
  unfold handleDeviceLeftInternal
  split
  case h_1 removed => rwa [removed] at update
  case h_2 absent => rwa [absent] at update

theorem device_arrived_cases (m : DeviceManager) (env : UsbEnv) (bus address : UInt8) :
    (m.handleDeviceArrivedInternal env bus address).2 = m ∨ ∃ device,
      (m.handleDeviceArrivedInternal env bus address).2 = (m.addDevice device).2 := by
  unfold handleDeviceArrivedInternal
  split
  · exact .inl rfl
  split
  · exact .inl rfl
  case h_2 device _ =>
    refine .inr ⟨device, ?_⟩
    split <;> rename_i added <;> rw [added]

theorem device_arrived_update (m : DeviceManager) (env : UsbEnv) (bus address : UInt8) :
    m.Update (m.handleDeviceArrivedInternal env bus address).2 := by
  rcases m.device_arrived_cases env bus address with same | ⟨device, added⟩
  · rw [same]
    exact .refl
  · rw [added]
    exact m.add_device_update device

theorem process_ready_event_update (m : DeviceManager) (env : UsbEnv) (event : DebouncedEvent) :
    m.Update (m.processReadyEvent env event).2 := by
  unfold processReadyEvent
  split
  · exact m.device_arrived_update env _ _
  · exact m.device_left_update _ _

namespace RegistryInv
variable {f : DeviceSharingState → DeviceSharingState} {h : DeviceHandle}

theorem lock_target (hm : m.RegistryInv) (h : DeviceHandle) :
    m.lockTarget h = (m.attached.lookup h).map Prod.fst := by
  unfold lockTarget DeviceAccessTracker.getDeviceForHandle
  cases found : m.accessTracker.devices.entries.find?
      (fun e => decide (h ∈ e.2.attachedClients)) with
  | none => rfl
  | some entry =>
      have matched := List.find?_some found
      have present : h ∈ entry.2.attachedClients := of_decide_eq_true matched
      have registered := AList.lookup_eq_some.mpr (List.mem_of_find?_eq_some found)
      obtain ⟨client, held⟩ := hm.state_attached entry.1 entry.2 h registered present
      rw [held]
      rfl

/-- A change that only concerns clients is the same at the owner of the handle
and everywhere. -/
theorem map_owner (hm : m.RegistryInv) (idle : ∀ s, h ∉ s.attachedClients → f s = s)
    {id : DeviceId} {client : String} (held : m.attached.lookup h = some (id, client))
    (j : DeviceId) : (m.accessTracker.modifyState id f).getState j =
      (m.accessTracker.getState j).map f := by
  rw [DeviceAccessTracker.get_state_modify]
  split
  case isTrue hj => rw [hj]
  case isFalse hj =>
    cases found : m.accessTracker.getState j with
    | none => rfl
    | some s =>
        rw [Option.map_some, idle s]
        intro present
        obtain ⟨c, held'⟩ := hm.state_attached j s h found present
        rw [held] at held'
        exact hj (Prod.mk.inj (Option.some.inj held')).1.symm

theorem map_unheld (hm : m.RegistryInv) (idle : ∀ s, h ∉ s.attachedClients → f s = s)
    (free : m.attached.lookup h = none) (j : DeviceId) :
    m.accessTracker.getState j = (m.accessTracker.getState j).map f := by
  cases found : m.accessTracker.getState j with
  | none => rfl
  | some s =>
      rw [Option.map_some, idle s]
      intro present
      obtain ⟨c, held⟩ := hm.state_attached j s h found present
      rw [free] at held
      cases held

theorem acquire_lock_states (hm : m.RegistryInv) (now : Instant) (h : DeviceHandle) (w : Bool)
    (j : DeviceId) : (m.acquireLock now h w).2.accessTracker.getState j =
      (m.accessTracker.getState j).map fun s => (s.acquireLock h w now).2 := by
  have idle : ∀ s : DeviceSharingState, h ∉ s.attachedClients →
      (s.acquireLock h w now).2 = s := by
    intro s absent
    simp only [DeviceSharingState.acquireLock, AList.lookup_eq_none.mpr absent]
  unfold acquireLock
  rw [hm.lock_target]
  cases held : m.attached.lookup h with
  | none => exact hm.map_unheld idle held j
  | some entry =>
      obtain ⟨s, found, -⟩ := hm.attached_state h entry.1 entry.2 held
      simp only [Option.map_some, found]
      rw [← hm.map_owner idle held j]
      exact DeviceAccessTracker.get_state_write found (fun s => (s.acquireLock h w now).2) j

theorem release_lock_states (hm : m.RegistryInv) (h : DeviceHandle) (j : DeviceId) :
    (m.releaseLock h).2.accessTracker.getState j =
      (m.accessTracker.getState j).map fun s => (s.releaseLock h).2 := by
  have idle : ∀ s : DeviceSharingState, h ∉ s.attachedClients → (s.releaseLock h).2 = s := by
    intro s absent
    simp only [DeviceSharingState.releaseLock, if_pos absent]
  unfold releaseLock
  rw [hm.lock_target]
  cases held : m.attached.lookup h with
  | none => exact hm.map_unheld idle held j
  | some entry =>
      obtain ⟨s, found, -⟩ := hm.attached_state h entry.1 entry.2 held
      simp only [Option.map_some, found]
      rw [← hm.map_owner idle held j]
      exact DeviceAccessTracker.get_state_write found (fun s => (s.releaseLock h).2) j

theorem detach_device_states (hm : m.RegistryInv) (h : DeviceHandle) (j : DeviceId) :
    (m.detachDevice h).2.accessTracker.getState j =
      (m.accessTracker.getState j).map fun s => (s.detachClient h).2 := by
  have idle : ∀ s : DeviceSharingState, h ∉ s.attachedClients → (s.detachClient h).2 = s := by
    intro s absent
    simp only [DeviceSharingState.detachClient, AList.lookup_eq_none.mpr absent]
  rcases m.detach_device_cases h with ⟨free, same⟩ | ⟨id, client, held, -⟩
  · rw [same]
    exact hm.map_unheld idle free j
  · obtain ⟨key, registered⟩ := AList.mem_iff.mp (hm.attached_registered held)
    rw [detach_device_eq held registered]
    exact hm.map_owner idle held j

end RegistryInv

/-- What a command can do to the sharing state of one device. -/
def CommandEffect (env : UsbEnv) (cmd : UsbCommand) (s s' : DeviceSharingState) : Prop :=
  match cmd with
  | .attachDevice _ clientId => s' = s ∨
      ∃ handle, handle ∉ s.attachedClients ∧ s' = s.attachClient clientId handle env.now
  | .detachDevice handle => s' = (s.detachClient handle).2
  | .lockDevice handle writeAccess => s' = (s.acquireLock handle writeAccess env.now).2
  | .unlockDevice handle => s' = (s.releaseLock handle).2
  | _ => s' = s

theorem RegistryInv.command_states (hm : m.RegistryInv) (env : UsbEnv) (cmd : UsbCommand)
    (j : DeviceId) : Option.Rel (CommandEffect env cmd) (m.accessTracker.getState j)
      ((m.handleCommandInner env cmd).2.accessTracker.getState j) := by
  have mapped : ∀ {f : DeviceSharingState → DeviceSharingState} {o : Option DeviceSharingState},
      (∀ s, CommandEffect env cmd s (f s)) → Option.Rel (CommandEffect env cmd) o (o.map f) := by
    intro f o each
    cases o with
    | none => exact .none
    | some s => exact .some (each s)
  have same : (∀ s, CommandEffect env cmd s s) → ∀ o, Option.Rel (CommandEffect env cmd) o o := by
    intro each o
    cases o with
    | none => exact .none
    | some s => exact .some (each s)
  cases cmd with
  | listDevices | submitTransfer | resetDevice | getSharingStatus => exact same (fun _ => rfl) _
  | detachDevice h =>
      have states := hm.detach_device_states h j
      simp only [handleCommandInner, Prod.map_snd, id_eq, states]
      exact mapped fun _ => rfl
  | lockDevice h w =>
      have states := hm.acquire_lock_states env.now h w j
      simp only [handleCommandInner, Prod.map_snd, id_eq, states]
      exact mapped fun _ => rfl
  | unlockDevice h =>
      have states := hm.release_lock_states h j
      simp only [handleCommandInner, Prod.map_snd, id_eq, states]
      exact mapped fun _ => rfl
  | attachDevice id client =>
      simp only [handleCommandInner, Prod.map_snd, id_eq]
      rcases m.attach_device_cases env id client with ⟨e, failed⟩ |
        ⟨_, _, _, _, _, _, _, _, granted⟩
      · rw [failed]
        exact same (fun _ => .inl rfl) _
      · rw [granted]
        have read : (m.accessTracker.modifyState id fun s =>
              s.attachClient client ⟨m.nextHandleId⟩ env.now).getState j =
            if j = id then (m.accessTracker.getState id).map fun s =>
              s.attachClient client ⟨m.nextHandleId⟩ env.now
            else m.accessTracker.getState j := AList.lookup_modify_eq _ _ _ _
        simp only [DeviceManager.grant, read]
        split
        case isFalse => exact same (fun _ => .inl rfl) _
        case isTrue hj =>
          rw [hj]
          cases found : m.accessTracker.getState id with
          | none => exact .none
          | some s =>
              refine .some (.inr ⟨⟨m.nextHandleId⟩, ?_, rfl⟩)
              intro present
              obtain ⟨c, held⟩ := hm.state_attached id s _ found present
              exact hm.next_handle_free (AList.mem_of_lookup held)

/-- A command registers no device and schedules no event. -/
theorem command_frame (m : DeviceManager) (env : UsbEnv) (cmd : UsbCommand) :
    (m.handleCommandInner env cmd).2.deviceIds = m.deviceIds ∧
      (m.handleCommandInner env cmd).2.debounceState = m.debounceState := by
  cases cmd with
  | listDevices | submitTransfer | resetDevice | getSharingStatus => exact ⟨rfl, rfl⟩
  | attachDevice id client =>
      simp only [handleCommandInner, Prod.map_snd, id_eq]
      rcases m.attach_device_cases env id client with ⟨e, failed⟩ |
        ⟨_, _, _, _, _, _, _, _, granted⟩
      · rw [failed]
        exact ⟨rfl, rfl⟩
      · rw [granted]
        exact ⟨rfl, rfl⟩
  | detachDevice h =>
      simp only [handleCommandInner, Prod.map_snd, id_eq, detachDevice]
      split
      · exact ⟨rfl, rfl⟩
      split
      · exact ⟨rfl, rfl⟩
      · split <;> exact ⟨rfl, rfl⟩
  | lockDevice h w =>
      simp only [handleCommandInner, Prod.map_snd, id_eq, acquireLock]
      split
      · exact ⟨rfl, rfl⟩
      · split <;> exact ⟨rfl, rfl⟩
  | unlockDevice h =>
      simp only [handleCommandInner, Prod.map_snd, id_eq, releaseLock]
      split
      · exact ⟨rfl, rfl⟩
      · split <;> exact ⟨rfl, rfl⟩

theorem command_device_ids (m : DeviceManager) (env : UsbEnv) (cmd : UsbCommand) :
    (m.handleCommandInner env cmd).2.deviceIds = m.deviceIds :=
  (m.command_frame env cmd).1

end DeviceManager

/-- A hotplug callback of libusb, run by `handle_events` on the worker's thread. -/
structure HotplugCallback where
  now : Instant
  bus : UInt8
  address : UInt8
  eventType : PendingHotplugEvent

/-- What one round of the loop meets: a command if one is waiting, the hotplug
callbacks, and the debounced events that fire, in the order of the hash map. -/
structure Iteration where
  start : Instant
  command : Option (UsbEnv × UsbCommand)
  callbacks : List HotplugCallback
  collect : Instant
  fired : List (UsbEnv × DebouncedEvent)
  finish : Instant

/-- All clock readings of the round in their order. -/
def Iteration.readings (it : Iteration) : List Instant :=
  it.start :: ((it.command.map fun c => c.1.now).toList ++ it.callbacks.map HotplugCallback.now ++
    it.collect :: (it.fired.map fun f => f.1.now) ++ [it.finish])

structure UsbWorkerThread where
  manager : DeviceManager
  clock : Instant

namespace UsbWorkerThread

/-- `UsbWorkerThread::new` under some sharing configuration. -/
def new (filters : List String) (config : SharingConfig) (devices : List RusbDevice)
    (clock : Instant) : UsbWorkerThread where
  manager := (DeviceManager.withSharingConfig filters config).enumerateDevices devices
  clock := clock

def afterCommand (m : DeviceManager) (it : Iteration) : DeviceManager :=
  match it.command with
  | some (env, cmd) => (m.handleCommandInner env cmd).2
  | none => m

def afterCallbacks (m : DeviceManager) (it : Iteration) : DeviceManager :=
  it.callbacks.foldl (fun m c => m.scheduleDebouncedEvent c.now c.bus c.address c.eventType) m

def afterEvents (m : DeviceManager) (fired : List (UsbEnv × DebouncedEvent)) : DeviceManager :=
  fired.foldl (fun m f => (m.processReadyEvent f.1 f.2).2) m

/-- The loop of `run`, one round a step. -/
def rounds : Machine UsbWorkerThread Iteration Empty where
  step w it :=
    let m := afterCallbacks (afterCommand w.manager it) it
    if (w.clock :: it.readings).Pairwise (· ≤ ·) ∧
        (it.fired.map Prod.snd).isPerm (m.readyEvents it.collect) then
      some (⟨afterEvents (m.takeReadyEvents it.collect) it.fired, it.finish⟩, [])
    else none

end UsbWorkerThread
end P2pUsb
