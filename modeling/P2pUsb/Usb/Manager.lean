import P2pUsb.Usb.Device
import P2pUsb.Usb.Sharing

/-! The device manager: the registry of discovered devices, their attachments
and the debounced hotplug events. The counters `next_device_id` and
`next_handle_id` are natural numbers, as in any run that issues fewer than
`2 ^ 32` of them. An event that the source sends is returned instead; the
worker loop decides when the channel takes it. -/
namespace P2pUsb

/-- `(bus, address)` -/
abbrev BusAddress := UInt8 × UInt8

def HOTPLUG_DEBOUNCE_DURATION : Duration := Duration.fromMillis 500

inductive PendingHotplugEvent where
  | arrived | left
  deriving DecidableEq, Repr

structure DebouncedEvent where
  eventType : PendingHotplugEvent
  fireAt : Instant
  bus : UInt8
  address : UInt8
  deriving DecidableEq, Repr

inductive UsbEvent where
  | deviceArrived (device : DeviceInfo)
  | deviceLeft (deviceId : DeviceId) (invalidatedHandles : List DeviceHandle)
      (affectedClients : List String)

structure SharingConfig where
  defaultMode : SharingMode
  defaultLockTimeoutSecs : Nat
  defaultMaxClients : Nat
  deriving DecidableEq, Repr

def SharingConfig.default : SharingConfig where
  defaultMode := .exclusive
  defaultLockTimeoutSecs := 300
  defaultMaxClients := 4

structure DeviceManager where
  devices : AList fun _ : BusAddress => UsbDevice
  deviceIds : AList fun _ : DeviceId => BusAddress
  attached : AList fun _ : DeviceHandle => DeviceId × String
  nextDeviceId : Nat
  nextHandleId : Nat
  allowedFilters : List String
  debounceState : AList fun _ : BusAddress => DebouncedEvent
  accessTracker : DeviceAccessTracker
  sharingConfig : SharingConfig

/-- `u16::from_str_radix` in base 16, its value not yet bounded. -/
def parseHexDigits (digits : List Char) (value : Nat) : Option Nat :=
  match digits with
  | [] => some value
  | c :: rest =>
      if c.isDigit then parseHexDigits rest (value * 16 + (c.toNat - '0'.toNat))
      else if 'a' ≤ c ∧ c ≤ 'f' then parseHexDigits rest (value * 16 + (c.toNat - 'a'.toNat + 10))
      else if 'A' ≤ c ∧ c ≤ 'F' then parseHexDigits rest (value * 16 + (c.toNat - 'A'.toNat + 10))
      else none

def fromStrRadix16 (text : List Char) : Option Nat :=
  let digits := match text with
    | '+' :: rest => rest
    | _ => text
  if digits.isEmpty then none
  else (parseHexDigits digits 0).filter fun value => decide (value < 65536)

def trimStart0x : List Char → List Char
  | '0' :: 'x' :: rest => trimStart0x rest
  | text => text

/-- One half of a filter against one identifier. -/
def filterPartMatches (part : List Char) (value : UInt16) : Bool :=
  part == ['*'] || fromStrRadix16 (trimStart0x part) == some value.toNat

namespace DeviceManager

def withSharingConfig (allowedFilters : List String) (sharingConfig : SharingConfig) :
    DeviceManager where
  devices := ∅
  deviceIds := ∅
  attached := ∅
  nextDeviceId := 1
  nextHandleId := 1
  allowedFilters := allowedFilters
  debounceState := ∅
  accessTracker := .new
  sharingConfig := sharingConfig

def new (allowedFilters : List String) : DeviceManager :=
  withSharingConfig allowedFilters .default

def checkFilter (vid pid : UInt16) (filters : List String) : Bool :=
  filters.isEmpty || filters.any fun filter =>
    match filter.toList.splitOn ':' with
    | [filterVid, filterPid] => filterPartMatches filterVid vid && filterPartMatches filterPid pid
    | _ => false

/-- A descriptor that cannot be read allows nothing. -/
def isDeviceAllowed (m : DeviceManager) (device : RusbDevice) : Bool :=
  (device.deviceDescriptor 0).toOption.any fun desc =>
    checkFilter desc.vendorId desc.productId m.allowedFilters

def isRootHub (device : RusbDevice) : Bool :=
  (device.deviceDescriptor 1).toOption.any fun desc =>
    desc.vendorId == 0x1d6b && desc.classCode == 9

def addDevice (m : DeviceManager) (device : RusbDevice) :
    Except RusbError DeviceId × DeviceManager :=
  let key := (device.busNumber, device.address)
  if !m.isDeviceAllowed device then (.error .access, m)
  else
    match m.devices.lookup key with
    | some existing => (.ok existing.id, m)
    | none =>
        if isRootHub device then (.error .notSupported, m)
        else
          let deviceId : DeviceId := ⟨m.nextDeviceId⟩
          let m := { m with nextDeviceId := m.nextDeviceId + 1 }
          match UsbDevice.new device deviceId with
          | .error e => (.error e, m)
          | .ok usbDevice =>
              (.ok deviceId, { m with
                deviceIds := m.deviceIds.insert deviceId key
                devices := m.devices.insert key usbDevice
                accessTracker := m.accessTracker.registerDevice deviceId
                  m.sharingConfig.defaultMode m.sharingConfig.defaultMaxClients
                  (Duration.fromSecs m.sharingConfig.defaultLockTimeoutSecs) })

def removeDevice (m : DeviceManager) (bus address : UInt8) :
    Option (DeviceId × List DeviceHandle × List String) × DeviceManager :=
  let key := (bus, address)
  match m.devices.lookup key with
  | none => (none, m)
  | some device =>
      let removed := m.attached.retain fun _ entry => entry.1 == device.id
      (some (device.id, removed.keys, (removed.entries.map fun e => e.2.2).eraseDups),
        { m with
          devices := m.devices.erase key
          deviceIds := m.deviceIds.erase device.id
          attached := m.attached.retain fun _ entry => entry.1 != device.id
          accessTracker := m.accessTracker.unregisterDevice device.id })

def getDeviceById (m : DeviceManager) (deviceId : DeviceId) : Option UsbDevice :=
  (m.deviceIds.lookup deviceId).bind fun key => m.devices.lookup key

def handleDeviceLeftInternal (m : DeviceManager) (bus address : UInt8) :
    Option UsbEvent × DeviceManager :=
  match m.removeDevice bus address with
  | (some (deviceId, invalidatedHandles, affectedClients), m) =>
      (some (.deviceLeft deviceId invalidatedHandles affectedClients), m)
  | (none, m) => (none, m)

def handleDeviceArrivedInternal (m : DeviceManager) (env : UsbEnv) (bus address : UInt8) :
    Option UsbEvent × DeviceManager :=
  match env.devices with
  | .error _ => (none, m)
  | .ok devices =>
      match devices.find? fun device => device.busNumber == bus && device.address == address with
      | none => (none, m)
      | some device =>
          match m.addDevice device with
          | (.ok deviceId, m) =>
              ((m.getDeviceById deviceId).map fun d => .deviceArrived (d.deviceInfo env), m)
          | (.error _, m) => (none, m)

/-- The events whose timer has run out. -/
def readyEvents (m : DeviceManager) (now : Instant) : List DebouncedEvent :=
  (m.debounceState.retain fun _ event => decide (now ≥ event.fireAt)).entries.map fun e => e.2

/-- The first half of `process_debounced_events`: take the ready events. -/
def takeReadyEvents (m : DeviceManager) (now : Instant) : DeviceManager :=
  { m with debounceState := m.debounceState.retain fun _ event => !decide (now ≥ event.fireAt) }

/-- The second half, for one of them. -/
def processReadyEvent (m : DeviceManager) (env : UsbEnv) (event : DebouncedEvent) :
    Option UsbEvent × DeviceManager :=
  match event.eventType with
  | .arrived => m.handleDeviceArrivedInternal env event.bus event.address
  | .left => m.handleDeviceLeftInternal event.bus event.address

def scheduleDebouncedEvent (m : DeviceManager) (now : Instant) (bus address : UInt8)
    (eventType : PendingHotplugEvent) : DeviceManager :=
  { m with debounceState := m.debounceState.insert (bus, address) {
      eventType := eventType
      fireAt := now + HOTPLUG_DEBOUNCE_DURATION
      bus := bus
      address := address } }

/-- All that `initialize` does to the registry. -/
def enumerateDevices (m : DeviceManager) (devices : List RusbDevice) : DeviceManager :=
  devices.foldl (fun m device => (m.addDevice device).2) m

def listDevices (m : DeviceManager) (env : UsbEnv) : List DeviceInfo :=
  m.devices.entries.map fun e => e.2.deviceInfo env

def attachRefusal (mode : Option SharingMode) : AttachError :=
  .policyDenied <| match mode with
    | some .exclusive => "Device is in exclusive mode and already attached"
    | some .shared | some .readOnly => "Maximum concurrent clients reached"
    | none => "Device not available for sharing"

def attachDevice (m : DeviceManager) (env : UsbEnv) (deviceId : DeviceId) (clientId : String) :
    Except AttachError DeviceHandle × DeviceManager :=
  match m.deviceIds.lookup deviceId with
  | none => (.error .deviceNotFound, m)
  | some key =>
    if !m.accessTracker.canAttach deviceId then
      let mode := (m.accessTracker.getState deviceId).map DeviceSharingState.mode
      (.error (attachRefusal mode), m)
    else if m.sharingConfig.defaultMode = .exclusive ∧
        m.attached.entries.any (fun e => e.2.1 == deviceId) then
      (.error .alreadyAttached, m)
    else
      match m.devices.lookup key with
      | none => (.error .deviceNotFound, m)
      | some device =>
          match device.open' env with
          | .error e => (.error e, m)
          | .ok device =>
              let handle : DeviceHandle := ⟨m.nextHandleId⟩
              (.ok handle, { m with
                devices := m.devices.modify key fun _ => device
                nextHandleId := m.nextHandleId + 1
                accessTracker := m.accessTracker.modifyState deviceId fun state =>
                  state.attachClient clientId handle env.now
                attached := m.attached.insert handle (deviceId, clientId) })

def detachDevice (m : DeviceManager) (handle : DeviceHandle) :
    Except DetachError Unit × DeviceManager :=
  match m.attached.lookup handle with
  | none => (.error .handleNotFound, m)
  | some (deviceId, _) =>
      let m := { m with
        attached := m.attached.erase handle
        accessTracker := m.accessTracker.modifyState deviceId fun state =>
          (state.detachClient handle).2 }
      let otherClients := m.attached.entries.any fun e => e.2.1 == deviceId
      if otherClients then (.ok (), m)
      else
        match m.deviceIds.lookup deviceId with
        | none => (.ok (), m)
        | some key => (.ok (), { m with devices := m.devices.modify key UsbDevice.close })

/-- Grants that the queue makes when it is processed: the rest of the function
only reports them. -/
def processDeviceQueue (m : DeviceManager) (now : Instant) (deviceId : DeviceId) :
    List SharingEvent × DeviceManager :=
  match m.accessTracker.getState deviceId with
  | none => ([], m)
  | some state =>
      let granted := state.processQueue now
      (match granted.1 with
        | none => []
        | some handle => .accessGranted deviceId handle ::
            granted.2.getAllQueuePositions.map fun p => .queuePositionChanged deviceId p.1 p.2,
        { m with accessTracker := m.accessTracker.modifyState deviceId fun _ => granted.2 })

def processAllQueues (m : DeviceManager) (now : Instant) : List SharingEvent × DeviceManager :=
  let (events, tracker) := m.accessTracker.processAll now
  (events, { m with accessTracker := tracker })

def getDeviceByHandle (m : DeviceManager) (handle : DeviceHandle) : Option UsbDevice :=
  (m.attached.lookup handle).bind fun entry => m.getDeviceById entry.1

def getSharingStatus (m : DeviceManager) (deviceId : DeviceId) (handle : Option DeviceHandle) :
    Except AttachError DeviceSharingStatus :=
  if deviceId ∉ m.deviceIds then .error .deviceNotFound
  else
    match m.accessTracker.getState deviceId with
    | some state => .ok (state.getStatus handle)
    | none => .ok {
        deviceId := deviceId
        sharingMode := m.sharingConfig.defaultMode
        attachedClients := 0
        hasWriteLock := false
        queuePosition := 0
        queueLength := 0 }

/-- The device that `acquire_lock` and `release_lock` work on: found in the
tracker, or else in the attachments. -/
def lockTarget (m : DeviceManager) (handle : DeviceHandle) : Option DeviceId :=
  (m.accessTracker.getDeviceForHandle handle).or ((m.attached.lookup handle).map Prod.fst)

def acquireLock (m : DeviceManager) (now : Instant) (handle : DeviceHandle) (writeAccess : Bool) :
    LockResult × DeviceManager :=
  match m.lockTarget handle with
  | none => (.notAvailable "Handle not found", m)
  | some deviceId =>
      match m.accessTracker.getState deviceId with
      | none => (.notAvailable "Device not registered for sharing", m)
      | some state =>
          let (result, state) := state.acquireLock handle writeAccess now
          (result, { m with accessTracker := m.accessTracker.modifyState deviceId fun _ => state })

def releaseLock (m : DeviceManager) (handle : DeviceHandle) : UnlockResult × DeviceManager :=
  match m.lockTarget handle with
  | none => (.error "Handle not found", m)
  | some deviceId =>
      match m.accessTracker.getState deviceId with
      | none => (.error "Device not registered for sharing", m)
      | some state =>
          let (result, state) := state.releaseLock handle
          (result, { m with accessTracker := m.accessTracker.modifyState deviceId fun _ => state })

end DeviceManager
end P2pUsb
