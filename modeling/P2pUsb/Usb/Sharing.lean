import P2pUsb.Library.FiniteMap
import P2pUsb.Protocol.Types

/-! Sharing of one device between its attached clients, and the tracker that
keeps this state for every device. Each operation reads the clock once: the
source's readings within one call are consecutive. Hash maps are association
lists, and lengths cast to `u32` are natural numbers. -/
namespace P2pUsb

structure AttachedClient where
  clientId : String
  handle : DeviceHandle
  hasWriteLock : Bool
  hasAccess : Bool
  attachedAt : Instant
  lockAcquiredAt : Option Instant

structure QueueEntry where
  clientId : String
  handle : DeviceHandle
  wantsWrite : Bool
  requestedAt : Instant
  timeout : Option Duration

structure DeviceSharingState where
  deviceId : DeviceId
  mode : SharingMode
  maxClients : Nat
  lockTimeout : Duration
  attachedClients : AList fun _ : DeviceHandle => AttachedClient
  accessQueue : List QueueEntry
  writeLockHolder : Option DeviceHandle
  exclusiveLockHolder : Option DeviceHandle

inductive SharingEvent where
  | lockExpired (deviceId : DeviceId) (handle : DeviceHandle)
  | accessGranted (deviceId : DeviceId) (handle : DeviceHandle)
  | queuePositionChanged (deviceId : DeviceId) (handle : DeviceHandle) (newPosition : Nat)
  deriving DecidableEq, Repr

def QueueEntry.expired (now : Instant) (entry : QueueEntry) : Bool :=
  match entry.timeout with
  | some timeout => decide (now - entry.requestedAt > timeout)
  | none => false

namespace DeviceSharingState

def new (deviceId : DeviceId) (mode : SharingMode) (maxClients : Nat) (lockTimeout : Duration) :
    DeviceSharingState where
  deviceId := deviceId
  mode := mode
  maxClients := maxClients
  lockTimeout := lockTimeout
  attachedClients := ∅
  accessQueue := []
  writeLockHolder := none
  exclusiveLockHolder := none

def canAttach (s : DeviceSharingState) : Bool :=
  match s.mode with
  | .exclusive => s.attachedClients.size == 0
  | .shared => decide (s.attachedClients.size < s.maxClients)
  | .readOnly => decide (s.attachedClients.size < s.maxClients)

def attachClient (s : DeviceSharingState) (clientId : String) (handle : DeviceHandle)
    (now : Instant) : DeviceSharingState :=
  { s with attachedClients := s.attachedClients.insert handle {
      clientId := clientId
      handle := handle
      hasWriteLock := false
      hasAccess := s.mode == .exclusive || s.attachedClients.size == 0
      attachedAt := now
      lockAcquiredAt := if s.mode = .exclusive then some now else none } }

def detachClient (s : DeviceSharingState) (handle : DeviceHandle) :
    Option AttachedClient × DeviceSharingState :=
  match s.attachedClients.lookup handle with
  | none => (none, s)
  | some client =>
      (some client, { s with
        attachedClients := s.attachedClients.erase handle
        writeLockHolder := if s.writeLockHolder = some handle then none else s.writeLockHolder
        exclusiveLockHolder :=
          if s.exclusiveLockHolder = some handle then none else s.exclusiveLockHolder
        accessQueue := s.accessQueue.filter fun e => e.handle != handle })

/-- The three assignments by which `acquire_lock` and `process_queue` hand over
the exclusive lock. -/
def grantExclusive (s : DeviceSharingState) (handle : DeviceHandle) (now : Instant) :
    DeviceSharingState :=
  { s with
    exclusiveLockHolder := some handle
    attachedClients := s.attachedClients.modify handle fun c =>
      { c with hasAccess := true, lockAcquiredAt := some now } }

/-- The same for the write lock. -/
def grantWrite (s : DeviceSharingState) (handle : DeviceHandle) (now : Instant) :
    DeviceSharingState :=
  { s with
    writeLockHolder := some handle
    attachedClients := s.attachedClients.modify handle fun c =>
      { c with hasWriteLock := true, lockAcquiredAt := some now } }

def queueIndex (s : DeviceSharingState) (handle : DeviceHandle) : Option Nat :=
  s.accessQueue.findIdx? fun e => e.handle == handle

def addToQueue (s : DeviceSharingState) (handle : DeviceHandle) (wantsWrite : Bool)
    (now : Instant) : Nat × DeviceSharingState :=
  match s.queueIndex handle with
  | some pos => (pos + 1, s)
  | none =>
      let clientId := ((s.attachedClients.lookup handle).map AttachedClient.clientId).getD ""
      let entry : QueueEntry := {
        clientId := clientId
        handle := handle
        wantsWrite := wantsWrite
        requestedAt := now
        timeout := some s.lockTimeout }
      (s.accessQueue.length + 1, { s with accessQueue := s.accessQueue ++ [entry] })

def acquireLock (s : DeviceSharingState) (handle : DeviceHandle) (writeAccess : Bool)
    (now : Instant) : LockResult × DeviceSharingState :=
  match s.attachedClients.lookup handle with
  | none => (.notAvailable "Client not attached", s)
  | some client =>
    match s.mode with
    | .exclusive =>
        if client.hasAccess then (.alreadyHeld, s)
        else (.notAvailable "Device in exclusive mode with another client", s)
    | .shared =>
        if s.exclusiveLockHolder = some handle then (.alreadyHeld, s)
        else if s.exclusiveLockHolder = none then (.acquired, s.grantExclusive handle now)
        else
          let (position, s) := s.addToQueue handle writeAccess now
          (.queued position, s)
    | .readOnly =>
        if writeAccess then
          if s.writeLockHolder = some handle then (.alreadyHeld, s)
          else if s.writeLockHolder = none then (.acquired, s.grantWrite handle now)
          else
            let (position, s) := s.addToQueue handle true now
            (.queued position, s)
        -- reading needs no lock in this mode
        else (.acquired, s)

def releaseLock (s : DeviceSharingState) (handle : DeviceHandle) :
    UnlockResult × DeviceSharingState :=
  if handle ∉ s.attachedClients then (.error "Client not attached", s)
  else
    match s.mode with
    | .exclusive => (.error "Cannot release lock in exclusive mode", s)
    | .shared =>
        if s.exclusiveLockHolder = some handle then
          (.released, { s with
            exclusiveLockHolder := none
            attachedClients := s.attachedClients.modify handle fun c =>
              { c with hasAccess := false, lockAcquiredAt := none } })
        else (.notHeld, s)
    | .readOnly =>
        if s.writeLockHolder = some handle then
          (.released, { s with
            writeLockHolder := none
            attachedClients := s.attachedClients.modify handle fun c =>
              { c with hasWriteLock := false, lockAcquiredAt := none } })
        else (.notHeld, s)

def getQueuePosition (s : DeviceSharingState) (handle : DeviceHandle) : Nat :=
  match s.attachedClients.lookup handle with
  | some client =>
      if client.hasAccess || client.hasWriteLock then 0
      else ((s.queueIndex handle).map (· + 1)).getD 0
  | none => ((s.queueIndex handle).map (· + 1)).getD 0

/-- The lock that the queue of this mode waits for is free. -/
def lockAvailable (s : DeviceSharingState) : Bool :=
  match s.mode with
  | .exclusive => false
  | .shared => s.exclusiveLockHolder.isNone
  | .readOnly => s.writeLockHolder.isNone

def processQueue (s : DeviceSharingState) (now : Instant) :
    Option DeviceHandle × DeviceSharingState :=
  if !s.lockAvailable || s.accessQueue.isEmpty then (none, s)
  else
    match s.accessQueue.dropWhile (QueueEntry.expired now) with
    | [] => (none, { s with accessQueue := [] })
    | entry :: rest =>
        let s := { s with accessQueue := rest }
        if entry.handle ∈ s.attachedClients then
          match s.mode with
          | .shared => (some entry.handle, s.grantExclusive entry.handle now)
          | .readOnly =>
              if entry.wantsWrite then (some entry.handle, s.grantWrite entry.handle now)
              else (some entry.handle, s)
          | .exclusive => (some entry.handle, s)
        else (none, s)

/-- The lock of `holder` was taken more than `lock_timeout` ago. -/
def lockExpired (s : DeviceSharingState) (now : Instant) (holder : DeviceHandle) : Bool :=
  ((s.attachedClients.lookup holder).bind AttachedClient.lockAcquiredAt).any fun acquiredAt =>
    decide (now - acquiredAt > s.lockTimeout)

def checkLockTimeout (s : DeviceSharingState) (now : Instant) : Option DeviceHandle :=
  (s.exclusiveLockHolder.filter (s.lockExpired now)).or
    (s.writeLockHolder.filter (s.lockExpired now))

def getStatus (s : DeviceSharingState) (forHandle : Option DeviceHandle) :
    DeviceSharingStatus where
  deviceId := s.deviceId
  sharingMode := s.mode
  attachedClients := s.attachedClients.size
  hasWriteLock := forHandle.any fun handle => s.writeLockHolder == some handle
  queuePosition := (forHandle.map s.getQueuePosition).getD 0
  queueLength := s.accessQueue.length +
    if s.exclusiveLockHolder.isSome || s.writeLockHolder.isSome then 1 else 0

def getAllQueuePositions (s : DeviceSharingState) : List (DeviceHandle × Nat) :=
  s.accessQueue.zipIdx.map fun e => (e.1.handle, e.2 + 1)

/-- The body of the loop in `process_all`. -/
def processTimeouts (s : DeviceSharingState) (now : Instant) :
    List SharingEvent × DeviceSharingState :=
  let (expired, s) := match s.checkLockTimeout now with
    | some handle => ([SharingEvent.lockExpired s.deviceId handle], (s.releaseLock handle).2)
    | none => ([], s)
  match s.processQueue now with
  | (some handle, s) =>
      (expired ++ .accessGranted s.deviceId handle ::
        s.getAllQueuePositions.map fun p => .queuePositionChanged s.deviceId p.1 p.2, s)
  | (none, s) => (expired, s)

end DeviceSharingState

structure DeviceAccessTracker where
  devices : AList fun _ : DeviceId => DeviceSharingState

namespace DeviceAccessTracker

def new : DeviceAccessTracker := ⟨∅⟩

def registerDevice (t : DeviceAccessTracker) (deviceId : DeviceId) (mode : SharingMode)
    (maxClients : Nat) (lockTimeout : Duration) : DeviceAccessTracker :=
  ⟨t.devices.insert deviceId (.new deviceId mode maxClients lockTimeout)⟩

def unregisterDevice (t : DeviceAccessTracker) (deviceId : DeviceId) : DeviceAccessTracker :=
  ⟨t.devices.erase deviceId⟩

def getState (t : DeviceAccessTracker) (deviceId : DeviceId) : Option DeviceSharingState :=
  t.devices.lookup deviceId

/-- A call through `get_state_mut`. -/
def modifyState (t : DeviceAccessTracker) (deviceId : DeviceId)
    (f : DeviceSharingState → DeviceSharingState) : DeviceAccessTracker :=
  ⟨t.devices.modify deviceId f⟩

def canAttach (t : DeviceAccessTracker) (deviceId : DeviceId) : Bool :=
  ((t.getState deviceId).map DeviceSharingState.canAttach).getD true

def getDeviceForHandle (t : DeviceAccessTracker) (handle : DeviceHandle) : Option DeviceId :=
  (t.devices.entries.find? fun e => decide (handle ∈ e.2.attachedClients)).map Sigma.fst

def processAll (t : DeviceAccessTracker) (now : Instant) :
    List SharingEvent × DeviceAccessTracker :=
  (t.devices.entries.flatMap fun e => (e.2.processTimeouts now).1,
    ⟨t.devices.mapVal fun _ s => (s.processTimeouts now).2⟩)

end DeviceAccessTracker
end P2pUsb
