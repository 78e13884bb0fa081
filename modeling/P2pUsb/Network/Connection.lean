import P2pUsb.Policy.Engine
import P2pUsb.Usb.Worker

/-! The handler of one client connection, cut where it waits: for a message, for
a slot in the command channel, for the worker's reply. Its select runs one
branch at a time and a branch is never cancelled. The network itself is left out,
and so are the pending transfers that a `DeviceLeft` could cancel: the handler reads
no event while it waits for a transfer. Push notifications are added in
`Network.Announcements`, the audit log in `Network.AuditedServer`. -/
namespace P2pUsb

/-- What the handler does with the worker's reply. -/
inductive Continuation where
  | listDevices
  | attachInfo (deviceId : DeviceId)
  | attach (deviceId : DeviceId) (info : DeviceInfo)
  | detach (handle : DeviceHandle)
  | submit
  | sharingStatus
  | lock
  | unlock
  | expire (event : SessionExpiredEvent) (rest : List SessionExpiredEvent)
  | cleanup (rest : List DeviceHandle)

/-- Where the handler waits. The token numbers the one-shot channel of a
command among all that the connection has opened. -/
inductive Phase where
  | selecting
  | reading
  | throttled (request : UsbRequest)
  | sending (cmd : UsbCommand) (next : Continuation)
  | awaiting (token : Nat) (next : Continuation) (reply : Option UsbReply)
  | stopped

structure ClientConnection where
  endpointId : EndpointId
  attachedDevices : AList fun _ : DeviceHandle => DeviceId
  deviceInfoCache : AList fun _ : DeviceId => DeviceInfo
  lastActivity : Instant
  sent : Nat
  phase : Phase

/-- What can be seen of a handler: the policy decision on a request to attach a
device, with the token of the command that would be sent next, and the answer to
a message. -/
inductive ConnectionEffect where
  | checked (token : Nat) (deviceId : DeviceId) (wall : Nat) (info : DeviceInfo)
      (decision : PolicyDecision)
  | responded (payload : MessagePayload)

def IDLE_LIMIT : Duration := Duration.fromSecs 180

def policyDenialToAttachError : PolicyDenialReason → AttachError
  | .clientNotAllowed => .policyDenied "Client not in allowed list for this device"
  | .outsideTimeWindow currentTime allowedWindows => .outsideTimeWindow currentTime allowedWindows
  | .deviceClassRestricted deviceClass => .deviceClassRestricted deviceClass
  | .noMatchingPolicy => .policyDenied "No matching policy found for this device"

namespace ClientConnection

def new (endpointId : EndpointId) (now : Instant) : ClientConnection where
  endpointId := endpointId
  attachedDevices := ∅
  deviceInfoCache := ∅
  lastActivity := now
  sent := 0
  phase := .selecting

def respond (c : ClientConnection) (payload : MessagePayload) :
    ClientConnection × List ConnectionEffect :=
  ({ c with phase := .selecting }, [.responded payload])

def sendCommand (c : ClientConnection) (cmd : UsbCommand) (next : Continuation) :
    ClientConnection × List ConnectionEffect :=
  ({ c with phase := .sending cmd next }, [])

/-- `handle_attach_device` from the policy check on. -/
def attachWithInfo (c : ClientConnection) (engine : PolicyEngine) (wall : Nat)
    (deviceId : DeviceId) (info : DeviceInfo) : ClientConnection × List ConnectionEffect :=
  let decision := engine.checkAccess wall c.endpointId info
  let check := ConnectionEffect.checked c.sent deviceId wall info decision
  let (c, effects) := match decision with
    | .allow =>
        c.sendCommand (.attachDevice deviceId c.endpointId.text) (.attach deviceId info)
    | .deny reason =>
        c.respond (.attachDeviceResponse (.error (policyDenialToAttachError reason)))
  (c, check :: effects)

def handleAttachDevice (c : ClientConnection) (engine : PolicyEngine) (wall : Nat)
    (deviceId : DeviceId) : ClientConnection × List ConnectionEffect :=
  match c.deviceInfoCache.lookup deviceId with
  | some info => c.attachWithInfo engine wall deviceId info
  | none => c.sendCommand .listDevices (.attachInfo deviceId)

def handleSubmitTransfer (c : ClientConnection) (request : UsbRequest) :
    ClientConnection × List ConnectionEffect :=
  if request.handle ∉ c.attachedDevices then
    c.respond (.transferComplete ⟨request.id, .error .notFound⟩)
  else ({ c with phase := .throttled request }, [])

def handleLockDevice (c : ClientConnection) (handle : DeviceHandle) (writeAccess : Bool) :
    ClientConnection × List ConnectionEffect :=
  if handle ∉ c.attachedDevices then
    c.respond (.lockDeviceResponse (.notAvailable "Device not attached"))
  else c.sendCommand (.lockDevice handle writeAccess) .lock

def handleUnlockDevice (c : ClientConnection) (handle : DeviceHandle) :
    ClientConnection × List ConnectionEffect :=
  if handle ∉ c.attachedDevices then c.respond (.unlockDeviceResponse .notHeld)
  else c.sendCommand (.unlockDevice handle) .unlock

def handleGetSharingStatus (c : ClientConnection) (deviceId : DeviceId) :
    ClientConnection × List ConnectionEffect :=
  let handle := (c.attachedDevices.entries.find? fun e => e.2 == deviceId).map Sigma.fst
  c.sendCommand (.getSharingStatus deviceId handle) .sharingStatus

def handleMessage (c : ClientConnection) (engine : PolicyEngine) (now : ClockReading) :
    MessagePayload → ClientConnection × List ConnectionEffect
  | .listDevicesRequest => c.sendCommand .listDevices .listDevices
  | .attachDeviceRequest deviceId => c.handleAttachDevice engine now.wall deviceId
  | .detachDeviceRequest handle => c.sendCommand (.detachDevice handle) (.detach handle)
  | .submitTransfer request => c.handleSubmitTransfer request
  | .ping => c.respond .pong
  | .heartbeat sequence timestampMs =>
      { c with lastActivity := now.instant }.respond
        (.heartbeatAck sequence timestampMs now.wallMillis)
  | .getSharingStatusRequest deviceId => c.handleGetSharingStatus deviceId
  | .lockDeviceRequest handle writeAccess _ => c.handleLockDevice handle writeAccess
  | .unlockDeviceRequest handle => c.handleUnlockDevice handle
  | _ => c.respond (.error "Unsupported message type")

/-- Handles of the event leave the map, and so does every other handle that is
kept for the device. -/
def handleUsbEvent (c : ClientConnection) : UsbEvent → ClientConnection
  | .deviceArrived _ => c
  | .deviceLeft deviceId invalidatedHandles _ =>
      { c with attachedDevices := c.attachedDevices.retain fun handle id =>
          !invalidatedHandles.contains handle && id != deviceId }

/-- The loop of `handle_expired_sessions` up to its next command. -/
def handleExpiredSessions (c : ClientConnection) : List SessionExpiredEvent → ClientConnection
  | [] => { c with phase := .selecting }
  | event :: rest =>
      if event.clientId = c.endpointId ∧ event.handle ∈ c.attachedDevices then
        { c with
          attachedDevices := c.attachedDevices.erase event.handle
          phase := .sending (.detachDevice event.handle) (.expire event rest) }
      else handleExpiredSessions c rest

/-- The loop of `cleanup` up to its next command. -/
def cleanup (c : ClientConnection) : List DeviceHandle → ClientConnection
  | [] => { c with attachedDevices := ∅, phase := .stopped }
  | handle :: rest => { c with phase := .sending (.detachDevice handle) (.cleanup rest) }

def cacheDevices (c : ClientConnection) (devices : List DeviceInfo) : ClientConnection :=
  let cache := devices.foldl (fun cache info => cache.insert info.id info) c.deviceInfoCache
  { c with deviceInfoCache := cache }

/-- A reply on a channel that is no longer waited on is lost. -/
def receive (c : ClientConnection) (token : Nat) (reply : UsbReply) : ClientConnection :=
  match c.phase with
  | .awaiting waiting next none =>
      if waiting = token then { c with phase := .awaiting waiting next (some reply) } else c
  | _ => c

/-- The rest of the handler once its reply has come. The last case is for
replies of another command's kind, which never come. -/
def resume (c : ClientConnection) (engine : PolicyEngine) (now : ClockReading)
    (sessions : ActiveSessions) (next : Continuation) (reply : UsbReply) :
    (ClientConnection × List ConnectionEffect) × ActiveSessions :=
  match next, reply with
  | .listDevices, .devices devices => (c.respond (.listDevicesResponse devices), sessions)
  | .attachInfo deviceId, .devices devices =>
      let c := c.cacheDevices devices
      match devices.find? fun info => info.id == deviceId with
      | some info => (c.attachWithInfo engine now.wall deviceId info, sessions)
      | none => (c.respond (.attachDeviceResponse (.error .deviceNotFound)), sessions)
  | .attach deviceId info, .attached (.ok handle) =>
      ({ c with attachedDevices := c.attachedDevices.insert handle deviceId }.respond
          (.attachDeviceResponse (.ok handle)),
        sessions.registerSession engine now handle deviceId info c.endpointId)
  | .attach _ _, .attached (.error e) =>
      (c.respond (.attachDeviceResponse (.error e)), sessions)
  | .detach handle, .detached (.ok ()) =>
      ({ c with attachedDevices := c.attachedDevices.erase handle }.respond
          (.detachDeviceResponse (.ok ())),
        sessions.unregisterSession handle)
  | .detach _, .detached (.error e) =>
      (c.respond (.detachDeviceResponse (.error e)), sessions)
  | .submit, .transferred response => (c.respond (.transferComplete response), sessions)
  | .sharingStatus, .sharingStatus result =>
      (c.respond (.getSharingStatusResponse result), sessions)
  | .lock, .locked result => (c.respond (.lockDeviceResponse result), sessions)
  | .unlock, .unlocked result => (c.respond (.unlockDeviceResponse result), sessions)
  | .expire event rest, _ =>
      ((c.handleExpiredSessions rest, []), sessions.unregisterSession event.handle)
  | .cleanup rest, _ => ((c.cleanup rest, []), sessions)
  | _, _ => (({ c with phase := .selecting }, []), sessions)

/-- The handler is in its loop, not in the cleanup after it. -/
def inLoop (c : ClientConnection) : Bool :=
  match c.phase with
  | .sending _ (.cleanup _) => false
  | .awaiting _ (.cleanup _) _ => false
  | .stopped => false
  | _ => true

end ClientConnection
end P2pUsb
