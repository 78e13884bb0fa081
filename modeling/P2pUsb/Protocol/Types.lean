import Mathlib.Data.UInt

/-! Protocol data shared by client and server. The `u32` identifiers and
`u64` request numbers are natural numbers: the code never does arithmetic on
them other than counting up, and no run considered here counts past the word. -/
namespace P2pUsb

/-- The characters that `str::trim` removes and `split_whitespace` splits at. -/
def isWhiteSpace (c : Char) : Bool :=
  (9 ≤ c.toNat && c.toNat ≤ 13) || (0x2000 ≤ c.toNat && c.toNat ≤ 0x200a) ||
    [0x20, 0x85, 0xa0, 0x1680, 0x2028, 0x2029, 0x202f, 0x205f, 0x3000].contains c.toNat

structure DeviceId where
  val : Nat
  deriving DecidableEq, Repr

structure DeviceHandle where
  val : Nat
  deriving DecidableEq, Repr

structure RequestId where
  val : Nat
  deriving DecidableEq, Repr

/-- A node's public key, named by the text that `to_string` prints. -/
structure EndpointId where
  text : String
  deriving DecidableEq, Repr

/-- Readings of the monotonic clock and differences of them, in nanoseconds. -/
abbrev Instant := Nat
abbrev Duration := Nat

def Duration.fromSecs (secs : Nat) : Duration := secs * 1000000000
def Duration.fromMillis (millis : Nat) : Duration := millis * 1000000

def minute : Nat := Duration.fromSecs 60

inductive DeviceSpeed where
  | low | full | high | super | superPlus
  deriving DecidableEq, Repr

structure DeviceInfo where
  id : DeviceId
  vendorId : UInt16
  productId : UInt16
  busNumber : UInt8
  deviceAddress : UInt8
  manufacturer : Option String
  product : Option String
  serialNumber : Option String
  deviceClass : UInt8
  subclass : UInt8
  protocol : UInt8
  speed : DeviceSpeed
  numConfigurations : UInt8
  deriving DecidableEq, Repr

structure IsoPacketDescriptor where
  offset : UInt32
  length : UInt32
  actualLength : UInt32
  status : Int32
  deriving DecidableEq, Repr

inductive TransferType where
  | control (requestType request : UInt8) (value index : UInt16) (data : List UInt8)
  | interrupt (endpoint : UInt8) (data : List UInt8) (timeoutMs : UInt32)
  | bulk (endpoint : UInt8) (data : List UInt8) (timeoutMs : UInt32) (checksum : Option UInt32)
  | isochronous (endpoint : UInt8) (data : List UInt8)
      (isoPacketDescriptors : List IsoPacketDescriptor)
      (startFrame interval timeoutMs : UInt32)
  deriving DecidableEq, Repr

/-- Bit 7 of the request type or of the endpoint address: device to host. -/
def TransferType.isIn : TransferType → Bool
  | .control requestType _ _ _ _ => requestType &&& 0x80 != 0
  | .interrupt endpoint _ _ => endpoint &&& 0x80 != 0
  | .bulk endpoint _ _ _ => endpoint &&& 0x80 != 0
  | .isochronous endpoint _ _ _ _ _ => endpoint &&& 0x80 != 0

structure UsbRequest where
  id : RequestId
  handle : DeviceHandle
  transfer : TransferType
  deriving DecidableEq, Repr

inductive UsbError where
  | timeout | pipe | noDevice | notFound | busy | overflow | io | invalidParam | access
  | other (message : String)
  deriving DecidableEq, Repr

inductive TransferResult where
  | success (data : List UInt8) (checksum : Option UInt32)
  | error (error : UsbError)
  | isochronousSuccess (isoPacketDescriptors : List IsoPacketDescriptor) (startFrame : UInt32)
      (errorCount : UInt32) (data : List UInt8)
  deriving DecidableEq, Repr

structure UsbResponse where
  id : RequestId
  result : TransferResult
  deriving DecidableEq, Repr

inductive AttachError where
  | deviceNotFound
  | alreadyAttached
  | permissionDenied
  | policyDenied (reason : String)
  | outsideTimeWindow (currentTime : String) (allowedWindows : List String)
  | deviceClassRestricted (deviceClass : UInt8)
  | other (message : String)
  deriving DecidableEq, Repr

inductive DetachError where
  | handleNotFound
  | other (message : String)
  deriving DecidableEq, Repr

inductive SharingMode where
  | exclusive | shared | readOnly
  deriving DecidableEq, Repr

structure DeviceSharingStatus where
  deviceId : DeviceId
  sharingMode : SharingMode
  attachedClients : Nat
  hasWriteLock : Bool
  queuePosition : Nat
  queueLength : Nat
  deriving DecidableEq, Repr

inductive LockResult where
  | acquired
  | alreadyHeld
  | queued (position : Nat)
  | notAvailable (reason : String)
  deriving DecidableEq, Repr

inductive UnlockResult where
  | released
  | notHeld
  | error (message : String)
  deriving DecidableEq, Repr

/-- The payloads that `handle_message` reads or answers with; every other
variant of the source's enumeration is `other`. -/
inductive MessagePayload where
  | listDevicesRequest
  | listDevicesResponse (devices : List DeviceInfo)
  | attachDeviceRequest (deviceId : DeviceId)
  | attachDeviceResponse (result : Except AttachError DeviceHandle)
  | detachDeviceRequest (handle : DeviceHandle)
  | detachDeviceResponse (result : Except DetachError Unit)
  | submitTransfer (request : UsbRequest)
  | transferComplete (response : UsbResponse)
  | ping
  | pong
  | heartbeat (sequence timestampMs : Nat)
  | heartbeatAck (sequence clientTimestampMs serverTimestampMs : Nat)
  | error (message : String)
  | getSharingStatusRequest (deviceId : DeviceId)
  | getSharingStatusResponse (result : Except AttachError DeviceSharingStatus)
  | lockDeviceRequest (handle : DeviceHandle) (writeAccess : Bool) (timeoutSecs : Nat)
  | lockDeviceResponse (result : LockResult)
  | unlockDeviceRequest (handle : DeviceHandle)
  | unlockDeviceResponse (result : UnlockResult)
  | other

end P2pUsb
