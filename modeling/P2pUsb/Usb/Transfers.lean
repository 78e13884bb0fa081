import P2pUsb.Usb.Device

/-! Execution of one transfer on an open device: the calls that are made on the
USB library and what is returned for their answers. -/
namespace P2pUsb

/-- One call on the handle of a device. Reads give the size of their buffer. -/
inductive UsbTransaction where
  | readControl (requestType request : UInt8) (value index : UInt16) (size : Nat)
      (timeout : Duration)
  | writeControl (requestType request : UInt8) (value index : UInt16) (data : List UInt8)
      (timeout : Duration)
  | readBulk (endpoint : UInt8) (size : Nat) (timeout : Duration)
  | writeBulk (endpoint : UInt8) (data : List UInt8) (timeout : Duration)
  | readInterrupt (endpoint : UInt8) (size : Nat) (timeout : Duration)
  | writeInterrupt (endpoint : UInt8) (data : List UInt8) (timeout : Duration)
  | clearHalt (endpoint : UInt8)
  deriving DecidableEq, Repr

/-- The bytes that a read can hold or that a write sends. -/
def UsbTransaction.length : UsbTransaction → Nat
  | readControl _ _ _ _ size _ | readBulk _ size _ | readInterrupt _ size _ => size
  | writeControl _ _ _ _ data _ | writeBulk _ data _ | writeInterrupt _ data _ => data.length
  | clearHalt _ => 0

/-- The device behind a handle: every answer may depend on all calls before it.
A read answers with the bytes it put into the buffer, a write with their number. -/
structure UsbPort where
  read : List UsbTransaction → UsbTransaction → Except RusbError (List UInt8)
  write : List UsbTransaction → UsbTransaction → Except RusbError Nat
  clearHalt : List UsbTransaction → UInt8 → Except RusbError Unit
  errorText : RusbError → String
  computeChecksum : List UInt8 → UInt32

namespace UsbPort
variable (port : UsbPort)

abbrev Log := List UsbTransaction

/-- A read into a buffer of the call's size, truncated to what came. -/
def readInto (t : UsbTransaction) (log : Log) : Except RusbError (List UInt8) × Log :=
  ((port.read log t).map (List.take t.length), log ++ [t])

def writeFrom (t : UsbTransaction) (log : Log) : Except RusbError Nat × Log :=
  (port.write log t, log ++ [t])

def clear (endpoint : UInt8) (log : Log) : Except RusbError Unit × Log :=
  (port.clearHalt log endpoint, log ++ [.clearHalt endpoint])

def mapRusbError : RusbError → UsbError
  | .timeout => .timeout
  | .pipe => .pipe
  | .noDevice => .noDevice
  | .notFound => .notFound
  | .busy => .busy
  | .overflow => .overflow
  | .io => .io
  | .invalidParam => .invalidParam
  | .access => .access
  | e => .other (port.errorText e)

def defaultTimeout : Duration := Duration.fromSecs 5

def maxBulkSizeHighSpeed : Nat := 64 * 1024

/-- The stalls that are only logged differently are not told apart. -/
def executeControlTransfer (requestType request : UInt8) (value index : UInt16)
    (data : List UInt8) (log : Log) : TransferResult × Log :=
  if requestType &&& 0x80 ≠ 0 then
    let bufferSize := if data.isEmpty then 64 else data.length
    match port.readInto (.readControl requestType request value index bufferSize defaultTimeout)
        log with
    | (.ok buffer, log) => (.success buffer none, log)
    | (.error .pipe, log) =>
        -- GET_MAX_LUN of a device with a single unit
        if requestType = 0xA1 ∧ request = 0xFE then (.success [0] none, log)
        else (.error .pipe, log)
    | (.error e, log) => (.error (port.mapRusbError e), log)
  else
    match port.writeFrom (.writeControl requestType request value index data defaultTimeout)
        log with
    | (.ok _, log) => (.success [] none, log)
    | (.error e, log) => (.error (port.mapRusbError e), log)

/-- The timeout of a bulk read grows with the size of large transfers. -/
def bulkTimeout (isIn : Bool) (transferSize : Nat) (timeoutMs : UInt32) : Duration :=
  if isIn then
    let scaled := if transferSize > maxBulkSizeHighSpeed then 100 + transferSize / 1024 else 100
    Duration.fromMillis (min scaled timeoutMs.toNat)
  else Duration.fromMillis timeoutMs.toNat

/-- The end of a bulk read: no data is an empty success. -/
def bulkRead (result : Except RusbError (List UInt8)) : TransferResult :=
  match result with
  | .ok buffer => .success buffer (some (port.computeChecksum buffer))
  | .error .timeout | .error .io => .success [] (some (port.computeChecksum []))
  | .error e => .error (port.mapRusbError e)

def bulkWritten (result : Except RusbError Nat) : TransferResult :=
  match result with
  | .ok _ => .success [] none
  | .error e => .error (port.mapRusbError e)

/-- The read branch of `execute_bulk_transfer`: a stalled endpoint is cleared
and tried once more. -/
def bulkIn (endpoint : UInt8) (size : Nat) (timeout : Duration) (log : Log) :
    TransferResult × Log :=
  match port.readInto (.readBulk endpoint size timeout) log with
  | (.error .pipe, log) =>
      match port.clear endpoint log with
      | (.error _, log) => (.error .pipe, log)
      | (.ok _, log) =>
          let (retried, log) := port.readInto (.readBulk endpoint size timeout) log
          (port.bulkRead retried, log)
  | (result, log) => (port.bulkRead result, log)

/-- The write branch, with the same second try. -/
def bulkOut (endpoint : UInt8) (data : List UInt8) (timeout : Duration) (log : Log) :
    TransferResult × Log :=
  match port.writeFrom (.writeBulk endpoint data timeout) log with
  | (.error .pipe, log) =>
      match port.clear endpoint log with
      | (.error _, log) => (.error .pipe, log)
      | (.ok _, log) =>
          let (retried, log) := port.writeFrom (.writeBulk endpoint data timeout) log
          (port.bulkWritten retried, log)
  | (result, log) => (port.bulkWritten result, log)

def executeBulkTransfer (endpoint : UInt8) (data : List UInt8) (timeoutMs : UInt32)
    (checksum : Option UInt32) (log : Log) : TransferResult × Log :=
  if endpoint &&& 0x80 ≠ 0 then
    port.bulkIn endpoint data.length (bulkTimeout true data.length timeoutMs) log
  else if checksum.any fun expected => port.computeChecksum data != expected then
    (.error (.other "Checksum mismatch"), log)
  else port.bulkOut endpoint data (bulkTimeout false data.length timeoutMs) log

def executeInterruptTransfer (endpoint : UInt8) (data : List UInt8) (timeoutMs : UInt32)
    (log : Log) : TransferResult × Log :=
  if endpoint &&& 0x80 ≠ 0 then
    let timeout := Duration.fromMillis (min 1 timeoutMs.toNat)
    match port.readInto (.readInterrupt endpoint data.length timeout) log with
    | (.ok buffer, log) => (.success buffer none, log)
    | (.error .timeout, log) | (.error .io, log) => (.success [] none, log)
    | (.error e, log) => (.error (port.mapRusbError e), log)
  else
    let timeout := Duration.fromMillis timeoutMs.toNat
    match port.writeFrom (.writeInterrupt endpoint data timeout) log with
    | (.ok _, log) => (.success [] none, log)
    | (.error e, log) => (.error (port.mapRusbError e), log)

/-- Simulated: no call is made on the device. -/
def executeIsochronousTransfer (endpoint : UInt8) (packets : List IsoPacketDescriptor)
    (startFrame : UInt32) (log : Log) : TransferResult × Log :=
  if packets.isEmpty then (.error .invalidParam, log)
  else if endpoint &&& 0x80 ≠ 0 then
    let totalLen := (packets.map fun p => p.length.toNat).sum
    (.isochronousSuccess (packets.map fun p => { p with actualLength := 0, status := 0 })
      startFrame 0 (List.replicate totalLen 0), log)
  else
    (.isochronousSuccess (packets.map fun p => { p with actualLength := p.length, status := 0 })
      startFrame 0 [], log)

def executeTransfer (transfer : TransferType) (log : Log) : TransferResult × Log :=
  match transfer with
  | .control requestType request value index data =>
      port.executeControlTransfer requestType request value index data log
  | .bulk endpoint data timeoutMs checksum =>
      port.executeBulkTransfer endpoint data timeoutMs checksum log
  | .interrupt endpoint data timeoutMs => port.executeInterruptTransfer endpoint data timeoutMs log
  | .isochronous endpoint _ packets startFrame _ _ =>
      executeIsochronousTransfer endpoint packets startFrame log

end UsbPort
end P2pUsb
