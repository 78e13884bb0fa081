import Mathlib.Data.Finset.Max
import Mathlib.Data.Finset.Sort
import P2pUsb.Library.ByteStream
import P2pUsb.Library.FiniteMap
import P2pUsb.Protocol.Types

/-! The client's buffers for interrupt reports that the server streams to it. Words of 64
bits are natural numbers; the one addition that can leave the word wraps as in the
release profile. -/
namespace P2pUsb
open ByteStream

structure ReceivedReport where
  sequence : UInt64
  endpoint : UInt8
  data : List UInt8
  serverTimestampUs : UInt64
  receivedAt : Instant
  checksum : UInt32
  deriving DecidableEq, Repr

def ReceivedReport.seq (report : ReceivedReport) : Nat := report.sequence.toNat

/-- `to_le_bytes` of a 64-bit word. -/
def leBytes (word : UInt64) : List UInt8 := (bigEndian 8 word.toNat).reverse

/-- `crc` is what the hasher makes of all the bytes it is fed. -/
def computeInterruptChecksum (crc : List UInt8 → UInt32) (sequence : UInt64) (endpoint : UInt8)
    (data : List UInt8) (timestampUs : UInt64) : UInt32 :=
  crc (leBytes sequence ++ [endpoint] ++ data ++ leBytes timestampUs)

/-- The hasher's function, one bit at a time. -/
def crc32 (bytes : List UInt8) : UInt32 :=
  let shift (c : UInt32) : UInt32 := if c &&& 1 = 1 then (c >>> 1) ^^^ 0xEDB88320 else c >>> 1
  0xFFFFFFFF ^^^ bytes.foldl (fun c byte => shift^[8] (c ^^^ byte.toUInt32)) 0xFFFFFFFF

def ReceivedReport.verify (crc : List UInt8 → UInt32) (report : ReceivedReport) : Bool :=
  computeInterruptChecksum crc report.sequence report.endpoint report.data
    report.serverTimestampUs == report.checksum

def defaultNackTimeoutUs : Nat := 100000
def maxMissingSequences : Nat := 256

structure EndpointReceiveBuffer where
  endpoint : UInt8
  reports : List ReceivedReport
  nextExpectedSeq : Nat
  highestSeq : Nat
  lastContiguousSeq : Nat
  totalReceived : Nat
  totalServed : Nat
  gapsDetected : Nat
  checksumFailures : Nat
  maxSize : Nat
  active : Bool
  missingSequences : Finset Nat
  nackTimeoutUs : Nat
  missingTimestamps : AList fun _ : Nat => Nat

namespace EndpointReceiveBuffer

def new (endpoint : UInt8) (maxSize : Nat) : EndpointReceiveBuffer where
  endpoint := endpoint
  reports := []
  nextExpectedSeq := 0
  highestSeq := 0
  lastContiguousSeq := 0
  totalReceived := 0
  totalServed := 0
  gapsDetected := 0
  checksumFailures := 0
  maxSize := maxSize
  active := false
  missingSequences := ∅
  nackTimeoutUs := defaultNackTimeoutUs
  missingTimestamps := ∅

/-- The reports that still wait are kept. -/
def activate (b : EndpointReceiveBuffer) (startSeq : UInt64) : EndpointReceiveBuffer :=
  { b with
    nextExpectedSeq := startSeq.toNat
    highestSeq := startSeq.toNat - 1
    lastContiguousSeq := startSeq.toNat - 1
    active := true
    missingSequences := ∅
    missingTimestamps := ∅ }

/-- The reports that still wait are lost. -/
def deactivate (b : EndpointReceiveBuffer) : EndpointReceiveBuffer :=
  { b with
    active := false
    reports := []
    missingSequences := ∅
    missingTimestamps := ∅ }

/-- The body of the loop over a gap. -/
def trackMissing (nowUs : Nat) (tracked : Finset Nat × AList fun _ : Nat => Nat)
    (missingSeq : Nat) : Finset Nat × AList fun _ : Nat => Nat :=
  if tracked.1.card < maxMissingSequences then
    if missingSeq ∈ tracked.1 then tracked
    else (insert missingSeq tracked.1, tracked.2.insert missingSeq nowUs)
  else tracked

/-- `expected..seq` is ahead of what has arrived. -/
def trackGap (b : EndpointReceiveBuffer) (expected seq nowUs : Nat) : EndpointReceiveBuffer :=
  let tracked := (List.range' expected (seq - expected)).foldl (trackMissing nowUs)
    (b.missingSequences, b.missingTimestamps)
  { b with
    gapsDetected := b.gapsDetected + 1
    missingSequences := tracked.1
    missingTimestamps := tracked.2 }

/-- A number that was missing is not missing any more. -/
def removeMissing (b : EndpointReceiveBuffer) (seq : Nat) : EndpointReceiveBuffer :=
  if seq ∈ b.missingSequences then
    { b with
      missingSequences := b.missingSequences.erase seq
      missingTimestamps := b.missingTimestamps.erase seq }
  else b

/-- What `store` does with the gap in front of a report, or with the hole that it fills. -/
def track (b : EndpointReceiveBuffer) (seq nowUs : Nat) : EndpointReceiveBuffer :=
  if b.nextExpectedSeq < seq then b.trackGap b.nextExpectedSeq seq nowUs else b.removeMissing seq

/-- The two `fetch_max` of `store`. -/
def advance (b : EndpointReceiveBuffer) (seq : Nat) : EndpointReceiveBuffer :=
  { b with
    nextExpectedSeq := max b.nextExpectedSeq ((seq + 1) % 2 ^ 64)
    highestSeq := max b.highestSeq seq }

def updateLastContiguous (b : EndpointReceiveBuffer) : EndpointReceiveBuffer :=
  { b with
    lastContiguousSeq :=
      if gaps : b.missingSequences.Nonempty then
        max b.lastContiguousSeq (b.missingSequences.min' gaps - 1)
      else b.highestSeq }

/-- A full buffer drops its oldest report for the new one. -/
def pushReport (b : EndpointReceiveBuffer) (report : ReceivedReport) : EndpointReceiveBuffer :=
  { b with
    reports := (if b.maxSize ≤ b.reports.length then b.reports.drop 1 else b.reports) ++ [report]
    totalReceived := b.totalReceived + 1 }

/-- `store` of a report whose checksum is valid, in an active buffer. -/
def accept (b : EndpointReceiveBuffer) (report : ReceivedReport) (nowUs : Nat) :
    (Bool × Bool) × EndpointReceiveBuffer :=
  let seq := report.seq
  let gapDetected := decide (b.nextExpectedSeq < seq)
  let shouldAck := gapDetected || (decide (b.highestSeq < seq) && seq % 10 == 0)
  ((gapDetected, shouldAck),
    (((b.track seq nowUs).advance seq).updateLastContiguous).pushReport report)

/-- The first flag says that there is a gap, the second that an acknowledgement is due. -/
def store (crc : List UInt8 → UInt32) (b : EndpointReceiveBuffer) (report : ReceivedReport)
    (nowUs : Nat) : (Bool × Bool) × EndpointReceiveBuffer :=
  if !b.active then ((false, false), b)
  else if !report.verify crc then
    ((false, true), { b with checksumFailures := b.checksumFailures + 1 })
  else b.accept report nowUs

def getMissingSequences (b : EndpointReceiveBuffer) (nowUs : Nat) :
    List Nat × EndpointReceiveBuffer :=
  let expired := (b.missingTimestamps.entries.filter fun e =>
    decide (b.nackTimeoutUs < nowUs - e.2)).map Sigma.fst
  let missing := expired.foldl Finset.erase b.missingSequences
  let timestamps := expired.foldl (fun m seq => m.erase seq) b.missingTimestamps
  (missing.sort (· ≤ ·), { b with missingSequences := missing, missingTimestamps := timestamps })

/-- The request for the missing reports, with the number up to which none is missing. -/
def generateNackInfo (b : EndpointReceiveBuffer) (nowUs : Nat) :
    Option (List Nat × Nat) × EndpointReceiveBuffer :=
  let (missing, b) := b.getMissingSequences nowUs
  (if missing.isEmpty then none else some (missing, b.lastContiguousSeq), b)

def tryTake (b : EndpointReceiveBuffer) : Option ReceivedReport × EndpointReceiveBuffer :=
  match b.reports with
  | [] => (none, b)
  | report :: reports => (some report, { b with
      reports := reports
      totalServed := b.totalServed + 1 })

/-- `take_timeout` looks at the queue as `try_take` does, and when it is empty waits; this
is the end of the wait. -/
def wake (b : EndpointReceiveBuffer) (timedOut : Bool) :
    Option ReceivedReport × EndpointReceiveBuffer :=
  if timedOut then (none, b) else b.tryTake

def highestAckedSeq (b : EndpointReceiveBuffer) : Nat := b.highestSeq

end EndpointReceiveBuffer

structure DeviceReceiveBufferManager where
  deviceHandle : DeviceHandle
  buffers : AList fun _ : UInt8 => EndpointReceiveBuffer
  defaultBufferSize : Nat

namespace DeviceReceiveBufferManager

def new (deviceHandle : DeviceHandle) (defaultBufferSize : Nat) : DeviceReceiveBufferManager :=
  ⟨deviceHandle, ∅, defaultBufferSize⟩

def get (m : DeviceReceiveBufferManager) (endpoint : UInt8) : Option EndpointReceiveBuffer :=
  m.buffers.lookup endpoint

/-- The buffer that `get_or_create` returns. -/
def getOrCreate (m : DeviceReceiveBufferManager) (endpoint : UInt8) : EndpointReceiveBuffer :=
  (m.get endpoint).getD (.new endpoint m.defaultBufferSize)

def put (m : DeviceReceiveBufferManager) (endpoint : UInt8) (b : EndpointReceiveBuffer) :
    DeviceReceiveBufferManager :=
  { m with buffers := m.buffers.insert endpoint b }

def activateEndpoint (m : DeviceReceiveBufferManager) (endpoint : UInt8) (startSeq : UInt64) :
    DeviceReceiveBufferManager :=
  m.put endpoint ((m.getOrCreate endpoint).activate startSeq)

def deactivateEndpoint (m : DeviceReceiveBufferManager) (endpoint : UInt8) :
    DeviceReceiveBufferManager :=
  match m.get endpoint with
  | none => m
  | some b => m.put endpoint b.deactivate

def storeReport (crc : List UInt8 → UInt32) (m : DeviceReceiveBufferManager)
    (report : ReceivedReport) (nowUs : Nat) : (Bool × Bool) × DeviceReceiveBufferManager :=
  let (flags, b) := (m.getOrCreate report.endpoint).store crc report nowUs
  (flags, m.put report.endpoint b)

/-- A device without a buffer for the endpoint gives nothing and gets none. -/
def tryTake (m : DeviceReceiveBufferManager) (endpoint : UInt8) :
    Option ReceivedReport × DeviceReceiveBufferManager :=
  match m.get endpoint with
  | none => (none, m)
  | some b => (b.tryTake.1, m.put endpoint b.tryTake.2)

end DeviceReceiveBufferManager

structure InterruptReceiveManager where
  devices : AList fun _ : DeviceHandle => DeviceReceiveBufferManager
  defaultBufferSize : Nat

namespace InterruptReceiveManager

def new (defaultBufferSize : Nat) : InterruptReceiveManager := ⟨∅, defaultBufferSize⟩

def get (m : InterruptReceiveManager) (deviceHandle : DeviceHandle) :
    Option DeviceReceiveBufferManager :=
  m.devices.lookup deviceHandle

def getOrCreate (m : InterruptReceiveManager) (deviceHandle : DeviceHandle) :
    DeviceReceiveBufferManager :=
  (m.get deviceHandle).getD (.new deviceHandle m.defaultBufferSize)

def put (m : InterruptReceiveManager) (deviceHandle : DeviceHandle)
    (device : DeviceReceiveBufferManager) : InterruptReceiveManager :=
  { m with devices := m.devices.insert deviceHandle device }

/-- The answer is the flag for a gap and the number to acknowledge, if one is due. -/
def processInterruptData (crc : List UInt8 → UInt32) (m : InterruptReceiveManager)
    (deviceHandle : DeviceHandle) (endpoint : UInt8) (sequence : UInt64) (data : List UInt8)
    (serverTimestampUs : UInt64) (checksum : UInt32) (now : Instant) (nowUs : Nat) :
    Option (Bool × Nat) × InterruptReceiveManager :=
  let report : ReceivedReport := {
    sequence := sequence
    endpoint := endpoint
    data := data
    serverTimestampUs := serverTimestampUs
    receivedAt := now
    checksum := checksum }
  let ((gapDetected, shouldAck), device) :=
    (m.getOrCreate deviceHandle).storeReport crc report nowUs
  let ack := if shouldAck then
      (device.get endpoint).map fun b => (gapDetected, b.highestAckedSeq)
    else none
  (ack, m.put deviceHandle device)

/-- `activate_endpoint` of the device that `get_or_create` returns. -/
def activateEndpoint (m : InterruptReceiveManager) (deviceHandle : DeviceHandle)
    (endpoint : UInt8) (startSeq : UInt64) : InterruptReceiveManager :=
  m.put deviceHandle ((m.getOrCreate deviceHandle).activateEndpoint endpoint startSeq)

/-- `deactivate_endpoint` of the device, if it is there. -/
def deactivateEndpoint (m : InterruptReceiveManager) (deviceHandle : DeviceHandle)
    (endpoint : UInt8) : InterruptReceiveManager :=
  match m.get deviceHandle with
  | none => m
  | some device => m.put deviceHandle (device.deactivateEndpoint endpoint)

/-- The buffers of the device go with it. -/
def removeDevice (m : InterruptReceiveManager) (deviceHandle : DeviceHandle) :
    InterruptReceiveManager :=
  { m with devices := m.devices.erase deviceHandle }

/-- `try_take` of the device, if it is there. -/
def tryTake (m : InterruptReceiveManager) (deviceHandle : DeviceHandle) (endpoint : UInt8) :
    Option ReceivedReport × InterruptReceiveManager :=
  match m.get deviceHandle with
  | none => (none, m)
  | some device => ((device.tryTake endpoint).1, m.put deviceHandle (device.tryTake endpoint).2)

end InterruptReceiveManager
end P2pUsb
