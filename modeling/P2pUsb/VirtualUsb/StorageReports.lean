import P2pUsb.VirtualUsb.InterruptAcks
import P2pUsb.VirtualUsb.ReportDelivery

/-! What `VirtualUsbManager` says of the interrupt data that it is given. It takes the
acknowledgement that may be due for the news that the report is in the buffer. -/
namespace P2pUsb

def verifyInterruptChecksum (crc : List UInt8 → UInt32) (sequence : UInt64) (endpoint : UInt8)
    (data : List UInt8) (timestampUs : UInt64) (expected : UInt32) : Bool :=
  computeInterruptChecksum crc sequence endpoint data timestampUs == expected

structure VirtualUsbManager where
  interruptManager : InterruptReceiveManager

namespace VirtualUsbManager

def new : VirtualUsbManager := ⟨.new 64⟩

/-- The answer is `stored_ok` and `checksum_valid`. -/
def processInterruptData (crc : List UInt8 → UInt32) (m : VirtualUsbManager)
    (deviceHandle : DeviceHandle) (endpoint : UInt8) (sequence : UInt64) (data : List UInt8)
    (timestampUs : UInt64) (checksum : UInt32) (now : Instant) (nowUs : Nat) :
    (Bool × Bool) × VirtualUsbManager :=
  let checksumValid := verifyInterruptChecksum crc sequence endpoint data timestampUs checksum
  if !checksumValid then ((false, false), m)
  else
    let (result, manager) := m.interruptManager.processInterruptData crc deviceHandle endpoint
      sequence data timestampUs checksum now nowUs
    ((result.isSome, checksumValid), { m with interruptManager := manager })

end VirtualUsbManager

/-- Interrupt data from a server, and what else is done to the shared buffers. -/
inductive VirtualUsbCall where
  | processInterruptData (deviceHandle : DeviceHandle) (report : ReceivedReport) (nowUs : Nat)
  | activateEndpoint (deviceHandle : DeviceHandle) (endpoint : UInt8) (startSeq : UInt64)
  | deactivateEndpoint (deviceHandle : DeviceHandle) (endpoint : UInt8)
  | removeDevice (deviceHandle : DeviceHandle)
  | tryTake (deviceHandle : DeviceHandle) (endpoint : UInt8)

namespace VirtualUsbManager

def call (crc : List UInt8 → UInt32) (m : VirtualUsbManager) :
    VirtualUsbCall → VirtualUsbManager × List (Bool × Bool)
  | .processInterruptData deviceHandle report nowUs =>
      let (flags, manager) := m.processInterruptData crc deviceHandle report.endpoint
        report.sequence report.data report.serverTimestampUs report.checksum report.receivedAt nowUs
      (manager, [flags])
  | .activateEndpoint deviceHandle endpoint startSeq =>
      (⟨m.interruptManager.activateEndpoint deviceHandle endpoint startSeq⟩, [])
  | .deactivateEndpoint deviceHandle endpoint =>
      (⟨m.interruptManager.deactivateEndpoint deviceHandle endpoint⟩, [])
  | .removeDevice deviceHandle => (⟨m.interruptManager.removeDevice deviceHandle⟩, [])
  | .tryTake deviceHandle endpoint =>
      (⟨(m.interruptManager.tryTake deviceHandle endpoint).2⟩, [])

end VirtualUsbManager

def virtualUsb (crc : List UInt8 → UInt32) :
    Machine VirtualUsbManager VirtualUsbCall (Bool × Bool) where
  step m a := some (m.call crc a)

/-- The report is the last one in the buffer, and counted. -/
structure EndpointReceiveBuffer.Appended (b c : EndpointReceiveBuffer) (report : ReceivedReport) :
    Prop where
  reports : c.reports = b.kept ++ [report]
  counted : c.totalReceived = b.totalReceived + 1

/-- An active buffer that takes this number acknowledges it: the number is ahead, or it is
the highest one so far and a multiple of ten. -/
def EndpointReceiveBuffer.Acknowledges (b : EndpointReceiveBuffer) (seq : Nat) : Prop :=
  b.nextExpectedSeq < seq ∨ b.highestSeq < seq ∧ seq % 10 = 0

namespace VirtualUsbManager
variable {crc : List UInt8 → UInt32} {m t : VirtualUsbManager} {out : List (Bool × Bool)}

def buffer (m : VirtualUsbManager) (deviceHandle : DeviceHandle) (endpoint : UInt8) :
    EndpointReceiveBuffer :=
  m.interruptManager.buffer deviceHandle endpoint

/-- Both answers are what they say. -/
def Truthful (crc : List UInt8 → UInt32) (m : VirtualUsbManager) :
    VirtualUsbCall → VirtualUsbManager → List (Bool × Bool) → Prop
  | .processInterruptData h report _, t, out => ∀ flags ∈ out,
      (flags.1 = true ↔
        (m.buffer h report.endpoint).Appended (t.buffer h report.endpoint) report) ∧
      (flags.2 = true ↔ report.verify crc = true)
  | _, _, _ => True

/-- A report that goes into its buffer is acknowledged at once. -/
def StoresAcknowledged (crc : List UInt8 → UInt32) (m : VirtualUsbManager) :
    VirtualUsbCall → Prop
  | .processInterruptData h report _ => (m.buffer h report.endpoint).accepts crc report = true →
      (m.buffer h report.endpoint).Acknowledges report.seq
  | _ => True

theorem accept_appended (b : EndpointReceiveBuffer) (report : ReceivedReport) (nowUs : Nat) :
    b.Appended (b.accept report nowUs).2 report := by
  obtain ⟨_, _, _, tracked⟩ := b.track_eq report.seq nowUs
  constructor
  · rw [EndpointReceiveBuffer.accept_reports, EndpointReceiveBuffer.kept]
  · simp only [EndpointReceiveBuffer.accept, EndpointReceiveBuffer.pushReport,
      EndpointReceiveBuffer.updateLastContiguous, EndpointReceiveBuffer.advance, tracked]

theorem not_appended (b : EndpointReceiveBuffer) (report : ReceivedReport) :
    ¬ b.Appended b report :=
  fun appended => absurd appended.counted (Nat.ne_of_lt (Nat.lt_succ_self _))

theorem accept_acknowledges {b : EndpointReceiveBuffer} {report : ReceivedReport} {nowUs : Nat} :
    (b.accept report nowUs).1.2 = true ↔ b.Acknowledges report.seq := by
  rw [EndpointReceiveBuffer.accept_flags, Bool.or_eq_true, Bool.and_eq_true, decide_eq_true_eq,
    decide_eq_true_eq, beq_iff_eq]
  exact Iff.rfl

/-- Corrupted data reaches no buffer. -/
theorem process_corrupted {report : ReceivedReport} (invalid : report.verify crc = false)
    (m : VirtualUsbManager) (h : DeviceHandle) (nowUs : Nat) :
    m.call crc (.processInterruptData h report nowUs) = (m, [(false, false)]) := by
  have same : verifyInterruptChecksum crc report.sequence report.endpoint report.data
      report.serverTimestampUs report.checksum = false := invalid
  simp only [call, processInterruptData, same, Bool.not_false, if_true]

theorem process_valid {report : ReceivedReport} (valid : report.verify crc = true)
    (m : VirtualUsbManager) (h : DeviceHandle) (nowUs : Nat) :
    (m.call crc (.processInterruptData h report nowUs)).2 =
        [(((m.buffer h report.endpoint).store crc report nowUs).1.2, true)] ∧
      (m.call crc (.processInterruptData h report nowUs)).1.buffer h report.endpoint =
        ((m.buffer h report.endpoint).store crc report nowUs).2 := by
  have same : verifyInterruptChecksum crc report.sequence report.endpoint report.data
      report.serverTimestampUs report.checksum = true := valid
  simp only [call, processInterruptData, same, Bool.not_true, Bool.false_eq_true, if_false,
    InterruptStream.process_interrupt_data_eq, buffer,
    InterruptReceiveManager.buffer_put_put, and_self, if_true, and_true]
  cases ((m.interruptManager.buffer h report.endpoint).store crc report nowUs).1.2 with
  | true => rfl
  | false => rfl

/-- The answer is false of a report that its buffer takes without acknowledging it. -/
theorem call_truthful (crc : List UInt8 → UInt32) (m : VirtualUsbManager) (a : VirtualUsbCall) :
    m.Truthful crc a (m.call crc a).1 (m.call crc a).2 ↔ m.StoresAcknowledged crc a := by
  cases a with
  | processInterruptData h report nowUs =>
      simp only [Truthful, StoresAcknowledged]
      cases valid : report.verify crc with
      | false =>
          have refused : (m.buffer h report.endpoint).accepts crc report = false := by
            rw [EndpointReceiveBuffer.accepts, valid, Bool.and_false]
          rw [process_corrupted valid, refused]
          simp only [List.mem_singleton, forall_eq, Bool.false_eq_true, false_implies, iff_true,
            false_iff, iff_self, and_true]
          exact not_appended _ report
      | true =>
          obtain ⟨flags, buffer⟩ := process_valid valid m h nowUs
          rw [flags, buffer]
          simp only [List.mem_singleton, forall_eq, and_true, iff_self]
          cases accepted : (m.buffer h report.endpoint).accepts crc report with
          | true =>
              rw [EndpointReceiveBuffer.store_accepted accepted, accept_acknowledges,
                iff_true_right (accept_appended _ report nowUs)]
              exact ⟨fun due _ => due, fun due => due rfl⟩
          | false =>
              have inactive : (m.buffer h report.endpoint).active = false := by
                rw [EndpointReceiveBuffer.accepts, valid, Bool.and_true] at accepted
                exact accepted
              have same : (m.buffer h report.endpoint).store crc report nowUs =
                  ((false, false), m.buffer h report.endpoint) := by
                rw [EndpointReceiveBuffer.store, inactive]
                rfl
              rw [same]
              simp only [Bool.false_eq_true, false_iff, false_implies, iff_true]
              exact not_appended _ report
  | activateEndpoint h e startSeq => exact Iff.rfl
  | deactivateEndpoint h e => exact Iff.rfl
  | removeDevice h => exact Iff.rfl
  | tryTake h e => exact Iff.rfl

/-- Every answer of a run is true if and only if every report that goes into its buffer is
acknowledged at once. -/
theorem storage_reported_truthfully (m : VirtualUsbManager) (calls : List VirtualUsbCall) :
    (virtualUsb crc).EveryStep (fun m a t out => m.Truthful crc a t out) m calls ↔
      (virtualUsb crc).EveryStep (fun m a _ _ => m.StoresAcknowledged crc a) m calls := by
  refine Machine.everyStep_congr (I := fun _ => True) ?_ (fun _ _ _ _ _ _ _ => trivial) trivial
    calls
  intro m a t out _ step
  obtain ⟨rfl, rfl⟩ := Prod.mk.inj (Option.some.inj step)
  exact call_truthful crc m a

/-- The first report of a stream waits in the buffer and is said not to. -/
theorem first_report_is_denied :
    ¬ (virtualUsb crc32).EveryStep (fun m a t out => m.Truthful crc32 a t out) .new
      [.activateEndpoint ⟨1⟩ 0x81 1, .processInterruptData ⟨1⟩ (emptyReport 1) 0] := by
  intro truthful
  have total : ∀ m a, (virtualUsb crc32).step m a = some (m.call crc32 a) := fun _ _ => rfl
  have second := (Machine.EveryStep.of_total total (truthful.of_total total).2).1
  have heard := (call_truthful crc32 _ _).mp second
  obtain ahead | ⟨-, tenth⟩ := heard (by decide +kernel)
  · exact absurd ahead (by decide +kernel)
  · exact absurd tenth (by decide +kernel)

end VirtualUsbManager
end P2pUsb
