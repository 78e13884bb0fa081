import Mathlib.Data.Vector.Basic
import P2pUsb.Usb.Transfers
import P2pUsb.Usb.Worker
import P2pUsb.VirtualUsb.Conversion
import P2pUsb.VirtualUsb.MessageReader

/-! A request on its way from the kernel to the device and back: what the calls
on the device have of the CMD_SUBMIT, and what its RET_SUBMIT tells of them. -/
namespace P2pUsb
open ByteStream

namespace UsbTransaction

/-- Everything but the request to clear a stalled endpoint. -/
def isData : UsbTransaction → Bool
  | clearHalt _ => false
  | _ => true

def isWrite : UsbTransaction → Bool
  | writeControl .. | writeBulk .. | writeInterrupt .. => true
  | _ => false

/-- Control transfers go to endpoint 0. -/
def endpointNumber : UsbTransaction → UInt8
  | readControl .. | writeControl .. => 0
  | readBulk endpoint _ _ | writeBulk endpoint _ _ | readInterrupt endpoint _ _
  | writeInterrupt endpoint _ _ | clearHalt endpoint => endpoint &&& 0x0f

/-- Request type, request, value and index of a control transfer. -/
def setupFields : UsbTransaction → Option (UInt8 × UInt8 × UInt16 × UInt16)
  | readControl requestType request value index _ _
  | writeControl requestType request value index _ _ => some (requestType, request, value, index)
  | _ => none

/-- The bytes that go to the device. -/
def sent : UsbTransaction → List UInt8
  | writeControl _ _ _ _ data _ | writeBulk _ data _ | writeInterrupt _ data _ => data
  | _ => []

end UsbTransaction

/-- The data call that a transfer makes; a stalled endpoint may repeat it. -/
def TransferType.call : TransferType → Option UsbTransaction
  | .control requestType request value index data =>
      some <|
        if requestType &&& 0x80 ≠ 0 then
          .readControl requestType request value index (if data.isEmpty then 64 else data.length)
            UsbPort.defaultTimeout
        else .writeControl requestType request value index data UsbPort.defaultTimeout
  | .bulk endpoint data timeoutMs _ =>
      some <|
        if endpoint &&& 0x80 ≠ 0 then
          .readBulk endpoint data.length (UsbPort.bulkTimeout true data.length timeoutMs)
        else .writeBulk endpoint data (UsbPort.bulkTimeout false data.length timeoutMs)
  | .interrupt endpoint data timeoutMs =>
      some <|
        if endpoint &&& 0x80 ≠ 0 then
          .readInterrupt endpoint data.length (Duration.fromMillis (min 1 timeoutMs.toNat))
        else .writeInterrupt endpoint data (Duration.fromMillis timeoutMs.toNat)
  | .isochronous .. => none

namespace UsbPort
variable (port : UsbPort)

theorem execute_control_log (requestType request : UInt8) (value index : UInt16)
    (data : List UInt8) (log : Log) :
    (port.executeControlTransfer requestType request value index data log).2 =
      log ++ ((TransferType.control requestType request value index data).call).toList := by
  unfold executeControlTransfer TransferType.call
  by_cases isIn : requestType &&& 0x80 ≠ 0
  · simp only [if_pos isIn, readInto, Option.toList_some]
    cases port.read log _ with
    | ok buffer => rfl
    | error e =>
        cases e with
        | pipe =>
            simp only [Except.map]
            split <;> rfl
        | _ => rfl
  · simp only [if_neg isIn, writeFrom, Option.toList_some]
    cases port.write log _ <;> rfl

theorem execute_interrupt_log (endpoint : UInt8) (data : List UInt8) (timeoutMs : UInt32)
    (log : Log) : (port.executeInterruptTransfer endpoint data timeoutMs log).2 =
      log ++ ((TransferType.interrupt endpoint data timeoutMs).call).toList := by
  unfold executeInterruptTransfer TransferType.call
  by_cases isIn : endpoint &&& 0x80 ≠ 0
  · simp only [if_pos isIn, readInto, Option.toList_some]
    cases port.read log _ with
    | ok buffer => rfl
    | error e => cases e <;> rfl
  · simp only [if_neg isIn, writeFrom, Option.toList_some]
    cases port.write log _ <;> rfl

/-- The calls of one branch of a bulk transfer: one, or one on a stalled endpoint
that is then cleared and perhaps tried again. -/
def BulkCalls (endpoint : UInt8) (t : UsbTransaction) (log log' : Log) : Prop :=
  log' = log ++ [t] ∨ log' = log ++ [t] ++ [.clearHalt endpoint] ∨
    log' = log ++ [t] ++ [.clearHalt endpoint] ++ [t]

theorem bulk_in_log (endpoint : UInt8) (size : Nat) (timeout : Duration) (log : Log) :
    BulkCalls endpoint (.readBulk endpoint size timeout) log
      (port.bulkIn endpoint size timeout log).2 := by
  unfold bulkIn readInto clear
  cases port.read log _ with
  | ok buffer => exact .inl rfl
  | error e =>
      cases e with
      | pipe =>
          simp only [Except.map]
          cases port.clearHalt _ endpoint with
          | error e => exact .inr (.inl rfl)
          | ok done => exact .inr (.inr rfl)
      | _ => exact .inl rfl

theorem bulk_out_log (endpoint : UInt8) (data : List UInt8) (timeout : Duration) (log : Log) :
    BulkCalls endpoint (.writeBulk endpoint data timeout) log
      (port.bulkOut endpoint data timeout log).2 := by
  unfold bulkOut writeFrom clear
  cases port.write log _ with
  | ok n => exact .inl rfl
  | error e =>
      cases e with
      | pipe =>
          dsimp only
          cases port.clearHalt _ endpoint with
          | error e => exact .inr (.inl rfl)
          | ok done => exact .inr (.inr rfl)
      | _ => exact .inl rfl

theorem BulkCalls.data {endpoint : UInt8} {t : UsbTransaction} {log' : Log}
    (calls : BulkCalls endpoint t [] log') : ∃ more, log' = t :: more ∧
      ∀ u ∈ more, u.isData → u = t := by
  rcases calls with rfl | rfl | rfl
  · exact ⟨[], rfl, fun u present => nomatch present⟩
  · refine ⟨[.clearHalt endpoint], rfl, fun u present data => ?_⟩
    cases List.mem_singleton.mp present
    cases data
  · refine ⟨[.clearHalt endpoint, t], rfl, fun u present data => ?_⟩
    rcases List.mem_cons.mp present with rfl | last
    · cases data
    · exact List.mem_singleton.mp last

/-- A transfer without a checksum to check makes its data call, and no other. -/
theorem execute_transfer_calls {transfer : TransferType} {t : UsbTransaction}
    (call : transfer.call = some t)
    (plain : ∀ endpoint data timeoutMs sum,
      transfer = .bulk endpoint data timeoutMs (some sum) → False) (P : UsbTransaction → Prop) :
    (∀ u ∈ (port.executeTransfer transfer []).2, u.isData → P u) ↔ (t.isData → P t) := by
  obtain ⟨more, made, same⟩ : ∃ more, (port.executeTransfer transfer []).2 = t :: more ∧
      ∀ u ∈ more, u.isData → u = t := by
    cases transfer with
    | control requestType request value index data =>
        refine ⟨[], ?_, fun u present => nomatch present⟩
        rw [executeTransfer, execute_control_log, call]
        rfl
    | interrupt endpoint data timeoutMs =>
        refine ⟨[], ?_, fun u present => nomatch present⟩
        rw [executeTransfer, execute_interrupt_log, call]
        rfl
    | bulk endpoint data timeoutMs checksum =>
        obtain rfl := Option.some.inj call
        obtain rfl : checksum = none := by
          cases checksum with
          | none => rfl
          | some sum => exact (plain _ _ _ _ rfl).elim
        rw [executeTransfer, executeBulkTransfer]
        by_cases isIn : endpoint &&& 0x80 ≠ 0
        · rw [if_pos isIn, if_pos isIn]
          exact (port.bulk_in_log endpoint _ _ []).data
        · rw [if_neg isIn, if_neg isIn]
          exact (port.bulk_out_log endpoint data _ []).data
    | isochronous => cases call
  rw [made]
  constructor
  · exact fun all data => all t List.mem_cons_self data
  · intro first u present data
    rcases List.mem_cons.mp present with rfl | later
    · exact first data
    · obtain rfl := same u later data
      exact first data

/-- The last call of the transfer was a write, and `n` bytes of it were taken. -/
def Wrote (result : TransferResult × Log) (n : Nat) : Prop :=
  ∃ log t, result.2 = log ++ [t] ∧ t.isWrite ∧ port.write log t = .ok n

variable {port} in
/-- Where the last call is known, so is the answer that `Wrote` is about. -/
theorem Wrote.last {result : TransferResult × Log} {n : Nat} {log : Log} {t : UsbTransaction}
    (wrote : port.Wrote result n) (made : result.2 = log ++ [t]) :
    t.isWrite ∧ port.write log t = .ok n := by
  obtain ⟨log', t', last, isWrite, reported⟩ := wrote
  obtain ⟨rfl, same⟩ := List.append_inj' (made.symm.trans last) rfl
  rw [List.singleton_inj.mp same]
  exact ⟨isWrite, reported⟩

theorem bulk_out_success {endpoint : UInt8} {data : List UInt8} {timeout : Duration} {n : Nat}
    (wrote : port.Wrote (port.bulkOut endpoint data timeout []) n) :
    (port.bulkOut endpoint data timeout []).1 = .success [] none := by
  unfold bulkOut writeFrom clear at wrote ⊢
  cases first : port.write [] (.writeBulk endpoint data timeout) with
  | ok m => rfl
  | error e =>
      rw [first] at wrote
      cases e with
      | pipe =>
          simp only at wrote ⊢
          cases cleared : port.clearHalt _ endpoint with
          | error e =>
              rw [cleared] at wrote
              cases (wrote.last rfl).1
          | ok done =>
              rw [cleared] at wrote
              simp only [(wrote.last rfl).2, bulkWritten]
      | _ =>
          have answered := (wrote.last rfl).2
          rw [first] at answered
          cases answered

/-- A write that the library reports as done gives a success without data. -/
theorem wrote_success {transfer : TransferType} {n : Nat}
    (wrote : port.Wrote (port.executeTransfer transfer []) n) :
    (port.executeTransfer transfer []).1 = .success [] none := by
  cases transfer with
  | control requestType request value index data =>
      have last := wrote.last (port.execute_control_log requestType request value index data [])
      by_cases isIn : requestType &&& 0x80 ≠ 0
      · rw [if_pos isIn] at last
        cases last.1
      · rw [if_neg isIn] at last
        simp only [executeTransfer, executeControlTransfer, if_neg isIn, writeFrom, last.2]
  | interrupt endpoint data timeoutMs =>
      have last := wrote.last (port.execute_interrupt_log endpoint data timeoutMs [])
      by_cases isIn : endpoint &&& 0x80 ≠ 0
      · rw [if_pos isIn] at last
        cases last.1
      · rw [if_neg isIn] at last
        simp only [executeTransfer, executeInterruptTransfer, if_neg isIn, writeFrom, last.2]
  | bulk endpoint data timeoutMs checksum =>
      rw [executeTransfer, executeBulkTransfer] at wrote ⊢
      by_cases isIn : endpoint &&& 0x80 ≠ 0
      · rw [if_pos isIn] at wrote
        rcases port.bulk_in_log endpoint data.length (bulkTimeout true data.length timeoutMs) []
          with log | log | log
        all_goals cases (wrote.last log).1
      · rw [if_neg isIn] at wrote ⊢
        split at wrote
        case isTrue =>
          obtain ⟨log, t, last, -⟩ := wrote
          cases List.append_eq_nil_iff.mp last.symm |>.2
        case isFalse matches' =>
          rw [if_neg matches']
          exact port.bulk_out_success wrote
  | isochronous endpoint data packets startFrame interval timeoutMs =>
      obtain ⟨log, t, last, -⟩ := wrote
      have none : (port.executeTransfer (.isochronous endpoint data packets startFrame interval
          timeoutMs) []).2 = [] := by
        rw [executeTransfer, executeIsochronousTransfer]
        split
        · rfl
        · split <;> rfl
      rw [none] at last
      cases (List.append_eq_nil_iff.mp last.symm).2

end UsbPort

/-- An environment whose devices answer through their ports. -/
def UsbEnv.onPorts (env : UsbEnv) (port : RusbDevice → UsbPort) : UsbEnv where
  __ := env
  executeTransfer device transfer := ((port device).executeTransfer transfer []).1

section
variable {m : DeviceManager} {handle : DeviceHandle} {device : RusbDeviceHandle}

theorem submit_transfer_on_ports (env : UsbEnv) (port : RusbDevice → UsbPort)
    (opened : m.transferTarget handle = some device) (request : UsbRequest) :
    m.submitTransfer (env.onPorts port) handle request =
      ⟨request.id, ((port device.device).executeTransfer request.transfer []).1⟩ := by
  rw [DeviceManager.submitTransfer, opened]
  rfl

/-- The bytes that a successful write reports are lost on the way to the kernel:
its RET_SUBMIT always says success and no bytes. -/
theorem out_reports_written_iff (env : UsbEnv) (port : RusbDevice → UsbPort) (devid : UInt32)
    (header : UsbIpHeader) (cmd : UsbIpCmdSubmit) (data : List UInt8) (n : Nat)
    (opened : m.transferTarget handle = some device)
    (wrote : (port device.device).Wrote
      ((port device.device).executeTransfer (usbipToTransfer header cmd data) []) n) :
    let request := ⟨⟨header.seqnum.toNat⟩, handle, usbipToTransfer header cmd data⟩
    let response := m.submitTransfer (env.onPorts port) handle request
    let message := retSubmitMessage devid header (convertResponse header cmd response)
    (statedStatus message = 0 ∧ (statedActualLength message).toNat = n) ↔ n = 0 := by
  intro request
  have response := submit_transfer_on_ports env port opened request
  rw [UsbPort.wrote_success _ wrote] at response
  have converted : convertResponse header cmd ⟨request.id, .success [] none⟩ =
      ⟨.success 0, [], []⟩ := by
    simp [convertResponse, usbResponseToUsbip, usbResponseToUsbipFull]
  simp only [response, converted, stated_status, stated_actual_length, UsbIpRetSubmit.success]
  constructor
  · exact fun both => both.2.symm
  · exact fun zero => ⟨rfl, zero.symm⟩

end

/-- A device that takes three bytes of every write and has nothing to read. -/
def examplePort : UsbPort where
  read _ _ := .ok []
  write _ _ := .ok 3
  clearHalt _ _ := .ok ()
  errorText _ := "error"
  computeChecksum _ := 0

/-- One device, attached and open under handle 1. -/
def exampleOpen : DeviceManager :=
  (((DeviceManager.withSharingConfig [] .default).addDevice
    (DeviceManager.exampleDevice 0 1 1)).2.attachDevice
      (DeviceManager.exampleEnv 0 []) ⟨1⟩ "a").2

def exampleHeader : UsbIpHeader := { UsbIpHeader.new .cmdSubmit 1 1 with ep := 2 }

def exampleCmd : UsbIpCmdSubmit := ⟨0, 3, 0, 0, 0, noSetup, []⟩

theorem example_wrote : examplePort.Wrote
    (examplePort.executeTransfer (usbipToTransfer exampleHeader exampleCmd [7, 8, 9]) []) 3 :=
  ⟨[], .writeBulk 2 [7, 8, 9] (Duration.fromMillis 5000), rfl, rfl, rfl⟩

theorem out_reports_written_example :
    let request := ⟨⟨1⟩, ⟨1⟩, usbipToTransfer exampleHeader exampleCmd [7, 8, 9]⟩
    let response := exampleOpen.submitTransfer
      ((DeviceManager.exampleEnv 0 []).onPorts fun _ => examplePort) ⟨1⟩ request
    let message := retSubmitMessage 1 exampleHeader
      (convertResponse exampleHeader exampleCmd response)
    (statedStatus message = 0 ∧ (statedActualLength message).toNat = 3) ↔ 3 = 0 :=
  out_reports_written_iff (DeviceManager.exampleEnv 0 [])
    (fun _ => examplePort) 1 exampleHeader exampleCmd [7, 8, 9] 3 rfl example_wrote

/-- Three bytes were written and the kernel is told of none. -/
theorem written_bytes_unreported :
    let response := exampleOpen.submitTransfer
      ((DeviceManager.exampleEnv 0 []).onPorts fun _ => examplePort) ⟨1⟩
      ⟨⟨1⟩, ⟨1⟩, usbipToTransfer exampleHeader exampleCmd [7, 8, 9]⟩
    let message := retSubmitMessage 1 exampleHeader
      (convertResponse exampleHeader exampleCmd response)
    examplePort.Wrote
        (examplePort.executeTransfer (usbipToTransfer exampleHeader exampleCmd [7, 8, 9]) []) 3 ∧
      statedStatus message = 0 ∧ (statedActualLength message).toNat ≠ 3 := by
  refine ⟨example_wrote, ?_, ?_⟩
  · decide +kernel
  · decide +kernel

/-- What the reader hands over: no packets, and data exactly on writes. -/
structure Delivered (header : UsbIpHeader) (cmd : UsbIpCmdSubmit) (data : List UInt8) : Prop where
  packets : cmd.numberOfPackets = 0
  out : header.direction = 0 → data.length = cmd.transferBufferLength.toNat
  other : header.direction ≠ 0 → data = []

theorem read_submit_delivered {s : Socket} {header : UsbIpHeader} {m : UsbIpMessage}
    (read : (readSubmitBlocking header s).1 = .ok m) :
    ∃ cmd data, m = .submit header cmd data ∧ Delivered header cmd data := by
  cases got : readExact IoError.fillBuffer UsbIpCmdSubmit.size s with
  | mk result t =>
  cases result with
  | error e =>
      rw [readSubmitBlocking, got] at read
      cases read
  | ok buf =>
      obtain ⟨cmd, fixed⟩ := UsbIpCmdSubmit.sized_fixed.exact (read_exact_ok got).2
      rw [read_submit_parsed got fixed] at read
      split at read
      case isFalse => cases read
      case isTrue plain =>
        split at read
        case isTrue out =>
          split at read
          case h_1 => cases read
          case h_2 last =>
            cases read
            exact ⟨_, _, rfl, plain, fun _ => (read_exact_ok last).2,
              fun other => absurd out.1 other⟩
        case isFalse other =>
          cases read
          refine ⟨_, _, rfl, plain, fun out => ?_, fun _ => rfl⟩
          have zero : ¬ 0 < cmd.transferBufferLength := fun some => other ⟨out, some⟩
          rw [UInt32.lt_iff_toNat_lt] at zero
          exact (Nat.eq_zero_of_not_pos zero).symm

theorem read_delivered {s : Socket} {header : UsbIpHeader} {cmd : UsbIpCmdSubmit}
    {data : List UInt8} (read : (readUsbipMessageBlocking s).1 = .ok (.submit header cmd data)) :
    Delivered header cmd data := by
  unfold readUsbipMessageBlocking at read
  split at read
  · cases read
  split at read
  · cases read
  split at read
  · cases read
  · obtain ⟨cmd', data', same, delivered⟩ := read_submit_delivered read
    cases same
    exact delivered
  · unfold readUnlinkBlocking at read
    split at read
    · cases read
    · split at read <;> cases read
  · cases read

/-- A call on the device that carries out the request. -/
structure Carries (header : UsbIpHeader) (cmd : UsbIpCmdSubmit) (data : List UInt8)
    (t : UsbTransaction) : Prop where
  endpoint : t.endpointNumber.toNat = header.ep.toNat
  direction : t.isWrite = false ↔ header.direction = 1
  setup : cmd.setup ≠ noSetup → t.setupFields = some (cmd.setup.get 0, cmd.setup.get 1,
    le16 (cmd.setup.get 2) (cmd.setup.get 3), le16 (cmd.setup.get 4) (cmd.setup.get 5))
  length : t.length = cmd.transferBufferLength.toNat
  sent : header.direction ≠ 1 → t.sent = data

/-- The requests whose two directions agree and whose reads of control data have
a length. -/
def Consistent (header : UsbIpHeader) (cmd : UsbIpCmdSubmit) : Prop :=
  if cmd.setup = noSetup then
    header.direction = 0 ∨ header.direction = 1 ∨ cmd.transferBufferLength = 0
  else
    header.ep = 0 ∧
      if cmd.setup.head &&& 0x80 ≠ 0 then header.direction = 1 ∧ cmd.transferBufferLength ≠ 0
      else header.direction ≠ 1 ∧ (header.direction = 0 ∨ cmd.transferBufferLength = 0)

section
variable {header : UsbIpHeader} {cmd : UsbIpCmdSubmit} {data : List UInt8} {t : UsbTransaction}

theorem word_zero {v : UInt32} : v.toNat = 0 ↔ v = 0 := UInt32.toNat_inj (b := 0)

/-- Data of the announced length, whatever direction is meant. -/
theorem Delivered.length_iff (delivered : Delivered header cmd data) :
    data.length = cmd.transferBufferLength.toNat ↔
      header.direction = 0 ∨ cmd.transferBufferLength = 0 := by
  by_cases out : header.direction = 0
  · exact iff_of_true (delivered.out out) (.inl out)
  · rw [delivered.other out, or_iff_right out, ← word_zero]
    exact eq_comm

theorem one_not_zero {v : UInt32} (one : v = 1) : v ≠ 0 := by
  rw [one]
  decide

theorem endpoint_zero : (0 : UInt8).toNat = header.ep.toNat ↔ header.ep = 0 := by
  rw [← word_zero]
  exact eq_comm

/-- The length that a control read asks for, given a buffer of `n` bytes. -/
theorem read_length_iff (n : Nat) :
    (if (List.replicate n (0 : UInt8)).isEmpty then 64 else (List.replicate n (0 : UInt8)).length)
      = n ↔ n ≠ 0 := by
  cases n with
  | zero => decide
  | succ n => simp

theorem control_read_carries_iff (delivered : Delivered header cmd data)
    (control : cmd.setup ≠ noSetup) (isIn : cmd.setup.get 0 &&& 0x80 ≠ 0)
    (call : (usbipToTransfer header cmd data).call = some t) :
    Carries header cmd data t ↔
      header.ep = 0 ∧ header.direction = 1 ∧ cmd.transferBufferLength ≠ 0 := by
  rw [usbipToTransfer, if_pos control, TransferType.call, if_pos isIn] at call
  have made := Option.some.inj call
  -- in the direction of the call the kernel has sent no data
  have size : header.direction = 1 →
      (t.length = cmd.transferBufferLength.toNat ↔ cmd.transferBufferLength ≠ 0) := by
    intro read
    have empty := delivered.other (one_not_zero read)
    have filled : controlData (cmd.setup.get 0)
        (List.replicate cmd.transferBufferLength.toNat 0) data =
        List.replicate cmd.transferBufferLength.toNat 0 := by
      rw [controlData, if_pos ⟨isIn, by rw [empty]; rfl⟩]
    rw [← made, UsbTransaction.length, filled]
    exact (read_length_iff _).trans word_zero.not
  subst made
  constructor
  · intro carries
    have read : header.direction = 1 := carries.direction.mp rfl
    exact ⟨endpoint_zero.mp carries.endpoint, read, (size read).mp carries.length⟩
  · rintro ⟨zero, read, some⟩
    exact {
      endpoint := endpoint_zero.mpr zero
      direction := iff_of_true rfl read
      setup := fun _ => rfl
      length := (size read).mpr some
      sent := fun write => absurd read write }

theorem control_write_carries_iff (delivered : Delivered header cmd data)
    (control : cmd.setup ≠ noSetup) (isOut : ¬ cmd.setup.get 0 &&& 0x80 ≠ 0)
    (call : (usbipToTransfer header cmd data).call = some t) :
    Carries header cmd data t ↔ header.ep = 0 ∧ header.direction ≠ 1 ∧
      (header.direction = 0 ∨ cmd.transferBufferLength = 0) := by
  rw [usbipToTransfer, if_pos control, TransferType.call, if_neg isOut, controlData,
    if_neg fun both => isOut both.1] at call
  obtain rfl := Option.some.inj call
  constructor
  · intro carries
    refine ⟨endpoint_zero.mp carries.endpoint, fun read => ?_,
      delivered.length_iff.mp carries.length⟩
    cases carries.direction.mpr read
  · rintro ⟨zero, write, length⟩
    exact {
      endpoint := endpoint_zero.mpr zero
      direction := iff_of_false (fun no => nomatch no) write
      setup := fun _ => rfl
      length := delivered.length_iff.mpr length
      sent := fun _ => rfl }

/-- A control request is carried out as it is if and only if it is consistent. -/
theorem control_carries_iff (delivered : Delivered header cmd data) (control : cmd.setup ≠ noSetup)
    (call : (usbipToTransfer header cmd data).call = some t) :
    Carries header cmd data t ↔ Consistent header cmd := by
  have first : cmd.setup.head = cmd.setup.get 0 := (List.Vector.get_zero cmd.setup).symm
  rw [Consistent, if_neg control, first]
  by_cases isIn : cmd.setup.get 0 &&& 0x80 ≠ 0
  · rw [if_pos isIn]
    exact control_read_carries_iff delivered control isIn call
  · rw [if_neg isIn]
    exact control_write_carries_iff delivered control isIn call

/-- The address of an endpoint below 16 gives back its number and direction. -/
theorem endpoint_address (small : header.ep.toNat ≤ 15) :
    (header.endpointAddress &&& 0x0f).toNat = header.ep.toNat ∧
      (header.endpointAddress &&& 0x80 ≠ 0 ↔ header.direction = 1) := by
  have cases' : ∀ n ≤ 15, (UInt8.ofNat n ||| 0x80) &&& 0x0f = UInt8.ofNat n ∧
      (UInt8.ofNat n ||| 0x80) &&& 0x80 ≠ 0 ∧ UInt8.ofNat n &&& 0x0f = UInt8.ofNat n ∧
      UInt8.ofNat n &&& 0x80 = 0 ∧ (UInt8.ofNat n).toNat = n := by
    decide
  have byte : header.ep.toUInt8 = UInt8.ofNat header.ep.toNat := rfl
  obtain ⟨inNumber, inBit, outNumber, outBit, back⟩ := cases' _ small
  rw [UsbIpHeader.endpointAddress, byte]
  split
  case isTrue read =>
    rw [inNumber]
    exact ⟨back, iff_of_true inBit read⟩
  case isFalse write =>
    rw [outNumber]
    exact ⟨back, iff_of_false (not_not.mpr outBit) write⟩

theorem bulk_carries_iff (delivered : Delivered header cmd data) (small : header.ep.toNat ≤ 15)
    (plain : cmd.setup = noSetup) (call : (usbipToTransfer header cmd data).call = some t) :
    Carries header cmd data t ↔ Consistent header cmd := by
  have address := endpoint_address small
  rw [Consistent, if_pos plain]
  have none : ¬ cmd.numberOfPackets > 0 := by
    rw [delivered.packets]
    exact UInt32.lt_irrefl 0
  rw [usbipToTransfer, if_neg (not_not.mpr plain)] at call
  simp only [none, if_false] at call
  have shape : t.endpointNumber = header.endpointAddress &&& 0x0f ∧
      (t.isWrite = false ↔ header.direction = 1) ∧
      t.length = (if header.direction = 1 then List.replicate cmd.transferBufferLength.toNat 0
        else data).length ∧
      (header.direction ≠ 1 → t.sent = data) := by
    by_cases read : header.direction = 1
    · have bit := address.2.mpr read
      rw [if_pos read] at call ⊢
      split at call <;> rw [TransferType.call, if_pos bit] at call <;>
        obtain rfl := Option.some.inj call
      all_goals exact ⟨rfl, iff_of_true rfl read, rfl, fun write => absurd read write⟩
    · have bit := address.2.not.mpr read
      rw [if_neg read] at call ⊢
      split at call <;> rw [TransferType.call, if_neg bit] at call <;>
        obtain rfl := Option.some.inj call
      all_goals exact ⟨rfl, iff_of_false (fun no => nomatch no) read, rfl, fun _ => rfl⟩
  obtain ⟨number, direction, length, sent⟩ := shape
  constructor
  · intro carries
    by_cases read : header.direction = 1
    · exact .inr (.inl read)
    · have lengths := carries.length
      rw [length, if_neg read] at lengths
      exact (delivered.length_iff.mp lengths).imp_right .inr
  · intro consistent
    refine ⟨by rw [number]; exact address.1, direction, fun control => absurd plain control, ?_,
      sent⟩
    rw [length]
    split
    case isTrue => exact List.length_replicate
    case isFalse write =>
      refine delivered.length_iff.mpr (consistent.imp_right fun rest => ?_)
      exact rest.resolve_left write

theorem transfer_call (delivered : Delivered header cmd data) :
    ∃ t, (usbipToTransfer header cmd data).call = some t ∧ t.isData := by
  have none : ¬ cmd.numberOfPackets > 0 := by
    rw [delivered.packets]
    exact UInt32.lt_irrefl 0
  unfold usbipToTransfer
  simp only [none, if_false]
  split
  · refine ⟨_, rfl, ?_⟩
    split <;> rfl
  split
  all_goals
    refine ⟨_, rfl, ?_⟩
    split <;> rfl

/-- From the kernel to the device: every data call of the transfer carries out
the CMD_SUBMIT that was read, if and only if that is consistent. -/
theorem request_translated_iff (port : UsbPort) (s : Socket)
    (read : (readUsbipMessageBlocking s).1 = .ok (.submit header cmd data))
    (small : header.ep.toNat ≤ 15) :
    (∀ u ∈ (port.executeTransfer (usbipToTransfer header cmd data) []).2, u.isData →
      Carries header cmd data u) ↔ Consistent header cmd := by
  have delivered := read_delivered read
  obtain ⟨t, call, isData⟩ := transfer_call delivered
  have unchecked : ∀ endpoint buffer timeoutMs sum,
      usbipToTransfer header cmd data = .bulk endpoint buffer timeoutMs (some sum) → False := by
    intro endpoint buffer timeoutMs sum same
    rw [usbipToTransfer] at same
    by_cases control : cmd.setup ≠ noSetup
    · rw [if_pos control] at same
      cases same
    rw [if_neg control] at same
    by_cases iso : cmd.numberOfPackets > 0
    · rw [if_pos iso] at same
      cases same
    rw [if_neg iso] at same
    by_cases interval : cmd.interval ≥ 1
    · rw [if_pos interval] at same
      cases same
    · rw [if_neg interval] at same
      cases same
  rw [port.execute_transfer_calls call unchecked, imp_iff_right isData]
  by_cases control : cmd.setup = noSetup
  · exact bulk_carries_iff delivered small control call
  · exact control_carries_iff delivered control call

end

theorem request_translated_example :
    (∀ u ∈ (examplePort.executeTransfer (usbipToTransfer exampleHeader exampleCmd [7, 8, 9]) []).2,
      u.isData → Carries exampleHeader exampleCmd [7, 8, 9] u) ↔
        Consistent exampleHeader exampleCmd :=
  request_translated_iff examplePort [.chunk exampleBulkOut.bytes] rfl (by decide)

/-- A control read without a data stage. -/
def exampleStatusHeader : UsbIpHeader := { UsbIpHeader.new .cmdSubmit 1 1 with direction := 1 }

def exampleStatusCmd : UsbIpCmdSubmit :=
  ⟨0, 0, 0, 0, 0, ⟨[0x80, 0, 0, 0, 0, 0, 0, 0], rfl⟩, []⟩

theorem empty_control_read_grows :
    let message := UsbIpMessage.submit exampleStatusHeader exampleStatusCmd []
    (readUsbipMessageBlocking [.chunk message.bytes]).1 = .ok message ∧
      ∃ u ∈ (examplePort.executeTransfer
          (usbipToTransfer exampleStatusHeader exampleStatusCmd []) []).2,
        u.isData ∧ u.length = 64 ∧ ¬ Carries exampleStatusHeader exampleStatusCmd [] u := by
  refine ⟨rfl, .readControl 0x80 0 0 0 64 UsbPort.defaultTimeout, List.mem_cons_self, rfl, rfl, ?_⟩
  intro carries
  cases carries.length

end P2pUsb
