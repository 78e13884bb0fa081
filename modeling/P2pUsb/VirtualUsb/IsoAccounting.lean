import P2pUsb.Usb.Transfers
import P2pUsb.VirtualUsb.BridgeSteps

/-! The lengths of an isochronous transfer: of its packets, of the whole and of the data, from
the server's simulation to the RET_SUBMIT, which the bridge never comes to write. -/
namespace P2pUsb
open ByteStream

structure UsbIpCmdSubmit.IsIsochronous (cmd : UsbIpCmdSubmit) : Prop where
  setup : cmd.setup = noSetup
  positive : cmd.numberOfPackets > 0
  counted : cmd.numberOfPackets.toNat = cmd.isoPackets.length

/-- The numbers of a RET_SUBMIT agree with each other and with the request. -/
structure IsoAccounted (devid : UInt32) (header : UsbIpHeader) (cmd : UsbIpCmdSubmit)
    (c : UsbIpConvertedResponse) : Prop where
  packets : statedPackets (retSubmitMessage devid header c) = cmd.numberOfPackets
  total : (statedActualLength (retSubmitMessage devid header c)).toNat =
    (c.isoPackets.map fun p => p.actualLength.toNat).sum
  data : header.direction = 1 → (retSubmitMessage devid header c).length = retSubmitHeaderSize +
    (16 * c.isoPackets.length + (statedActualLength (retSubmitMessage devid header c)).toNat)

variable {header : UsbIpHeader} {cmd : UsbIpCmdSubmit}

/-- The clamp keeps data and length together; the packets it does not touch. -/
theorem iso_accounted_iff (devid : UInt32) (header : UsbIpHeader)
    (positive : cmd.numberOfPackets > 0)
    (id : RequestId) (packets : List IsoPacketDescriptor) (startFrame errorCount : UInt32)
    (data : List UInt8) :
    IsoAccounted devid header cmd
        (convertResponse header cmd ⟨id, .isochronousSuccess packets startFrame errorCount data⟩) ↔
      UInt32.ofNat packets.length = cmd.numberOfPackets ∧
        (if header.direction = 1 then min data.length cmd.transferBufferLength.toNat
          else data.length % 2 ^ 32) = (packets.map fun p => p.actualLength.toNat).sum := by
  have small := cmd.transferBufferLength.toNat_lt
  have actual : (packets.map fun p : IsoPacketDescriptor =>
      (⟨p.offset, p.length, p.actualLength, p.status.toUInt32⟩ : UsbIpIsoPacketDescriptor)).map
        (fun p => p.actualLength.toNat) = packets.map fun p => p.actualLength.toNat := by
    rw [List.map_map]
    rfl
  have fields {c : UsbIpConvertedResponse} {n : Nat}
    (isoPackets : c.isoPackets = packets.map fun p =>
        ⟨p.offset, p.length, p.actualLength, p.status.toUInt32⟩)
      (counted : c.ret.numberOfPackets = .ofNat packets.length)
      (length : c.ret.actualLength.toNat = n)
      (whole : header.direction = 1 → c.data.length = n) :
      IsoAccounted devid header cmd c ↔ UInt32.ofNat packets.length = cmd.numberOfPackets ∧
        n = (packets.map fun p => p.actualLength.toNat).sum := by
    refine ⟨fun h => ⟨?_, ?_⟩, fun h => ⟨?_, ?_, fun isIn => ?_⟩⟩
    · rw [← counted, ← stated_packets devid header c, h.packets]
    · rw [← actual, ← isoPackets, ← h.total, stated_actual_length, length]
    · rw [stated_packets, counted, h.1]
    · rw [stated_actual_length, length, isoPackets, actual, h.2]
    · rw [stated_actual_length, length, length_ret_submit, whole isIn]
  simp only [convertResponse, positive, if_true, usbResponseToUsbipFull]
  by_cases isIn : header.direction = 1
  · simp only [isIn, true_and, if_true]
    by_cases long : data.length > cmd.transferBufferLength.toNat
    · rw [if_pos long]
      refine fields rfl rfl (by dsimp only; omega) fun _ => ?_
      exact List.length_take.trans (Nat.min_comm _ _)
    · rw [if_neg long]
      refine fields rfl rfl ?_ fun _ => (Nat.min_eq_left (Nat.not_lt.mp long)).symm
      rw [UInt32.toNat_ofNat']
      omega
  · simp only [isIn, false_and, if_false]
    exact fields rfl rfl (UInt32.toNat_ofNat' ..) fun yes => (isIn yes).elim

/-! ### The simulation -/

def UsbIpCmdSubmit.isoLength (cmd : UsbIpCmdSubmit) : Nat :=
  (cmd.isoPackets.map fun p => p.length.toNat).sum

theorem execute_isochronous (port : UsbPort) (iso : cmd.IsIsochronous) (data : List UInt8)
    (log : UsbPort.Log) : (port.executeTransfer (usbipToTransfer header cmd data) log).1 =
      if header.endpointAddress &&& 0x80 ≠ 0 then
        .isochronousSuccess (cmd.isoPackets.map fun p => ⟨p.offset, p.length, 0, 0⟩)
          cmd.startFrame 0 (List.replicate cmd.isoLength 0)
      else
        .isochronousSuccess (cmd.isoPackets.map fun p => ⟨p.offset, p.length, p.length, 0⟩)
          cmd.startFrame 0 [] := by
  have some : (cmd.isoPackets.map fun p : UsbIpIsoPacketDescriptor =>
      (⟨p.offset, p.length, p.actualLength, p.status.toInt32⟩ : IsoPacketDescriptor)).isEmpty =
        false := by
    have positive := UInt32.lt_iff_toNat_lt.mp iso.positive
    rw [iso.counted] at positive
    rw [List.isEmpty_map, List.isEmpty_eq_false_iff_exists_mem]
    exact List.exists_mem_of_length_pos positive
  unfold usbipToTransfer
  rw [if_neg (not_not.mpr iso.setup), if_pos iso.positive, UsbPort.executeTransfer,
    UsbPort.executeIsochronousTransfer, some]
  simp only [Bool.false_eq_true, if_false, List.map_map]
  split <;> rfl

/-- Where the numbers of the simulation agree: without a byte in any packet, or without a byte
in the buffer of a read. -/
def IsoAgrees (header : UsbIpHeader) (cmd : UsbIpCmdSubmit) : Prop :=
  if header.direction = 1 then cmd.isoLength = 0 ∨ cmd.transferBufferLength = 0
  else if header.ep.toUInt8 &&& 0x80 ≠ 0 then cmd.isoLength % 2 ^ 32 = 0
  else cmd.isoLength = 0

theorem bit_seven_set (b : UInt8) : (b ||| 0x80) &&& 0x80 = 0x80 := by
  apply UInt8.toBitVec_inj.mp
  ext i hi
  simp
  exact .inr

/-- The data of a simulated read is not in its packets, and the packets of a simulated write are
not in its length. -/
theorem iso_accounted_iff_agrees (port : UsbPort) (devid : UInt32) (header : UsbIpHeader)
    (cmd : UsbIpCmdSubmit) (iso : cmd.IsIsochronous) (data : List UInt8) (log : UsbPort.Log)
    (id : RequestId) :
    IsoAccounted devid header cmd (convertResponse header cmd
        ⟨id, (port.executeTransfer (usbipToTransfer header cmd data) log).1⟩) ↔
      IsoAgrees header cmd := by
  have counted : UInt32.ofNat cmd.isoPackets.length = cmd.numberOfPackets := by
    rw [← iso.counted, UInt32.ofNat_toNat]
  have received : ((cmd.isoPackets.map fun p => (⟨p.offset, p.length, 0, 0⟩ :
      IsoPacketDescriptor)).map fun p => p.actualLength.toNat).sum = 0 := by
    simp [Function.comp_def, List.map_const']
  have sent : ((cmd.isoPackets.map fun p => (⟨p.offset, p.length, p.length, 0⟩ :
      IsoPacketDescriptor)).map fun p => p.actualLength.toNat).sum = cmd.isoLength := by
    rw [List.map_map]
    rfl
  rw [execute_isochronous port iso, IsoAgrees]
  by_cases isIn : header.direction = 1
  · have address : header.endpointAddress &&& 0x80 ≠ 0 := by
      rw [UsbIpHeader.endpointAddress, if_pos isIn, bit_seven_set]
      decide
    rw [if_pos address, iso_accounted_iff devid header iso.positive, received, List.length_map,
      List.length_replicate, if_pos isIn, if_pos isIn, counted, and_iff_right rfl,
      Nat.min_eq_zero_iff, ← UInt32.toNat_inj, UInt32.toNat_zero]
  · have address : header.endpointAddress = header.ep.toUInt8 := if_neg isIn
    rw [address, if_neg isIn]
    by_cases bit : header.ep.toUInt8 &&& 0x80 ≠ 0
    · rw [if_pos bit, if_pos bit, iso_accounted_iff devid header iso.positive, received,
        List.length_map, List.length_replicate, if_neg isIn, counted]
      exact and_iff_right rfl
    · rw [if_neg bit, if_neg bit, iso_accounted_iff devid header iso.positive, sent,
        List.length_map, if_neg isIn, counted]
      exact (and_iff_right rfl).trans eq_comm

/-! ### The bridge on its socket -/

namespace SocketBridge

structure OnSocket where
  socket : Socket
  bridge : SocketBridge

inductive SocketStep where
  | readSocket
  | own (a : BridgeStep)

/-- The bridge reads nothing but what comes off its socket. -/
def onSocket : Machine OnSocket SocketStep BridgeEvent where
  step s
    | .readSocket =>
        match readUsbipMessageBlocking s.socket with
        | (result, socket) =>
            (s.bridge.step (.read result)).map fun (bridge, out) => (⟨socket, bridge⟩, out)
    | .own (.read _) => none
    | .own a => (s.bridge.step a).map fun (bridge, out) => ({ s with bridge }, out)

variable {s t : OnSocket} {tr out : List BridgeEvent} {devid : UInt32} {socket : Socket}

theorem on_socket_step {a : SocketStep} (step : onSocket.step s a = some (t, out)) :
    ∃ b, machine.step s.bridge b = some (t.bridge, out) ∧
      ∀ result, b = .read result → (readUsbipMessageBlocking s.socket).1 = result := by
  cases a with
  | readSocket =>
      simp only [onSocket] at step
      generalize readUsbipMessageBlocking s.socket = read at step ⊢
      obtain ⟨result, socket⟩ := read
      obtain ⟨⟨bridge, out⟩, moved, same⟩ := Option.map_eq_some_iff.mp step
      cases same
      exact ⟨.read result, moved, fun _ same => BridgeStep.read.inj same⟩
  | own b =>
      have unread : ∀ result, b ≠ .read result := by
        rintro result rfl
        cases step
      have own : onSocket.step s (.own b) =
          (s.bridge.step b).map fun (bridge, out) => ({ s with bridge }, out) := by
        cases b with
        | read result => exact (unread result rfl).elim
        | _ => rfl
      obtain ⟨⟨bridge, out⟩, moved, same⟩ := Option.map_eq_some_iff.mp (own.symm.trans step)
      cases same
      exact ⟨b, moved, fun result same => (unread result same).elim⟩

theorem read_submit_plain {header header' : UsbIpHeader} {cmd : UsbIpCmdSubmit}
    {data : List UInt8} {socket : Socket}
    (got : (readSubmitBlocking header' socket).1 = .ok (.submit header cmd data)) :
    cmd.numberOfPackets = 0 := by
  cases fixed : readExact IoError.fillBuffer UsbIpCmdSubmit.size socket with
  | mk result rest =>
  cases result with
  | error e =>
      rw [readSubmitBlocking, fixed] at got
      cases got
  | ok buf =>
      obtain ⟨cmd', parsed⟩ := UsbIpCmdSubmit.sized_fixed.exact (read_exact_ok fixed).2
      rw [read_submit_parsed fixed parsed] at got
      split at got
      case isFalse => cases got
      case isTrue plain =>
        split at got
        case isFalse =>
          cases got
          exact plain
        case isTrue =>
          split at got
          · cases got
          · cases got
            exact plain

theorem read_plain {header : UsbIpHeader} {cmd : UsbIpCmdSubmit} {data : List UInt8}
    {socket : Socket}
    (read : (readUsbipMessageBlocking socket).1 = .ok (.submit header cmd data)) :
    cmd.numberOfPackets = 0 := by
  cases got : readExact IoError.fillBuffer UsbIpHeader.size socket with
  | mk result rest =>
  cases result with
  | error e =>
      rw [readUsbipMessageBlocking, got] at read
      cases read
  | ok buf =>
      obtain ⟨header', parsed⟩ := UsbIpHeader.sized.exact (read_exact_ok got).2
      rw [read_after_header got parsed, readAfterHeader] at read
      split at read
      case h_2 => exact read_submit_plain read
      case h_3 =>
        unfold readUnlinkBlocking at read
        split at read
        · cases read
        · split at read <;> cases read
      all_goals cases read

theorem tasks_plain (run : onSocket.Reach ⟨socket, new devid⟩ tr s) :
    ∀ (i : Nat) (t : SubmitTask), s.bridge.tasks[i]? = some t → t.cmd.numberOfPackets = 0 := by
  refine run.stateInvariant (I := fun s => ∀ (i : Nat) (t : SubmitTask),
    s.bridge.tasks[i]? = some t → t.cmd.numberOfPackets = 0) ?_ ?_
  · intro i t found
    cases found
  intro s a s' out plain _ step j u found
  obtain ⟨b, moved, read⟩ := on_socket_step step
  generalize s'.bridge = bridge at moved found
  cases step_moves moved with
  | @task i t a rest phase out present move =>
      rcases move.task present found with ⟨rfl, rfl⟩ | ⟨-, before⟩
      · exact plain j t present
      · exact plain j u before
  | reader move =>
      rcases move.task found with before | ⟨header, cmd, data, same, -, rfl⟩
      · exact plain j u before
      · exact read_plain (read _ same)

/-- The reader ends at an isochronous request, and so does the bridge. -/
theorem iso_ends {header : UsbIpHeader} {cmd : UsbIpCmdSubmit} {data rest : List UInt8}
    (type : header.commandType = .ok .cmdSubmit) (some : cmd.numberOfPackets ≠ 0)
    (held : Holds s.socket ((UsbIpMessage.submit header cmd data).bytes ++ rest))
    (reading : s.bridge.reader = .reading) : ∃ socket, onSocket.step s .readSocket =
      .some (⟨socket, { s.bridge with reader := .ended, running := false }⟩, []) := by
  obtain ⟨socket, failed⟩ := read_iso type some held
  refine ⟨socket, ?_⟩
  have stops : onReadError (ReadError.decode IoError.fillBuffer).display = .stop := by decide
  simp only [onSocket, failed, step, reading, afterRead, stops, Option.map_some]

/-- A RET_SUBMIT is written for the request, with numbers that agree. -/
def AnswersAccounted (devid : UInt32) (socket : Socket) (header : UsbIpHeader)
    (cmd : UsbIpCmdSubmit) : Prop :=
  ∃ tr s i t response, onSocket.Reach ⟨socket, new devid⟩ tr s ∧ s.bridge.tasks[i]? = some t ∧
    t.header = header ∧ t.cmd = cmd ∧
    .retSubmit i header.seqnum (retSubmitMessage devid header
      (convertResponse header cmd response)) ∈ tr ∧
    IsoAccounted devid header cmd (convertResponse header cmd response)

theorem not_answers {header : UsbIpHeader} {cmd : UsbIpCmdSubmit} (some : cmd.numberOfPackets ≠ 0) :
    ¬ AnswersAccounted devid socket header cmd := by
  rintro ⟨tr, s, i, t, response, run, found, -, rfl, -⟩
  exact some (tasks_plain run i t found)

end SocketBridge

/-- No isochronous CMD_SUBMIT is answered with numbers that agree: the reader ends at it. Were it
read, they would agree only where nothing is transferred. -/
theorem iso_submit_never_accounted (devid : UInt32) (header : UsbIpHeader) (cmd : UsbIpCmdSubmit)
    (data : List UInt8) (wf : (UsbIpMessage.submit header cmd data).WellFormed)
    (iso : cmd.IsIsochronous) :
    (∀ socket, ¬ SocketBridge.AnswersAccounted devid socket header cmd) ∧
    (∀ (s : SocketBridge.OnSocket) (rest : List UInt8),
      Holds s.socket ((UsbIpMessage.submit header cmd data).bytes ++ rest) →
      s.bridge.reader = .reading → ∃ socket, SocketBridge.onSocket.step s .readSocket =
        some (⟨socket, { s.bridge with reader := .ended, running := false }⟩, [])) ∧
    ∀ (port : UsbPort) (log : UsbPort.Log) (id : RequestId),
      IsoAccounted devid header cmd (convertResponse header cmd
        ⟨id, (port.executeTransfer (usbipToTransfer header cmd data) log).1⟩) ↔
      IsoAgrees header cmd := by
  have packets : cmd.numberOfPackets ≠ 0 := by
    intro none
    have positive := iso.positive
    rw [none] at positive
    exact UInt32.lt_irrefl _ positive
  refine ⟨fun socket => SocketBridge.not_answers packets, ?_, ?_⟩
  · intro s rest held reading
    exact SocketBridge.iso_ends wf.1 packets held reading
  · intro port log id
    exact iso_accounted_iff_agrees port devid header cmd iso data log id

def isoRead : UsbIpHeader := { UsbIpHeader.new .cmdSubmit 1 1 with direction := 1, ep := 2 }

def onePacket (length : UInt32) : UsbIpCmdSubmit :=
  ⟨0, length, 0, 1, 1, noSetup, [⟨0, length, 0, 0⟩]⟩

def isoSocket : Socket := [.chunk (UsbIpMessage.submit isoRead (onePacket 192) []).bytes]

def silentPort : UsbPort where
  read _ _ := .ok []
  write _ _ := .ok 0
  clearHalt _ _ := .ok ()
  errorText _ := "error"
  computeChecksum _ := 0

theorem one_packet_never_accounted :
    ¬ SocketBridge.AnswersAccounted 1 isoSocket isoRead (onePacket 192) ∧
    (∃ socket, SocketBridge.onSocket.step
        ⟨isoSocket, { SocketBridge.new 1 with reader := .reading }⟩ .readSocket =
      some (⟨socket, { SocketBridge.new 1 with reader := .ended, running := false }⟩, [])) ∧
    (IsoAccounted 1 isoRead (onePacket 192) (convertResponse isoRead (onePacket 192)
        ⟨⟨1⟩, (silentPort.executeTransfer (usbipToTransfer isoRead (onePacket 192) []) []).1⟩) ↔
      IsoAgrees isoRead (onePacket 192)) := by
  obtain ⟨unanswered, ends, numbers⟩ := iso_submit_never_accounted 1 isoRead (onePacket 192) []
    ⟨rfl, rfl, rfl⟩ ⟨rfl, by decide, rfl⟩
  refine ⟨unanswered isoSocket, ends _ [] ?_ rfl, numbers silentPort [] ⟨1⟩⟩
  rw [List.append_nil]
  exact holds_chunk _

/-- The kernel waits for an answer of a bridge that has stopped. -/
theorem iso_read_unanswered :
    ¬ ∀ (devid : UInt32) (header : UsbIpHeader) (cmd : UsbIpCmdSubmit) (data : List UInt8)
        (socket : Socket), (UsbIpMessage.submit header cmd data).WellFormed →
      cmd.IsIsochronous → Holds socket (UsbIpMessage.submit header cmd data).bytes →
        SocketBridge.AnswersAccounted devid socket header cmd := by
  intro law
  have answered := law 1 isoRead (onePacket 192) [] isoSocket ⟨rfl, rfl, rfl⟩
    ⟨rfl, by decide, rfl⟩ (holds_chunk _)
  exact SocketBridge.not_answers (by decide) answered

end P2pUsb
