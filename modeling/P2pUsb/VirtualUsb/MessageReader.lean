import P2pUsb.VirtualUsb.UsbIp

/-! How the bridge takes one message off the kernel's socket, and when a stream
of written requests is read back. -/
namespace P2pUsb
open ByteStream

abbrev Socket := Arrivals IoError

/-- The errors of `read_usbip_message_blocking`, by the place they come from. -/
inductive ReadError where
  | header (e : IoError)
  | decode (e : IoError)
  | command (text : String)
  | submitPayload (e : IoError)
  | transferData (e : IoError)
  | unlinkPayload (e : IoError)
  | unexpected (cmd : UsbIpCommand)
  deriving DecidableEq, Repr

def UsbIpCommand.debug : UsbIpCommand → String
  | cmdSubmit => "CmdSubmit"
  | retSubmit => "RetSubmit"
  | cmdUnlink => "CmdUnlink"
  | retUnlink => "RetUnlink"

/-- What `to_string` gives: of an error with context only the context. -/
def ReadError.display : ReadError → String
  | header e => "Failed to read USB/IP header: " ++ e.text
  | decode e => e.text
  | command text => text
  | submitPayload _ => "Failed to read CMD_SUBMIT payload"
  | transferData _ => "Failed to read transfer data"
  | unlinkPayload _ => "Failed to read CMD_UNLINK payload"
  | unexpected cmd => "Unexpected command type in read_usbip_message: " ++ cmd.debug

/-- The branch of a CMD_SUBMIT header. The descriptors are read from the buffer
of the fixed fields. -/
def readSubmitBlocking (header : UsbIpHeader) (socket : Socket) :
    Except ReadError UsbIpMessage × Socket :=
  match readExact IoError.fillBuffer UsbIpCmdSubmit.size socket with
  | (.error e, socket) => (.error (.submitPayload e), socket)
  | (.ok cmdBuf, socket) =>
      match UsbIpCmdSubmit.readFrom cmdBuf with
      | .error e => (.error (.decode e), socket)
      | .ok (cmd, _) =>
          if header.direction = 0 ∧ 0 < cmd.transferBufferLength then
            match readExact IoError.fillBuffer cmd.transferBufferLength.toNat socket with
            | (.error e, socket) => (.error (.transferData e), socket)
            | (.ok data, socket) => (.ok (.submit header cmd data), socket)
          else (.ok (.submit header cmd []), socket)

/-- The size of the largest member of the kernel's header union. -/
def unionSize : Nat := 28

def readUnlinkBlocking (header : UsbIpHeader) (socket : Socket) :
    Except ReadError UsbIpMessage × Socket :=
  match readExact IoError.fillBuffer unionSize socket with
  | (.error e, socket) => (.error (.unlinkPayload e), socket)
  | (.ok unlinkBuf, socket) =>
      match UsbIpCmdUnlink.readFrom unlinkBuf with
      | .error e => (.error (.decode e), socket)
      | .ok (cmd, _) => (.ok (.unlink header cmd), socket)

def readUsbipMessageBlocking (socket : Socket) : Except ReadError UsbIpMessage × Socket :=
  match readExact IoError.fillBuffer UsbIpHeader.size socket with
  | (.error e, socket) => (.error (.header e), socket)
  | (.ok headerBuf, socket) =>
      match UsbIpHeader.readFrom headerBuf with
      | .error e => (.error (.decode e), socket)
      | .ok (header, _) =>
          match header.commandType with
          | .error text => (.error (.command text), socket)
          | .ok .cmdSubmit => readSubmitBlocking header socket
          | .ok .cmdUnlink => readUnlinkBlocking header socket
          | .ok cmd => (.error (.unexpected cmd), socket)

namespace UsbIpMessage

/-- A request as `write_to` of its parts and its data put it on the stream. -/
def bytes : UsbIpMessage → List UInt8
  | submit header cmd data => header.writeTo ++ (cmd.writeTo ++ data)
  | unlink header cmd =>
      header.writeTo ++ (writeU32 cmd.seqnumUnlink ++ List.replicate (unionSize - 4) 0)

/-- The lengths that a request states are those of what it carries. -/
def WellFormed : UsbIpMessage → Prop
  | submit header cmd data =>
      header.commandType = .ok .cmdSubmit ∧
        cmd.numberOfPackets.toNat = cmd.isoPackets.length ∧
        if header.direction = 0 then data.length = cmd.transferBufferLength.toNat else data = []
  | unlink header _ => header.commandType = .ok .cmdUnlink

def isoPackets : UsbIpMessage → List UsbIpIsoPacketDescriptor
  | submit _ cmd _ => cmd.isoPackets
  | unlink _ _ => []

end UsbIpMessage

variable {header : UsbIpHeader} {cmd : UsbIpCmdSubmit} {data rest : List UInt8} {s : Socket}

/-- The header comes off a stream without errors, and its command decides. -/
theorem read_header (h : Holds s (header.writeTo ++ rest)) : ∃ t, Holds t rest ∧
    readUsbipMessageBlocking s = match header.commandType with
      | .error text => (.error (.command text), t)
      | .ok .cmdSubmit => readSubmitBlocking header t
      | .ok .cmdUnlink => readUnlinkBlocking header t
      | .ok cmd => (.error (.unexpected cmd), t) := by
  obtain ⟨t, got, left⟩ := h.read_eq IoError.fillBuffer header.length_write
  refine ⟨t, left, ?_⟩
  rw [readUsbipMessageBlocking, got]
  simp only [header.reads.alone]

/-- The rest of a CMD_SUBMIT once its fixed part is there. -/
theorem read_submit_parsed {t : Socket} {buf : List UInt8}
    (got : readExact IoError.fillBuffer UsbIpCmdSubmit.size s = (.ok buf, t))
    (fixed : UsbIpCmdSubmit.readFixed buf = .ok (cmd, [])) :
    readSubmitBlocking header s =
      if cmd.numberOfPackets = 0 then
        if header.direction = 0 ∧ 0 < cmd.transferBufferLength then
          match readExact IoError.fillBuffer cmd.transferBufferLength.toNat t with
          | (.error e, u) => (.error (.transferData e), u)
          | (.ok data, u) => (.ok (.submit header { cmd with isoPackets := [] } data), u)
        else (.ok (.submit header { cmd with isoPackets := [] } []), t)
      else (.error (.decode IoError.fillBuffer), t) := by
  have parsed := UsbIpCmdSubmit.read_fixed_alone fixed
  rw [readSubmitBlocking, got]
  by_cases none : cmd.numberOfPackets = 0
  · simp only [parsed, if_pos none]
  · simp only [parsed, if_neg none]

theorem receives_submit (wf : (UsbIpMessage.submit header cmd data).WellFormed)
    (plain : cmd.isoPackets = []) :
    Receives readUsbipMessageBlocking (UsbIpMessage.submit header cmd data).bytes
      (.submit header cmd data) := by
  obtain ⟨type, counted, sized⟩ := wf
  have none : cmd.numberOfPackets = 0 := by
    rw [plain] at counted
    exact UInt32.toNat_inj.mp counted
  have same : { cmd with isoPackets := [] } = cmd := by rw [← plain]
  intro s rest h
  rw [UsbIpMessage.bytes, UsbIpCmdSubmit.writeTo, plain, List.flatMap_nil, List.append_nil,
    List.append_assoc, List.append_assoc] at h
  obtain ⟨t, held, decided⟩ := read_header h
  obtain ⟨u, got, left⟩ := held.read_eq IoError.fillBuffer cmd.length_write_fixed
  have submitted : readSubmitBlocking header t = _ :=
    read_submit_parsed got cmd.reads_fixed.alone
  rw [decided, type]
  simp only [submitted, if_pos none, same]
  split at sized
  case isTrue out =>
    obtain ⟨v, got, last⟩ := left.read_eq IoError.fillBuffer sized
    by_cases some : 0 < cmd.transferBufferLength
    · rw [if_pos ⟨out, some⟩, got]
      exact ⟨rfl, last⟩
    · have zero : cmd.transferBufferLength.toNat = 0 := by
        rw [UInt32.lt_iff_toNat_lt] at some
        exact Nat.eq_zero_of_not_pos some
      have empty : data = [] := List.eq_nil_of_length_eq_zero (sized.trans zero)
      rw [if_neg fun both => some both.2, empty]
      rw [empty] at left
      exact ⟨rfl, left⟩
  case isFalse other =>
    rw [if_neg fun both => other both.1, sized]
    rw [sized] at left
    exact ⟨rfl, left⟩

/-- The descriptors are looked for where the fixed fields have used everything up. -/
theorem read_iso (type : header.commandType = .ok .cmdSubmit) (some : cmd.numberOfPackets ≠ 0)
    (h : Holds s ((UsbIpMessage.submit header cmd data).bytes ++ rest)) :
    ∃ t, readUsbipMessageBlocking s = (.error (.decode IoError.fillBuffer), t) := by
  rw [UsbIpMessage.bytes, UsbIpCmdSubmit.writeTo, List.append_assoc, List.append_assoc,
    List.append_assoc] at h
  obtain ⟨t, held, decided⟩ := read_header h
  obtain ⟨u, got, -⟩ := held.read_eq IoError.fillBuffer cmd.length_write_fixed
  have submitted : readSubmitBlocking header t = _ :=
    read_submit_parsed got cmd.reads_fixed.alone
  rw [decided, type]
  simp only [submitted, if_neg some]
  exact ⟨u, rfl⟩

theorem refuses_iso (wf : (UsbIpMessage.submit header cmd data).WellFormed)
    (packets : cmd.isoPackets ≠ []) :
    Refuses readUsbipMessageBlocking (UsbIpMessage.submit header cmd data).bytes := by
  obtain ⟨type, counted, -⟩ := wf
  have some : ¬ cmd.numberOfPackets = 0 := by
    intro zero
    rw [zero] at counted
    exact packets (List.eq_nil_of_length_eq_zero counted.symm)
  intro s rest h
  obtain ⟨t, failed⟩ := read_iso type some h
  exact ⟨_, congrArg Prod.fst failed⟩

theorem receives_unlink {unlink : UsbIpCmdUnlink}
    (wf : (UsbIpMessage.unlink header unlink).WellFormed) :
    Receives readUsbipMessageBlocking (UsbIpMessage.unlink header unlink).bytes
      (.unlink header unlink) := by
  intro s rest h
  rw [UsbIpMessage.bytes, List.append_assoc] at h
  obtain ⟨t, held, decided⟩ := read_header h
  have sized : (writeU32 unlink.seqnumUnlink ++ List.replicate (unionSize - 4) 0).length =
      unionSize := by
    simp [unionSize]
  obtain ⟨u, got, left⟩ := held.read_eq IoError.fillBuffer sized
  rw [decided, show header.commandType = .ok .cmdUnlink from wf]
  simp only [readUnlinkBlocking, got, unlink.reads (List.replicate (unionSize - 4) 0),
    true_and]
  exact left

/-- The reader can read a request exactly when it carries no descriptors. -/
theorem receives_or_refuses {m : UsbIpMessage} (wf : m.WellFormed) :
    (m.isoPackets = [] ∧ Receives readUsbipMessageBlocking m.bytes m) ∨
      (m.isoPackets ≠ [] ∧ Refuses readUsbipMessageBlocking m.bytes) := by
  cases m with
  | submit header cmd data =>
      by_cases plain : cmd.isoPackets = []
      · exact .inl ⟨plain, receives_submit wf plain⟩
      · exact .inr ⟨plain, refuses_iso wf plain⟩
  | unlink header unlink => exact .inl ⟨rfl, receives_unlink wf⟩

/-- Requests written one after the other are read back, all of them and nothing
else, if and only if none of them is isochronous. -/
theorem request_stream_round_trip (ms : List UsbIpMessage) (wf : ∀ m ∈ ms, m.WellFormed)
    (s : Socket) (h : Holds s (ms.flatMap UsbIpMessage.bytes)) :
    ((repeatRead readUsbipMessageBlocking ms.length s).1 = .ok ms ∧
      unread (repeatRead readUsbipMessageBlocking ms.length s).2 = []) ↔
      ∀ m ∈ ms, m.isoPackets = [] := by
  have h' : Holds s (ms.flatMap UsbIpMessage.bytes ++ []) := by rwa [List.append_nil]
  constructor
  · rintro ⟨all, -⟩ m present
    rcases receives_or_refuses (wf m present) with ⟨plain, -⟩ | ⟨-, refused⟩
    · exact plain
    have each : ∀ a ∈ ms, Receives readUsbipMessageBlocking a.bytes a ∨
        Refuses readUsbipMessageBlocking a.bytes := by
      intro a ha
      exact (receives_or_refuses (wf a ha)).imp And.right And.right
    obtain ⟨e, failed⟩ := refuses_all present refused each s [] h'
    rw [failed] at all
    cases all
  · intro plain
    have each : ∀ m ∈ ms, Receives readUsbipMessageBlocking m.bytes m := by
      intro m present
      rcases receives_or_refuses (wf m present) with ⟨-, received⟩ | ⟨packets, -⟩
      · exact received
      · exact absurd (plain m present) packets
    obtain ⟨all, left⟩ := receives_all each s [] h'
    exact ⟨all, left.1⟩

def exampleBulkOut : UsbIpMessage :=
  .submit { UsbIpHeader.new .cmdSubmit 1 1 with ep := 2 }
    ⟨0, 3, 0, 0, 0, .replicate 8 0, []⟩ [7, 8, 9]

def exampleUnlink : UsbIpMessage := .unlink (.new .cmdUnlink 2 1) ⟨1⟩

def exampleIsoIn : UsbIpMessage :=
  .submit { UsbIpHeader.new .cmdSubmit 3 1 with direction := 1, ep := 4 }
    ⟨0, 192, 0, 1, 1, .replicate 8 0, [⟨0, 192, 0, 0⟩]⟩ []

theorem request_stream_round_trip_example :
    (repeatRead readUsbipMessageBlocking 2
        [.chunk ([exampleBulkOut, exampleUnlink].flatMap UsbIpMessage.bytes)]).1 =
      .ok [exampleBulkOut, exampleUnlink] ∧
    unread (repeatRead readUsbipMessageBlocking 2
        [.chunk ([exampleBulkOut, exampleUnlink].flatMap UsbIpMessage.bytes)]).2 = [] := by
  have wf : ∀ m ∈ [exampleBulkOut, exampleUnlink], m.WellFormed := by
    intro m present
    rcases List.mem_cons.mp present with rfl | last
    · exact ⟨rfl, rfl, rfl⟩
    · cases List.mem_singleton.mp last
      exact rfl
  refine (request_stream_round_trip [exampleBulkOut, exampleUnlink] wf _ (holds_chunk _)).mpr ?_
  intro m present
  rcases List.mem_cons.mp present with rfl | last
  · rfl
  · cases List.mem_singleton.mp last
    rfl

/-- The descriptor of a packet is still on the stream when it is looked for in
the buffer of the fixed fields. -/
theorem iso_request_not_read_back :
    exampleIsoIn.WellFormed ∧
      ¬ (repeatRead readUsbipMessageBlocking 1 [.chunk exampleIsoIn.bytes]).1 =
        .ok [exampleIsoIn] := by
  have wf : exampleIsoIn.WellFormed := ⟨rfl, rfl, rfl⟩
  refine ⟨wf, fun read => ?_⟩
  have refused := refuses_iso wf (List.cons_ne_nil _ _)
  have each : ∀ m ∈ [exampleIsoIn], Receives readUsbipMessageBlocking m.bytes m ∨
      Refuses readUsbipMessageBlocking m.bytes := by
    intro m present
    cases List.mem_singleton.mp present
    exact .inr refused
  have held : Holds ([.chunk exampleIsoIn.bytes] : Socket)
      ([exampleIsoIn].flatMap UsbIpMessage.bytes ++ []) := by
    rw [List.flatMap_singleton, List.append_nil]
    exact holds_chunk _
  obtain ⟨e, failed⟩ := refuses_all List.mem_cons_self refused each _ [] held
  rw [List.length_singleton, read] at failed
  cases failed

end P2pUsb
