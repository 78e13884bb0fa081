import P2pUsb.VirtualUsb.UsbIp

/-! The client's two conversions: a CMD_SUBMIT into a request to the server, and
the server's response into the RET_SUBMIT that is written to the kernel. -/
namespace P2pUsb
open ByteStream

def le16 (low high : UInt8) : UInt16 := low.toUInt16 ||| (high.toUInt16 <<< 8)

def noSetup : List.Vector UInt8 8 := .replicate 8 0

/-- The endpoint address: number and direction in one byte. -/
def UsbIpHeader.endpointAddress (header : UsbIpHeader) : UInt8 :=
  if header.direction = 1 then header.ep.toUInt8 ||| 0x80 else header.ep.toUInt8

/-- The data of a control request: a read without data gets the buffer. -/
def controlData (requestType : UInt8) (buffer data : List UInt8) : List UInt8 :=
  if requestType &&& 0x80 ≠ 0 ∧ data.isEmpty then buffer else data

/-- The transfer of `usbip_to_usb_request`. Reads carry a buffer of zeros that
tells the server how much to read. -/
def usbipToTransfer (header : UsbIpHeader) (cmd : UsbIpCmdSubmit) (data : List UInt8) :
    TransferType :=
  let buffer := List.replicate cmd.transferBufferLength.toNat 0
  if cmd.setup ≠ noSetup then
    let requestType := cmd.setup.get 0
    .control requestType (cmd.setup.get 1) (le16 (cmd.setup.get 2) (cmd.setup.get 3))
      (le16 (cmd.setup.get 4) (cmd.setup.get 5))
      (controlData requestType buffer data)
  else
    let transferData := if header.direction = 1 then buffer else data
    if cmd.numberOfPackets > 0 then
      .isochronous header.endpointAddress transferData
        (cmd.isoPackets.map fun p => ⟨p.offset, p.length, p.actualLength, p.status.toInt32⟩)
        cmd.startFrame cmd.interval 5000
    else if cmd.interval ≥ 1 then .interrupt header.endpointAddress transferData 5000
    else .bulk header.endpointAddress transferData 5000 none

def usbipToUsbRequest (handle : Option DeviceHandle) (header : UsbIpHeader)
    (cmd : UsbIpCmdSubmit) (data : List UInt8) : Except String UsbRequest :=
  match handle with
  | none => .error "Device not attached. Call attach() first."
  | some handle => .ok ⟨⟨header.seqnum.toNat⟩, handle, usbipToTransfer header cmd data⟩

structure UsbIpConvertedResponse where
  ret : UsbIpRetSubmit
  data : List UInt8
  isoPackets : List UsbIpIsoPacketDescriptor
  deriving DecidableEq, Repr

/-- Linux error numbers of the protocol's errors. -/
def UsbError.errno : UsbError → Int32
  | .timeout => -110
  | .pipe => -32
  | .noDevice => -19
  | .invalidParam => -22
  | .busy => -16
  | .overflow => -75
  | .io => -5
  | .access => -13
  | .notFound => -2
  | .other _ => -5

def usbResponseToUsbipFull (response : UsbResponse) : UsbIpConvertedResponse :=
  match response.result with
  | .success data _ => ⟨.success (.ofNat data.length), data, []⟩
  | .isochronousSuccess packets startFrame errorCount data =>
      ⟨⟨0, .ofNat data.length, startFrame, .ofNat packets.length, errorCount⟩, data,
        packets.map fun p => ⟨p.offset, p.length, p.actualLength, p.status.toUInt32⟩⟩
  | .error error => ⟨.error error.errno, [], []⟩

def usbResponseToUsbip (response : UsbResponse) : UsbIpRetSubmit × List UInt8 :=
  let converted := usbResponseToUsbipFull response
  (converted.ret, converted.data)

/-- `handle_cmd_submit_async`: the conversion of the response, and the clamp of
its data to the kernel's buffer on reads. -/
def convertResponse (header : UsbIpHeader) (cmd : UsbIpCmdSubmit) (response : UsbResponse) :
    UsbIpConvertedResponse :=
  let converted :=
    if cmd.numberOfPackets > 0 then usbResponseToUsbipFull response
    else
      let (ret, data) := usbResponseToUsbip response
      ⟨ret, data, []⟩
  if header.direction = 1 ∧ converted.data.length > cmd.transferBufferLength.toNat then
    { converted with
      data := converted.data.take cmd.transferBufferLength.toNat
      ret := { converted.ret with actualLength := cmd.transferBufferLength } }
  else converted

def retSubmitPadding : Nat := 8

/-- The message that `send_ret_submit_async` writes in one piece. -/
def retSubmitMessage (devid : UInt32) (request : UsbIpHeader) (c : UsbIpConvertedResponse) :
    List UInt8 :=
  let header :=
    { UsbIpHeader.new .retSubmit request.seqnum devid with
      direction := request.direction
      ep := request.ep }
  header.writeTo ++ (c.ret.writeTo ++ (List.replicate retSubmitPadding 0 ++
    (c.isoPackets.flatMap UsbIpIsoPacketDescriptor.writeTo ++ c.data)))

/-! The fields of the message where its reader looks for them. -/

def wordAt (message : List UInt8) (offset : Nat) : UInt32 :=
  .ofNat (fromBigEndian ((message.drop offset).take 4))

def statedStatus (message : List UInt8) : UInt32 := wordAt message 20
def statedActualLength (message : List UInt8) : UInt32 := wordAt message 24
def statedPackets (message : List UInt8) : UInt32 := wordAt message 32

/-- The size of header, payload and padding together. -/
def retSubmitHeaderSize : Nat := UsbIpHeader.size + UsbIpRetSubmit.size + retSubmitPadding

theorem word_at_append (front : List UInt8) (v : UInt32) (back : List UInt8) {offset : Nat}
    (len : front.length = offset) : wordAt (front ++ (writeU32 v ++ back)) offset = v := by
  have word : (writeU32 v ++ back).take 4 = writeU32 v :=
    List.take_left' (length_write_u32 v)
  rw [wordAt, List.drop_left' len, word, read_write_u32]

section
variable (devid : UInt32) (request : UsbIpHeader) (c : UsbIpConvertedResponse)

theorem stated_status :
    statedStatus (retSubmitMessage devid request c) = c.ret.status.toUInt32 := by
  unfold retSubmitMessage UsbIpRetSubmit.writeTo
  rw [List.append_assoc]
  exact word_at_append _ _ _ (UsbIpHeader.length_write _)

theorem stated_actual_length :
    statedActualLength (retSubmitMessage devid request c) = c.ret.actualLength := by
  unfold retSubmitMessage UsbIpRetSubmit.writeTo
  rw [List.append_assoc, List.append_assoc, ← List.append_assoc (UsbIpHeader.writeTo _)]
  refine word_at_append _ _ _ ?_
  rw [List.length_append, UsbIpHeader.length_write, length_write_u32]
  rfl

theorem stated_packets :
    statedPackets (retSubmitMessage devid request c) = c.ret.numberOfPackets := by
  unfold retSubmitMessage UsbIpRetSubmit.writeTo
  rw [List.append_assoc, List.append_assoc, List.append_assoc, List.append_assoc,
    ← List.append_assoc (UsbIpHeader.writeTo _), ← List.append_assoc (_ ++ _),
    ← List.append_assoc ((_ ++ _) ++ _)]
  refine word_at_append _ _ _ ?_
  rw [List.length_append, List.length_append, List.length_append, UsbIpHeader.length_write,
    length_write_u32, length_write_u32, length_write_u32]
  rfl

theorem length_ret_submit : (retSubmitMessage devid request c).length =
    retSubmitHeaderSize + (16 * c.isoPackets.length + c.data.length) := by
  have packets : (c.isoPackets.flatMap UsbIpIsoPacketDescriptor.writeTo).length =
      16 * c.isoPackets.length := by
    induction c.isoPackets with
    | nil => rfl
    | cons p ps ih =>
        rw [List.flatMap_cons, List.length_append, ih, UsbIpIsoPacketDescriptor.length_write,
          List.length_cons, UsbIpIsoPacketDescriptor.size]
        omega
  simp only [retSubmitMessage, List.length_append, packets, UsbIpHeader.length_write,
    UsbIpRetSubmit.length_write, List.length_replicate, retSubmitHeaderSize]
  omega

end

/-- What the kernel reads after the header is what the message holds, and it
fits the buffer of the request. -/
def Framed (request : UsbIpHeader) (cmd : UsbIpCmdSubmit) (message : List UInt8) : Prop :=
  message.length = retSubmitHeaderSize +
      ((if request.direction = 1 then (statedActualLength message).toNat else 0) +
        16 * (statedPackets message).toNat) ∧
    statedActualLength message ≤ cmd.transferBufferLength

/-- The results that answer the request in its own kind. For a request without
packets the descriptors of an isochronous result are counted but not written. -/
def Answers (request : UsbIpHeader) (cmd : UsbIpCmdSubmit) : TransferResult → Prop
  | .error _ => True
  | .success data _ => request.direction = 1 ∨ data = []
  | .isochronousSuccess packets _ _ data =>
      if cmd.numberOfPackets > 0 then
        packets.length < 2 ^ 32 ∧ (request.direction = 1 ∨ data = [])
      else if request.direction = 1 then packets.length % 2 ^ 32 = 0
      else data.length = 16 * (packets.length % 2 ^ 32) ∧
        data.length % 2 ^ 32 ≤ cmd.transferBufferLength.toNat

/-- The framing of a converted response before its clamp. -/
theorem framed_iff (devid : UInt32) (request : UsbIpHeader) (cmd : UsbIpCmdSubmit)
    (c : UsbIpConvertedResponse) : Framed request cmd (retSubmitMessage devid request c) ↔
      16 * c.isoPackets.length + c.data.length =
          (if request.direction = 1 then c.ret.actualLength.toNat else 0) +
            16 * c.ret.numberOfPackets.toNat ∧
        c.ret.actualLength.toNat ≤ cmd.transferBufferLength.toNat := by
  rw [Framed, stated_actual_length, stated_packets, length_ret_submit, UInt32.le_iff_toNat_le]
  refine and_congr_left fun _ => ?_
  omega

theorem framed_clamped (devid : UInt32) (request : UsbIpHeader) (cmd : UsbIpCmdSubmit)
    (ret : UsbIpRetSubmit) (data : List UInt8) (packets : List UsbIpIsoPacketDescriptor)
    (counted : ret.actualLength = .ofNat data.length) :
    (let c : UsbIpConvertedResponse := ⟨ret, data, packets⟩
     let clamped := if request.direction = 1 ∧ data.length > cmd.transferBufferLength.toNat then
        { c with
          data := data.take cmd.transferBufferLength.toNat
          ret := { ret with actualLength := cmd.transferBufferLength } }
        else c
     Framed request cmd (retSubmitMessage devid request clamped)) ↔
      (if request.direction = 1 then packets.length = ret.numberOfPackets.toNat
       else 16 * packets.length + data.length = 16 * ret.numberOfPackets.toNat ∧
        data.length % 2 ^ 32 ≤ cmd.transferBufferLength.toNat) := by
  have small := cmd.transferBufferLength.toNat_lt
  simp only
  rw [framed_iff]
  by_cases isIn : request.direction = 1
  · by_cases long : data.length > cmd.transferBufferLength.toNat
    · simp only [isIn, long, and_self, if_true, List.length_take,
        Nat.min_eq_left (Nat.le_of_lt long), le_refl, and_true]
      omega
    · have exact : (UInt32.ofNat data.length).toNat = data.length := by
        rw [UInt32.toNat_ofNat']
        omega
      simp only [isIn, long, and_false, if_true, if_false, counted, exact]
      omega
  · simp only [isIn, false_and, if_false, counted, UInt32.toNat_ofNat', Nat.zero_add]

/-- A RET_SUBMIT keeps the kernel's stream aligned if and only if the response
answers the request in its own kind. -/
theorem ret_submit_framed_iff (devid : UInt32) (header : UsbIpHeader) (cmd : UsbIpCmdSubmit)
    (response : UsbResponse) :
    Framed header cmd (retSubmitMessage devid header (convertResponse header cmd response)) ↔
      Answers header cmd response.result := by
  obtain ⟨id, result⟩ := response
  cases result with
  | error e =>
      have converted : convertResponse header cmd ⟨id, .error e⟩ = ⟨.error e.errno, [], []⟩ := by
        simp [convertResponse, usbResponseToUsbip, usbResponseToUsbipFull]
      rw [converted, framed_iff]
      simp [Answers, UsbIpRetSubmit.error]
  | success data checksum =>
      have clamped := framed_clamped devid header cmd (.success (.ofNat data.length)) data [] rfl
      have converted : (if cmd.numberOfPackets > 0 then
          usbResponseToUsbipFull ⟨id, .success data checksum⟩ else
          ⟨(usbResponseToUsbip ⟨id, .success data checksum⟩).1,
            (usbResponseToUsbip ⟨id, .success data checksum⟩).2, []⟩) =
          ⟨.success (.ofNat data.length), data, []⟩ := ite_self _
      simp only [convertResponse, converted]
      refine clamped.trans ?_
      by_cases isIn : header.direction = 1
      · simp [isIn, Answers, UsbIpRetSubmit.success]
      · simp only [isIn, Answers, UsbIpRetSubmit.success, if_false, false_or, List.length_nil,
          UInt32.toNat_zero, Nat.mul_zero, Nat.zero_add, List.length_eq_zero_iff]
        refine and_iff_left_of_imp fun empty => ?_
        rw [empty]
        exact Nat.zero_le _
  | isochronousSuccess packets startFrame errorCount data =>
      have clamped := framed_clamped devid header cmd
        ⟨0, .ofNat data.length, startFrame, .ofNat packets.length, errorCount⟩ data
      by_cases iso : cmd.numberOfPackets > 0
      · simp only [convertResponse, iso, if_true, usbResponseToUsbipFull]
        refine (clamped _ rfl).trans ?_
        simp only [Answers, iso, if_true, List.length_map, UInt32.toNat_ofNat']
        by_cases isIn : header.direction = 1
        · simp only [isIn, if_true, true_or, and_true]
          omega
        · simp only [isIn, if_false, false_or, ← List.length_eq_zero_iff]
          omega
      · simp only [convertResponse, iso, if_false, usbResponseToUsbip, usbResponseToUsbipFull]
        refine (clamped [] rfl).trans ?_
        simp only [Answers, iso, if_false, List.length_nil, UInt32.toNat_ofNat']
        by_cases isIn : header.direction = 1
        · simp only [isIn, if_true]
          omega
        · simp only [isIn, if_false, Nat.mul_zero, Nat.zero_add]

/-- Data on a write goes out although the kernel reads none, and a plain read
announces a descriptor that is not there. -/
theorem ret_submit_misframed :
    let out := UsbIpHeader.new .cmdSubmit 1 1
    let read := { out with direction := 1 }
    let cmd : UsbIpCmdSubmit := ⟨0, 4, 0, 0, 0, noSetup, []⟩
    ¬ Framed out cmd (retSubmitMessage 1 out (convertResponse out cmd
        ⟨⟨1⟩, .success [7, 8] none⟩)) ∧
      ¬ Framed read cmd (retSubmitMessage 1 read (convertResponse read cmd
        ⟨⟨1⟩, .isochronousSuccess [⟨0, 4, 4, 0⟩] 0 0 [1, 2, 3, 4]⟩)) := by
  constructor
  · rintro ⟨aligned, -⟩
    exact absurd aligned (by decide +kernel)
  · rintro ⟨aligned, -⟩
    exact absurd aligned (by decide +kernel)

end P2pUsb
