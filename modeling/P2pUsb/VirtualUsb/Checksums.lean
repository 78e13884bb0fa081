import P2pUsb.Usb.Transfers
import P2pUsb.VirtualUsb.Conversion

/-! The checksums of bulk data: where they are computed and compared, and what the requests of
the kernel see of it. -/
namespace P2pUsb

/-- The submits that `usbip_to_usb_request` makes a bulk transfer of. -/
def UsbIpCmdSubmit.IsBulk (cmd : UsbIpCmdSubmit) : Prop :=
  cmd.setup = noSetup ∧ cmd.numberOfPackets = 0 ∧ cmd.interval = 0

def TransferResult.Corrupt (computeChecksum : List UInt8 → UInt32) : TransferResult → Prop
  | .success data (some expected) => computeChecksum data ≠ expected
  | _ => False

/-- The request has a checksum, and the server compares it before it writes. -/
def UsbPort.Verified (port : UsbPort) (transfer : TransferType) : Prop :=
  ∃ endpoint data timeoutMs checksum, transfer = .bulk endpoint data timeoutMs (some checksum) ∧
    ∀ log, port.computeChecksum data ≠ checksum →
      port.executeTransfer transfer log = (.error (.other "Checksum mismatch"), log)

def Withheld (message : List UInt8) : Prop :=
  statedStatus message ≠ 0 ∧ message.length = retSubmitHeaderSize

/-- No corrupt data of a read reaches the kernel, and no unchecked data of a write the device. -/
structure ChecksumsEnforced (port : UsbPort) (devid : UInt32) (header : UsbIpHeader)
    (cmd : UsbIpCmdSubmit) (data : List UInt8) (response : UsbResponse) : Prop where
  read : header.direction = 1 → response.result.Corrupt port.computeChecksum →
    Withheld (retSubmitMessage devid header (convertResponse header cmd response))
  write : header.direction ≠ 1 → port.Verified (usbipToTransfer header cmd data)

/-! ### The proxy's own bulk transfer -/

namespace DeviceProxy

/-- The request of `bulk_transfer`. -/
def bulkRequest (computeChecksum : List UInt8 → UInt32) (handle : DeviceHandle) (id : RequestId)
    (endpoint : UInt8) (data : List UInt8) (timeoutMs : UInt32) : UsbRequest :=
  let isIn := endpoint &&& 0x80 ≠ 0
  ⟨id, handle,
    .bulk endpoint data timeoutMs (if ¬isIn then some (computeChecksum data) else none)⟩

def bulkResponse (computeChecksum : List UInt8 → UInt32) (id : RequestId) (endpoint : UInt8)
    (response : UsbResponse) : UsbResponse :=
  match response.result with
  | .success data (some expected) =>
      if endpoint &&& 0x80 ≠ 0 ∧ computeChecksum data ≠ expected then
        ⟨id, .error (.other "Checksum mismatch")⟩
      else response
  | _ => response

end DeviceProxy

variable {endpoint : UInt8}

theorem bulk_out_verified (port : UsbPort) (isOut : endpoint &&& 0x80 = 0) (data : List UInt8)
    (timeoutMs checksum : UInt32) :
    port.Verified (.bulk endpoint data timeoutMs (some checksum)) := by
  refine ⟨endpoint, data, timeoutMs, checksum, rfl, fun log other => ?_⟩
  have mismatch : (some checksum).any (fun expected => port.computeChecksum data != expected) =
      true := bne_iff_ne.mpr other
  rw [UsbPort.executeTransfer, UsbPort.executeBulkTransfer, if_neg (not_not.mpr isOut),
    if_pos mismatch]

theorem DeviceProxy.bulk_transfer_enforces (port : UsbPort) (handle : DeviceHandle)
    (id : RequestId) (data : List UInt8) (timeoutMs : UInt32) (response : UsbResponse) :
    (endpoint &&& 0x80 ≠ 0 →
      ¬ (bulkResponse port.computeChecksum id endpoint response).result.Corrupt
        port.computeChecksum) ∧
    (endpoint &&& 0x80 = 0 →
      port.Verified
        (bulkRequest port.computeChecksum handle id endpoint data timeoutMs).transfer) := by
  refine ⟨fun isIn => ?_, fun isOut => ?_⟩
  · unfold bulkResponse
    split
    case h_1 payload expected success =>
      by_cases same : port.computeChecksum payload = expected
      · simp only [same, ne_eq, not_true_eq_false, and_false, if_false]
        rw [success]
        exact fun corrupt => corrupt same
      · rw [if_pos ⟨isIn, same⟩]
        exact not_false
    case h_2 other =>
      intro corrupt
      unfold TransferResult.Corrupt at corrupt
      split at corrupt
      case h_1 payload expected success => exact other payload expected success
      case h_2 => exact corrupt
  · have checked : (bulkRequest port.computeChecksum handle id endpoint data timeoutMs).transfer =
        .bulk endpoint data timeoutMs (some (port.computeChecksum data)) := by
      simp [bulkRequest, isOut]
    rw [checked]
    exact bulk_out_verified port isOut data timeoutMs _

/-! ### The requests of the kernel -/

theorem bulk_unchecked (header : UsbIpHeader) {cmd : UsbIpCmdSubmit} (bulk : cmd.IsBulk)
    (data : List UInt8) : usbipToTransfer header cmd data =
      .bulk header.endpointAddress
        (if header.direction = 1 then List.replicate cmd.transferBufferLength.toNat 0 else data)
        5000 none := by
  obtain ⟨setup, packets, interval⟩ := bulk
  unfold usbipToTransfer
  rw [if_neg (not_not.mpr setup), packets, interval, if_neg (by decide), if_neg (by decide)]

theorem convert_success_status (header : UsbIpHeader) (cmd : UsbIpCmdSubmit) (id : RequestId)
    (data : List UInt8) (checksum : Option UInt32) :
    (convertResponse header cmd ⟨id, .success data checksum⟩).ret.status = 0 := by
  simp only [convertResponse, usbResponseToUsbip, usbResponseToUsbipFull, ite_self]
  split <;> rfl

/-- The bridge asks for no checksum and looks at none. -/
theorem checksums_enforced_iff (port : UsbPort) (devid : UInt32) (header : UsbIpHeader)
    (cmd : UsbIpCmdSubmit) (data : List UInt8) (response : UsbResponse) (bulk : cmd.IsBulk) :
    ChecksumsEnforced port devid header cmd data response ↔
      header.direction = 1 ∧ ¬ response.result.Corrupt port.computeChecksum := by
  constructor
  · intro enforced
    have isIn : header.direction = 1 := by
      by_contra isOut
      obtain ⟨endpoint, sent, timeoutMs, checksum, checked, -⟩ := enforced.write isOut
      cases (bulk_unchecked header bulk data).symm.trans checked
    refine ⟨isIn, fun corrupt => ?_⟩
    have withheld := (enforced.read isIn corrupt).1
    obtain ⟨id, result⟩ := response
    cases result with
    | error e => exact corrupt
    | isochronousSuccess packets startFrame errorCount payload => exact corrupt
    | success payload checksum =>
        rw [stated_status, convert_success_status] at withheld
        exact withheld rfl
  · rintro ⟨isIn, sound⟩
    exact ⟨fun _ corrupt => (sound corrupt).elim, fun isOut => (isOut isIn).elim⟩

/-- The port of a server whose CRC of one zero byte is the real one. -/
def crcPort : UsbPort where
  read _ _ := .ok [0]
  write _ _ := .ok 1
  clearHalt _ _ := .ok ()
  errorText _ := "error"
  computeChecksum _ := 0xd202ef8d

def bulkRead : UsbIpHeader := { UsbIpHeader.new .cmdSubmit 1 1 with direction := 1, ep := 2 }

theorem read_enforced_iff_of_zero :
    ChecksumsEnforced crcPort 1 bulkRead ⟨0, 1, 0, 0, 0, noSetup, []⟩ []
        ⟨⟨1⟩, .success [0] (some 0xd202ef8d)⟩ ↔
      bulkRead.direction = 1 ∧
        ¬ (TransferResult.success [0] (some 0xd202ef8d)).Corrupt crcPort.computeChecksum :=
  checksums_enforced_iff crcPort 1 bulkRead _ [] _ ⟨rfl, rfl, rfl⟩

/-- Another checksum, and the byte reaches the kernel all the same. -/
theorem corrupt_read_delivered :
    ¬ (∀ (port : UsbPort) (devid : UInt32) (header : UsbIpHeader) (cmd : UsbIpCmdSubmit)
      (data : List UInt8) (response : UsbResponse), cmd.IsBulk →
        ChecksumsEnforced port devid header cmd data response) := by
  intro law
  have enforced := law crcPort 1 bulkRead ⟨0, 1, 0, 0, 0, noSetup, []⟩ []
    ⟨⟨1⟩, .success [0] (some 0)⟩ ⟨rfl, rfl, rfl⟩
  have withheld := enforced.read rfl (show (0xd202ef8d : UInt32) ≠ 0 by decide)
  rw [Withheld, stated_status, convert_success_status] at withheld
  exact withheld.1 rfl

end P2pUsb
