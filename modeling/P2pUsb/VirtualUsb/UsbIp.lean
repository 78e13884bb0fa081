import P2pUsb.Library.ByteStream
import P2pUsb.Protocol.Types

/-! The USB/IP messages between the kernel's `vhci_hcd` and the socket bridge.
All words are big-endian. -/
namespace P2pUsb
open ByteStream

/-- The kinds of I/O errors that the bridge tells apart. -/
inductive ErrorKind where
  | unexpectedEof | brokenPipe | connectionReset | other
  deriving DecidableEq, Repr

structure IoError where
  kind : ErrorKind
  text : String
  deriving DecidableEq, Repr

/-- The error of `read_exact` at the end of its input. -/
def IoError.fillBuffer : IoError := ⟨.unexpectedEof, "failed to fill whole buffer"⟩

inductive UsbIpCommand where
  | cmdSubmit | retSubmit | cmdUnlink | retUnlink
  deriving DecidableEq, Repr

/-- A word of 16 bits as `{:#06x}` prints it. -/
def hexWord (value : UInt16) : String :=
  "0x" ++ String.ofList ([12, 8, 4, 0].map fun shift =>
    Nat.digitChar (value.toNat / 2 ^ shift % 16))

namespace UsbIpCommand

def toU32 : UsbIpCommand → UInt32
  | cmdSubmit => 1
  | retSubmit => 3
  | cmdUnlink => 2
  | retUnlink => 4

def fromU16 (value : UInt16) : Except String UsbIpCommand :=
  if value = 0x0001 then .ok .cmdSubmit
  else if value = 0x0003 then .ok .retSubmit
  else if value = 0x0002 then .ok .cmdUnlink
  else if value = 0x0004 then .ok .retUnlink
  else .error ("Unknown USB/IP command: " ++ hexWord value)

end UsbIpCommand

structure UsbIpHeader where
  command : UInt32
  seqnum : UInt32
  devid : UInt32
  direction : UInt32
  ep : UInt32
  deriving DecidableEq, Repr

namespace UsbIpHeader

def size : Nat := 20

def new (command : UsbIpCommand) (seqnum devid : UInt32) : UsbIpHeader where
  command := command.toU32
  seqnum := seqnum
  devid := devid
  direction := 0
  ep := 0

def readFrom : Parser IoError UsbIpHeader := do
  let command ← readU32 IoError.fillBuffer
  let seqnum ← readU32 IoError.fillBuffer
  let devid ← readU32 IoError.fillBuffer
  let direction ← readU32 IoError.fillBuffer
  let ep ← readU32 IoError.fillBuffer
  return { command, seqnum, devid, direction, ep }

def writeTo (h : UsbIpHeader) : List UInt8 :=
  writeU32 h.command ++ (writeU32 h.seqnum ++ (writeU32 h.devid ++
    (writeU32 h.direction ++ writeU32 h.ep)))

/-- Only the lower half of the command word counts. -/
def commandType (h : UsbIpHeader) : Except String UsbIpCommand :=
  UsbIpCommand.fromU16 h.command.toUInt16

end UsbIpHeader

structure UsbIpIsoPacketDescriptor where
  offset : UInt32
  length : UInt32
  actualLength : UInt32
  status : UInt32
  deriving DecidableEq, Repr

namespace UsbIpIsoPacketDescriptor

def size : Nat := 16

def readFrom : Parser IoError UsbIpIsoPacketDescriptor := do
  let offset ← readU32 IoError.fillBuffer
  let length ← readU32 IoError.fillBuffer
  let actualLength ← readU32 IoError.fillBuffer
  let status ← readU32 IoError.fillBuffer
  return { offset, length, actualLength, status }

def writeTo (p : UsbIpIsoPacketDescriptor) : List UInt8 :=
  writeU32 p.offset ++ (writeU32 p.length ++ (writeU32 p.actualLength ++ writeU32 p.status))

end UsbIpIsoPacketDescriptor

structure UsbIpCmdSubmit where
  transferFlags : UInt32
  transferBufferLength : UInt32
  startFrame : UInt32
  numberOfPackets : UInt32
  interval : UInt32
  setup : List.Vector UInt8 8
  isoPackets : List UsbIpIsoPacketDescriptor
  deriving DecidableEq

namespace UsbIpCmdSubmit

def size : Nat := 28

/-- The fields of `read_from` before its descriptors. -/
def readFixed : Parser IoError UsbIpCmdSubmit := do
  let transferFlags ← readU32 IoError.fillBuffer
  let transferBufferLength ← readU32 IoError.fillBuffer
  let startFrame ← readU32 IoError.fillBuffer
  let numberOfPackets ← readU32 IoError.fillBuffer
  let interval ← readU32 IoError.fillBuffer
  let setup ← takeBytes IoError.fillBuffer 8
  return { transferFlags, transferBufferLength, startFrame, numberOfPackets, interval, setup,
           isoPackets := [] }

def readFrom : Parser IoError UsbIpCmdSubmit := do
  let cmd ← readFixed
  let isoPackets ← readTimes UsbIpIsoPacketDescriptor.readFrom cmd.numberOfPackets.toNat
  return { cmd with isoPackets }

def writeFixed (cmd : UsbIpCmdSubmit) : List UInt8 :=
  writeU32 cmd.transferFlags ++ (writeU32 cmd.transferBufferLength ++ (writeU32 cmd.startFrame ++
    (writeU32 cmd.numberOfPackets ++ (writeU32 cmd.interval ++ cmd.setup.toList))))

def writeTo (cmd : UsbIpCmdSubmit) : List UInt8 :=
  cmd.writeFixed ++ cmd.isoPackets.flatMap UsbIpIsoPacketDescriptor.writeTo

end UsbIpCmdSubmit

structure UsbIpRetSubmit where
  status : Int32
  actualLength : UInt32
  startFrame : UInt32
  numberOfPackets : UInt32
  errorCount : UInt32
  deriving DecidableEq, Repr

namespace UsbIpRetSubmit

def size : Nat := 20

def success (actualLength : UInt32) : UsbIpRetSubmit := ⟨0, actualLength, 0, 0, 0⟩

def error (status : Int32) : UsbIpRetSubmit := ⟨status, 0, 0, 0, 0⟩

def writeTo (ret : UsbIpRetSubmit) : List UInt8 :=
  writeU32 ret.status.toUInt32 ++ (writeU32 ret.actualLength ++ (writeU32 ret.startFrame ++
    (writeU32 ret.numberOfPackets ++ writeU32 ret.errorCount)))

end UsbIpRetSubmit

structure UsbIpCmdUnlink where
  seqnumUnlink : UInt32
  deriving DecidableEq, Repr

namespace UsbIpCmdUnlink

def readFrom : Parser IoError UsbIpCmdUnlink := do
  let seqnumUnlink ← readU32 IoError.fillBuffer
  return { seqnumUnlink }

end UsbIpCmdUnlink

inductive UsbIpMessage where
  | submit (header : UsbIpHeader) (cmd : UsbIpCmdSubmit) (data : List UInt8)
  | unlink (header : UsbIpHeader) (cmd : UsbIpCmdUnlink)
  deriving DecidableEq

/-! What is written is read back. -/

@[simp] theorem UsbIpHeader.length_write (h : UsbIpHeader) : h.writeTo.length = size := by
  simp [writeTo, size]

@[simp] theorem UsbIpIsoPacketDescriptor.length_write (p : UsbIpIsoPacketDescriptor) :
    p.writeTo.length = size := by
  simp [writeTo, size]

@[simp] theorem UsbIpCmdSubmit.length_write_fixed (cmd : UsbIpCmdSubmit) :
    cmd.writeFixed.length = size := by
  simp [writeFixed, size]

@[simp] theorem UsbIpRetSubmit.length_write (ret : UsbIpRetSubmit) : ret.writeTo.length = size := by
  simp [writeTo, size]

theorem UsbIpHeader.reads (h : UsbIpHeader) : Reads readFrom h.writeTo h := by
  refine (reads_u32 _ h.command).bind ?_
  refine (reads_u32 _ h.seqnum).bind ?_
  refine (reads_u32 _ h.devid).bind ?_
  refine (reads_u32 _ h.direction).bind ?_
  exact (reads_u32 _ h.ep).last rfl

theorem UsbIpIsoPacketDescriptor.reads (p : UsbIpIsoPacketDescriptor) :
    Reads readFrom p.writeTo p := by
  refine (reads_u32 _ p.offset).bind ?_
  refine (reads_u32 _ p.length).bind ?_
  refine (reads_u32 _ p.actualLength).bind ?_
  exact (reads_u32 _ p.status).last rfl

theorem UsbIpCmdSubmit.reads_fixed (cmd : UsbIpCmdSubmit) :
    Reads readFixed cmd.writeFixed { cmd with isoPackets := [] } := by
  refine (reads_u32 _ cmd.transferFlags).bind ?_
  refine (reads_u32 _ cmd.transferBufferLength).bind ?_
  refine (reads_u32 _ cmd.startFrame).bind ?_
  refine (reads_u32 _ cmd.numberOfPackets).bind ?_
  refine (reads_u32 _ cmd.interval).bind ?_
  exact (reads_take _ cmd.setup.2).last rfl

/-- In one buffer with its descriptors a command is read back whole. -/
theorem UsbIpCmdSubmit.reads (cmd : UsbIpCmdSubmit)
    (counted : cmd.numberOfPackets.toNat = cmd.isoPackets.length) :
    Reads readFrom cmd.writeTo cmd := by
  refine cmd.reads_fixed.bind ?_
  have packets := reads_times UsbIpIsoPacketDescriptor.reads cmd.isoPackets
  rw [← counted] at packets
  exact packets.last rfl

theorem UsbIpCmdUnlink.reads (cmd : UsbIpCmdUnlink) :
    Reads readFrom (writeU32 cmd.seqnumUnlink) cmd :=
  (reads_u32 _ cmd.seqnumUnlink).last rfl

theorem UsbIpHeader.sized : Sized readFrom size := by
  change Sized readFrom (4 + (4 + (4 + (4 + 4))))
  refine (sized_u32 _).bind fun command => ?_
  refine (sized_u32 _).bind fun seqnum => ?_
  refine (sized_u32 _).bind fun devid => ?_
  refine (sized_u32 _).bind fun direction => ?_
  exact (sized_u32 _).map (UsbIpHeader.mk command seqnum devid direction)

theorem UsbIpCmdSubmit.sized_fixed : Sized readFixed size := by
  change Sized readFixed (4 + (4 + (4 + (4 + (4 + 8)))))
  refine (sized_u32 _).bind fun flags => ?_
  refine (sized_u32 _).bind fun length => ?_
  refine (sized_u32 _).bind fun startFrame => ?_
  refine (sized_u32 _).bind fun packets => ?_
  refine (sized_u32 _).bind fun interval => ?_
  exact (sized_take _ 8).map fun setup =>
    UsbIpCmdSubmit.mk flags length startFrame packets interval setup []

theorem UsbIpCmdUnlink.sized : Sized readFrom 4 := (sized_u32 _).map _

/-- A buffer that ends after the fixed fields has no descriptors to read. -/
theorem UsbIpCmdSubmit.read_fixed_alone {buf : List UInt8} {cmd : UsbIpCmdSubmit}
    (fixed : readFixed buf = .ok (cmd, [])) :
    readFrom buf =
      if cmd.numberOfPackets = 0 then .ok ({ cmd with isoPackets := [] }, [])
      else .error IoError.fillBuffer := by
  change (readFixed buf >>= fun r => _) = _
  rw [fixed]
  change (readTimes UsbIpIsoPacketDescriptor.readFrom cmd.numberOfPackets.toNat [] >>= _) = _
  split
  case isTrue none =>
    rw [none]
    rfl
  case isFalse some =>
    obtain ⟨n, count⟩ : ∃ n, cmd.numberOfPackets.toNat = n + 1 :=
      Nat.exists_eq_succ_of_ne_zero fun zero => some (UInt32.toNat_inj.mp zero)
    have empty : Fails (readTimes UsbIpIsoPacketDescriptor.readFrom (n + 1)) []
        IoError.fillBuffer :=
      (((take_short _ (by decide)).first _).first _).first _
    rw [count, empty]
    rfl

end P2pUsb
