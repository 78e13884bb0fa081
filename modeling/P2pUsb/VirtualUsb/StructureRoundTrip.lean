import P2pUsb.VirtualUsb.UsbIp

/-! The three structures of the USB/IP stream: what is written is read back, and what is
read is exactly what would be written. -/
namespace P2pUsb
open ByteStream

theorem UsbIpHeader.spells : Spells readFrom writeTo := by
  intro bs header rest read
  obtain ⟨command, afterCommand, readCommand, read⟩ := bind_ok read
  obtain ⟨seqnum, afterSeqnum, readSeqnum, read⟩ := bind_ok read
  obtain ⟨devid, afterDevid, readDevid, read⟩ := bind_ok read
  obtain ⟨direction, afterDirection, readDirection, read⟩ := bind_ok read
  obtain ⟨ep, afterEp, readEp, last⟩ := bind_ok read
  obtain ⟨rfl, rfl⟩ := Prod.mk.inj (Except.ok.inj last)
  rw [spells_u32 _ _ _ _ readCommand, spells_u32 _ _ _ _ readSeqnum, spells_u32 _ _ _ _ readDevid,
    spells_u32 _ _ _ _ readDirection, spells_u32 _ _ _ _ readEp]
  simp only [writeTo, List.append_assoc]

theorem UsbIpIsoPacketDescriptor.spells : Spells readFrom writeTo := by
  intro bs packet rest read
  obtain ⟨offset, afterOffset, readOffset, read⟩ := bind_ok read
  obtain ⟨length, afterLength, readLength, read⟩ := bind_ok read
  obtain ⟨actual, afterActual, readActual, read⟩ := bind_ok read
  obtain ⟨status, afterStatus, readStatus, last⟩ := bind_ok read
  obtain ⟨rfl, rfl⟩ := Prod.mk.inj (Except.ok.inj last)
  rw [spells_u32 _ _ _ _ readOffset, spells_u32 _ _ _ _ readLength, spells_u32 _ _ _ _ readActual,
    spells_u32 _ _ _ _ readStatus]
  simp only [writeTo, List.append_assoc]

namespace UsbIpCmdSubmit

theorem spells_fixed : Spells readFixed writeFixed := by
  intro bs cmd rest read
  obtain ⟨flags, afterFlags, readFlags, read⟩ := bind_ok read
  obtain ⟨length, afterLength, readLength, read⟩ := bind_ok read
  obtain ⟨startFrame, afterStartFrame, readStartFrame, read⟩ := bind_ok read
  obtain ⟨packets, afterPackets, readPackets, read⟩ := bind_ok read
  obtain ⟨interval, afterInterval, readInterval, read⟩ := bind_ok read
  obtain ⟨setup, afterSetup, readSetup, last⟩ := bind_ok read
  obtain ⟨rfl, rfl⟩ := Prod.mk.inj (Except.ok.inj last)
  rw [spells_u32 _ _ _ _ readFlags, spells_u32 _ _ _ _ readLength,
    spells_u32 _ _ _ _ readStartFrame, spells_u32 _ _ _ _ readPackets,
    spells_u32 _ _ _ _ readInterval, spells_take _ _ _ _ _ readSetup]
  simp only [writeFixed, List.append_assoc]

/-- What is accepted has as many descriptors as it says. -/
theorem spells_counted {bs rest : List UInt8} {cmd : UsbIpCmdSubmit}
    (read : readFrom bs = .ok (cmd, rest)) :
    bs = cmd.writeTo ++ rest ∧ cmd.numberOfPackets.toNat = cmd.isoPackets.length := by
  obtain ⟨fixed, afterFixed, readFixed, read⟩ := bind_ok read
  obtain ⟨isoPackets, afterPackets, readPackets, last⟩ := bind_ok read
  obtain ⟨rfl, rfl⟩ := Prod.mk.inj (Except.ok.inj last)
  obtain ⟨split, counted⟩ := spells_times UsbIpIsoPacketDescriptor.spells readPackets
  refine ⟨?_, counted.symm⟩
  rw [spells_fixed _ _ _ readFixed, split, ← List.append_assoc]
  rfl

end UsbIpCmdSubmit

/-- Reading undoes writing, whatever follows, and writing undoes reading. -/
theorem usbip_structures_round_trip :
    ((∀ header : UsbIpHeader, Reads UsbIpHeader.readFrom header.writeTo header) ∧
      Spells UsbIpHeader.readFrom UsbIpHeader.writeTo) ∧
    ((∀ packet : UsbIpIsoPacketDescriptor,
        Reads UsbIpIsoPacketDescriptor.readFrom packet.writeTo packet) ∧
      Spells UsbIpIsoPacketDescriptor.readFrom UsbIpIsoPacketDescriptor.writeTo) ∧
    (∀ cmd : UsbIpCmdSubmit, cmd.numberOfPackets.toNat = cmd.isoPackets.length →
        Reads UsbIpCmdSubmit.readFrom cmd.writeTo cmd) ∧
      Spells UsbIpCmdSubmit.readFrom UsbIpCmdSubmit.writeTo :=
  ⟨⟨UsbIpHeader.reads, UsbIpHeader.spells⟩,
    ⟨UsbIpIsoPacketDescriptor.reads, UsbIpIsoPacketDescriptor.spells⟩,
    UsbIpCmdSubmit.reads, fun _ _ _ read => (UsbIpCmdSubmit.spells_counted read).1⟩

end P2pUsb
