import P2pUsb.Protocol.Types

/-! The wrapper around a libusb device. What libusb answers during one call is
an argument, `UsbEnv`; every call may fail. -/
namespace P2pUsb

inductive RusbError where
  | io | invalidParam | access | noDevice | notFound | busy | timeout | overflow | pipe
  | interrupted | noMem | notSupported | badDescriptor | other
  deriving DecidableEq, Repr

inductive RusbSpeed where
  | unknown | low | full | high | super | superPlus
  deriving DecidableEq, Repr

def mapDeviceSpeed : RusbSpeed → DeviceSpeed
  | .low => .low
  | .full => .full
  | .high => .high
  | .super => .super
  | .superPlus => .superPlus
  | .unknown => .full

structure DeviceDescriptor where
  vendorId : UInt16
  productId : UInt16
  classCode : UInt8
  subClassCode : UInt8
  protocolCode : UInt8
  numConfigurations : UInt8
  deriving DecidableEq, Repr

/-- A reference to one physical device, told apart by `ref`. `add_device` reads
the descriptor up to three times; each read has its own answer. -/
structure RusbDevice where
  ref : Nat
  busNumber : UInt8
  address : UInt8
  speed : RusbSpeed
  deviceDescriptor : Nat → Except RusbError DeviceDescriptor

structure StringDescriptors where
  manufacturer : Option String
  product : Option String
  serialNumber : Option String

/-- Answers of libusb and the reading of the clock during one call. -/
structure UsbEnv where
  now : Instant
  devices : Except RusbError (List RusbDevice)
  openDevice : RusbDevice → Except RusbError Unit
  strings : RusbDevice → Option StringDescriptors
  errorText : RusbError → String
  executeTransfer : RusbDevice → TransferType → TransferResult
  resetDevice : RusbDevice → Except UsbError Unit

/-- An open handle; the claimed interfaces are not kept here. -/
structure RusbDeviceHandle where
  device : RusbDevice

structure UsbDevice where
  device : RusbDevice
  id : DeviceId
  descriptor : DeviceDescriptor
  handle : Option RusbDeviceHandle
  speed : DeviceSpeed

namespace UsbDevice

def new (device : RusbDevice) (id : DeviceId) : Except RusbError UsbDevice :=
  (device.deviceDescriptor 2).map fun descriptor => {
    device := device
    id := id
    descriptor := descriptor
    handle := none
    speed := mapDeviceSpeed device.speed }

def busNumber (d : UsbDevice) : UInt8 := d.device.busNumber
def deviceAddress (d : UsbDevice) : UInt8 := d.device.address

/-- The information under given string descriptors, which only an open device
can read. -/
def describe (d : UsbDevice) (strings : StringDescriptors) : DeviceInfo where
  id := d.id
  vendorId := d.descriptor.vendorId
  productId := d.descriptor.productId
  busNumber := d.busNumber
  deviceAddress := d.deviceAddress
  manufacturer := strings.manufacturer
  product := strings.product
  serialNumber := strings.serialNumber
  deviceClass := d.descriptor.classCode
  subclass := d.descriptor.subClassCode
  protocol := d.descriptor.protocolCode
  speed := d.speed
  numConfigurations := d.descriptor.numConfigurations

def deviceInfo (d : UsbDevice) (env : UsbEnv) : DeviceInfo :=
  d.describe ((env.strings d.device).getD ⟨none, none, none⟩)

def open' (d : UsbDevice) (env : UsbEnv) : Except AttachError UsbDevice :=
  if d.handle.isSome then .ok d
  else
    match env.openDevice d.device with
    | .ok _ => .ok { d with handle := some ⟨d.device⟩ }
    | .error .notFound => .error .deviceNotFound
    | .error .access => .error .permissionDenied
    | .error e => .error (.other (env.errorText e))

def close (d : UsbDevice) : UsbDevice := { d with handle := none }

/-- `info` was read from this very device: everything but the strings agrees. -/
def Describes (d : UsbDevice) (info : DeviceInfo) : Prop := ∃ strings, info = d.describe strings

theorem device_info_describes (d : UsbDevice) (env : UsbEnv) : d.Describes (d.deviceInfo env) :=
  ⟨_, rfl⟩

/-- What names a device and what it says of itself, without its open handle. -/
def SameDevice (d e : UsbDevice) : Prop :=
  d.device = e.device ∧ d.id = e.id ∧ d.descriptor = e.descriptor ∧ d.speed = e.speed

theorem SameDevice.refl (d : UsbDevice) : d.SameDevice d := ⟨rfl, rfl, rfl, rfl⟩

theorem SameDevice.trans {d e f : UsbDevice} (h : d.SameDevice e) (h' : e.SameDevice f) :
    d.SameDevice f :=
  ⟨h.1.trans h'.1, h.2.1.trans h'.2.1, h.2.2.1.trans h'.2.2.1, h.2.2.2.trans h'.2.2.2⟩

theorem SameDevice.describes {d e : UsbDevice} (h : d.SameDevice e) {info : DeviceInfo}
    (hd : d.Describes info) : e.Describes info := by
  obtain ⟨strings, rfl⟩ := hd
  obtain ⟨device, id, descriptor, speed⟩ := h
  refine ⟨strings, ?_⟩
  simp only [describe, busNumber, deviceAddress, device, id, descriptor, speed]

theorem new_spec {device : RusbDevice} {id : DeviceId} {d : UsbDevice} (h : new device id = .ok d) :
    d.device = device ∧ d.id = id ∧ d.handle = none := by
  unfold new at h
  cases hd : device.deviceDescriptor 2 with
  | error e => rw [hd] at h; cases h
  | ok descriptor =>
      rw [hd] at h
      obtain rfl := Except.ok.inj h
      exact ⟨rfl, rfl, rfl⟩

theorem open_spec {d e : UsbDevice} {env : UsbEnv} (h : d.open' env = .ok e) :
    d.SameDevice e ∧ e.handle.isSome := by
  unfold open' at h
  split at h
  case isTrue opened =>
      obtain rfl := Except.ok.inj h
      exact ⟨.refl d, opened⟩
  case isFalse =>
      split at h
      · obtain rfl := Except.ok.inj h
        exact ⟨⟨rfl, rfl, rfl, rfl⟩, rfl⟩
      all_goals cases h

theorem close_same (d : UsbDevice) : d.SameDevice d.close := ⟨rfl, rfl, rfl, rfl⟩

end UsbDevice
end P2pUsb
