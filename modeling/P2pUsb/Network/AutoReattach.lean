import P2pUsb.Library.Machine
import P2pUsb.Usb.Registry

/-! The client's handling of device notifications, and which arriving devices it
attaches again. -/
namespace P2pUsb

inductive DeviceNotification where
  | deviceArrived (device : DeviceInfo)
  | deviceRemoved (deviceId : DeviceId) (invalidatedHandles : List DeviceHandle)
  | deviceStatusChanged (deviceId : DeviceId)
  | interruptData (handle : DeviceHandle)
  deriving DecidableEq, Repr

/-- What a connection of the server makes of an event of its devices. -/
def UsbEvent.notification : UsbEvent → DeviceNotification
  | .deviceArrived device => .deviceArrived device
  | .deviceLeft deviceId invalidatedHandles _ => .deviceRemoved deviceId invalidatedHandles

/-- `attached` are the handles of the virtual devices of this server; `blocked` says
that nobody gets at their map any more. -/
structure NotificationHandler where
  previouslyAttached : List DeviceId
  attached : List DeviceHandle
  blocked : Bool
  deriving DecidableEq, Repr

/-- An attachment of this client outside the handler, at its start or later, a
detachment, and a notification with the handle that it may lead to. -/
inductive NotificationStep where
  | attach (device : DeviceInfo) (handle : DeviceHandle) (atStart : Bool)
  | detach (handle : DeviceHandle)
  | notified (notification : DeviceNotification) (attaches : Option DeviceHandle)
  deriving DecidableEq, Repr

inductive NotificationEvent where
  | attached (device : DeviceInfo) (remembered : Bool)
  | arrived (device : DeviceInfo) (autoAttached : Bool)
  | removed (deviceId : DeviceId) (invalidatedHandles : List DeviceHandle)
  deriving DecidableEq, Repr

namespace NotificationHandler

def new : NotificationHandler := ⟨[], [], false⟩

def insert (s : NotificationHandler) (deviceId : DeviceId) : NotificationHandler :=
  { s with previouslyAttached := deviceId :: s.previouslyAttached }

/-- For a handle that is not there the call asks for the map to write while it holds it
to read, and waits for ever. -/
def forceDetach (s : NotificationHandler) (handle : DeviceHandle) : NotificationHandler :=
  if s.blocked then s
  else if handle ∈ s.attached then { s with attached := s.attached.filter (· ≠ handle) }
  else { s with blocked := true }

def handleDeviceRemoved (s : NotificationHandler) (invalidatedHandles : List DeviceHandle) :
    NotificationHandler :=
  invalidatedHandles.foldl forceDetach s

/-- `matchesFilter` is `should_auto_attach` of the server's configuration, and false
without one. -/
def handle (matchesFilter : DeviceInfo → Bool) (s : NotificationHandler)
    (attaches : Option DeviceHandle) :
    DeviceNotification → NotificationHandler × List NotificationEvent
  | .deviceArrived device =>
      let wasAttached := s.previouslyAttached.contains device.id
      if wasAttached || matchesFilter device then
        match attaches with
        | some handle =>
            ({ s.insert device.id with attached := handle :: s.attached },
              [.arrived device true, .attached device true])
        | none => (s, [.arrived device true])
      else (s, [.arrived device false])
  | .deviceRemoved deviceId invalidatedHandles =>
      let s := if invalidatedHandles ≠ [] then s.insert deviceId else s
      (s.handleDeviceRemoved invalidatedHandles, [.removed deviceId invalidatedHandles])
  | .deviceStatusChanged _ | .interruptData _ => (s, [])

/-- What becomes of a notification that waits in the channel for ever. -/
def unhandled : DeviceNotification → List NotificationEvent
  | .deviceArrived device => [.arrived device false]
  | .deviceRemoved _ _ | .deviceStatusChanged _ | .interruptData _ => []

def step (matchesFilter : DeviceInfo → Bool) (s : NotificationHandler) :
    NotificationStep → Option (NotificationHandler × List NotificationEvent)
  | .attach device handle atStart =>
      if s.blocked then none
      else
        let s := { s with attached := handle :: s.attached }
        some (if atStart then s.insert device.id else s, [.attached device atStart])
  | .detach handle =>
      if s.blocked then none
      else some ({ s with attached := s.attached.filter (· ≠ handle) }, [])
  | .notified notification attaches =>
      some (if s.blocked then (s, unhandled notification)
        else s.handle matchesFilter attaches notification)

end NotificationHandler

def notificationHandler (matchesFilter : DeviceInfo → Bool) :
    Machine NotificationHandler NotificationStep NotificationEvent where
  step s a := s.step matchesFilter a

namespace NotificationHandler
variable {matchesFilter : DeviceInfo → Bool} {s t : NotificationHandler} {a : NotificationStep}
  {tr out : List NotificationEvent} {device : DeviceInfo} {id : DeviceId}
  {attaches : Option DeviceHandle}

def SamePhysical (d e : DeviceInfo) : Prop :=
  d.vendorId = e.vendorId ∧ d.productId = e.productId ∧ d.serialNumber = e.serialNumber

/-- This client itself had the device attached, under whatever id. -/
def AttachedEarlier (tr : List NotificationEvent) (device : DeviceInfo) : Prop :=
  ∃ earlier remembered, .attached earlier remembered ∈ tr ∧ SamePhysical earlier device

/-- The id was that of a device attached at the start or on its arrival, or a removal
notice has named it together with handles. -/
def Recalled (tr : List NotificationEvent) (id : DeviceId) : Prop :=
  (∃ earlier, .attached earlier true ∈ tr ∧ earlier.id = id) ∨
    ∃ handles, handles ≠ [] ∧ .removed id handles ∈ tr

theorem recalled_append : Recalled (tr ++ out) id ↔ Recalled tr id ∨ Recalled out id := by
  constructor
  · rintro (⟨earlier, attached, same⟩ | ⟨handles, named, removed⟩)
    · exact (List.mem_append.mp attached).imp (fun old => .inl ⟨earlier, old, same⟩)
        fun new => .inl ⟨earlier, new, same⟩
    · exact (List.mem_append.mp removed).imp (fun old => .inr ⟨handles, named, old⟩)
        fun new => .inr ⟨handles, named, new⟩
  · rintro (old | new)
    · exact old.imp
        (fun ⟨earlier, attached, same⟩ => ⟨earlier, List.mem_append_left _ attached, same⟩)
        fun ⟨handles, named, removed⟩ => ⟨handles, named, List.mem_append_left _ removed⟩
    · exact new.imp
        (fun ⟨earlier, attached, same⟩ => ⟨earlier, List.mem_append_right _ attached, same⟩)
        fun ⟨handles, named, removed⟩ => ⟨handles, named, List.mem_append_right _ removed⟩

theorem handle_device_removed_kept (s : NotificationHandler)
    (invalidatedHandles : List DeviceHandle) :
    (s.handleDeviceRemoved invalidatedHandles).previouslyAttached = s.previouslyAttached := by
  induction invalidatedHandles generalizing s with
  | nil => rfl
  | cons handle rest ih =>
      refine (ih (s.forceDetach handle)).trans ?_
      rw [forceDetach]
      split
      · rfl
      · split <;> rfl

/-- The ids that a notification adds are the ids that its events recall. -/
theorem mem_handle {notification : DeviceNotification} :
    id ∈ (s.handle matchesFilter attaches notification).1.previouslyAttached ↔
      id ∈ s.previouslyAttached ∨
        Recalled (s.handle matchesFilter attaches notification).2 id := by
  cases notification with
  | deviceArrived device =>
      simp only [handle]
      split
      · cases attaches <;> simp [insert, Recalled, or_comm, @eq_comm _ id]
      · simp [Recalled]
  | deviceRemoved deviceId handles =>
      simp only [handle, handle_device_removed_kept]
      by_cases named : handles = []
      · simp [Recalled, named]
      · simp [insert, Recalled, named, or_comm, @eq_comm _ id]
  | deviceStatusChanged | interruptData => simp [handle, Recalled]

theorem mem_step (h : s.step matchesFilter a = some (t, out)) :
    id ∈ t.previouslyAttached ↔ id ∈ s.previouslyAttached ∨ Recalled out id := by
  cases a with
  | attach device handle atStart =>
      simp only [step] at h
      split at h <;> cases h
      cases atStart <;> simp [insert, Recalled, or_comm, @eq_comm _ id]
  | detach handle =>
      simp only [step] at h
      split at h <;> cases h
      simp [Recalled]
  | notified notification attaches =>
      simp only [step] at h
      split at h
      · cases h
        cases notification <;> simp [unhandled, Recalled]
      · obtain rfl : (s.handle matchesFilter attaches notification).1 = t :=
          congrArg Prod.fst (Option.some.inj h)
        obtain rfl : (s.handle matchesFilter attaches notification).2 = out :=
          congrArg Prod.snd (Option.some.inj h)
        exact mem_handle

/-- The handler remembers the ids that the run recalls. -/
theorem previously_attached_iff (run : (notificationHandler matchesFilter).Reach new tr s) :
    id ∈ s.previouslyAttached ↔ Recalled tr id := by
  refine run.invariant (I := fun tr s => id ∈ s.previouslyAttached ↔ Recalled tr id) ?_ ?_
  · simp [new, Recalled]
  · intro tr s a t out same _ h
    rw [mem_step h, recalled_append, same]

theorem auto_attached_iff
    (h : s.step matchesFilter (.notified (.deviceArrived device) attaches) = some (t, out)) :
    .arrived device true ∈ out ↔
      s.blocked = false ∧ (device.id ∈ s.previouslyAttached ∨ matchesFilter device = true) := by
  simp only [step] at h
  split at h
  case isTrue blocked =>
    cases h
    simp [unhandled, blocked]
  case isFalse running =>
    obtain rfl : (s.handle matchesFilter attaches (.deviceArrived device)).2 = out :=
      congrArg Prod.snd (Option.some.inj h)
    rw [and_iff_right (Bool.eq_false_iff.mpr running)]
    simp only [handle]
    split
    case isTrue decided =>
      refine iff_of_true ?_ (by simpa using decided)
      split <;> exact List.mem_cons_self
    case isFalse skipped =>
      refine iff_of_false ?_ (by simpa using skipped)
      simp

/-- An id that the registry of the server issues is not recalled by a client that has
only met ids of this registry. -/
theorem issued_not_recalled {filters : List String} {config : SharingConfig}
    {issued new : List DeviceManager.Issued} {m m' : DeviceManager} {op : DeviceManager.ManagerOp}
    (run : DeviceManager.registry.Reach (.withSharingConfig filters config) issued m)
    (h : DeviceManager.registry.step m op = some (m', new)) (arrives : .device id ∈ new)
    (met : ∀ id, Recalled tr id → .device id ∈ issued) : ¬ Recalled tr id := by
  intro recalled
  have distinct := (DeviceManager.issued_run (run.next trivial h)).2.1
  exact (List.nodup_append.mp distinct).2.2 _ (met id recalled) _ arrives rfl

/-- An arriving device outside the filter is attached when it should be, if and only if
the handler is running and recalls the id when it should. Where the server has just
issued the id, that is if and only if the client never had the device. -/
theorem reattach_follows_device_iff
    (run : (notificationHandler matchesFilter).Reach new tr s)
    (h : (notificationHandler matchesFilter).step s (.notified (.deviceArrived device) attaches) =
      some (t, out)) (unmatched : matchesFilter device = false) :
    ((.arrived device true ∈ out ↔ AttachedEarlier tr device) ↔
      (s.blocked = false ∧ Recalled tr device.id ↔ AttachedEarlier tr device)) ∧
    ∀ (filters : List String) (config : SharingConfig) (issued fresh : List DeviceManager.Issued)
      (m m' : DeviceManager) (op : DeviceManager.ManagerOp),
      DeviceManager.registry.Reach (.withSharingConfig filters config) issued m →
      DeviceManager.registry.step m op = some (m', fresh) → .device device.id ∈ fresh →
      (∀ id, Recalled tr id → .device id ∈ issued) →
        ((.arrived device true ∈ out ↔ AttachedEarlier tr device) ↔
          ¬ AttachedEarlier tr device) := by
  rw [auto_attached_iff h, unmatched, previously_attached_iff run, or_iff_left Bool.false_ne_true]
  refine ⟨Iff.rfl, fun filters config issued fresh m m' op served issues arrives met => ?_⟩
  simp only [issued_not_recalled served issues arrives met, and_false, false_iff]

/-- The only device of the server, under the id that it has. -/
def exampleInfo (id : Nat) : DeviceInfo :=
  ⟨⟨id⟩, 0x1234, 0x5678, 1, 1, none, none, none, 3, 0, 0, .high, 1⟩

/-- Another device, after a restart of the server. -/
def exampleOther (id : Nat) : DeviceInfo := { exampleInfo id with vendorId := 0x4321 }

def exampleAttached : NotificationHandler := ⟨[⟨1⟩], [⟨1⟩], false⟩

theorem example_attached : (notificationHandler fun _ => false).Reach new
    [.attached (exampleInfo 1) true] exampleAttached :=
  .of_run (rfl : (notificationHandler fun _ => false).run new
    [.attach (exampleInfo 1) ⟨1⟩ true] = some (_, _))

/-- The server reports a device that the client has attached already. -/
theorem reattach_follows_device_reported : ∃ tr out : List NotificationEvent,
    tr = [.attached (exampleInfo 1) true] ∧
      out = [.arrived (exampleInfo 1) true, .attached (exampleInfo 1) true] ∧
      (.arrived (exampleInfo 1) true ∈ out ↔ AttachedEarlier tr (exampleInfo 1)) := by
  have h : (notificationHandler fun _ => false).step exampleAttached
      (.notified (.deviceArrived (exampleInfo 1)) (some ⟨2⟩)) =
        some (⟨[⟨1⟩, ⟨1⟩], [⟨2⟩, ⟨1⟩], false⟩,
        [.arrived (exampleInfo 1) true, .attached (exampleInfo 1) true]) := rfl
  refine ⟨_, _, rfl, rfl,
    (reattach_follows_device_iff example_attached h rfl).1.mpr (iff_of_true ?_ ?_)⟩
  · exact ⟨rfl, .inl ⟨_, List.mem_cons_self, rfl⟩⟩
  · exact ⟨_, _, List.mem_cons_self, rfl, rfl, rfl⟩

open DeviceManager in
/-- The server as the device arrives, is attached by a client, leaves and arrives again. -/
def exampleReplug : List (Option UsbEvent) :=
  let env := exampleEnv 0 [exampleDevice 0 1 1]
  let (arrived, m) := (DeviceManager.new []).handleDeviceArrivedInternal env 1 1
  let (_, m) := m.attachDevice env ⟨1⟩ "a"
  let (left, m) := m.handleDeviceLeftInternal 1 1
  let (again, _) := m.handleDeviceArrivedInternal env 1 1
  [arrived, left, again]

example : exampleReplug.map (Option.map UsbEvent.notification) =
    [some (.deviceArrived (exampleInfo 1)), some (.deviceRemoved ⟨1⟩ [⟨1⟩]),
      some (.deviceArrived (exampleInfo 2))] := rfl

/-- A device of this client comes back under a new id and is not attached; a device that
it never had is attached, as it has the id that the client's device had before the
server restarted. -/
theorem ids_are_not_devices :
    (∃ tr s t out, (notificationHandler fun _ => false).Reach new tr s ∧
      (notificationHandler fun _ => false).step s
        (.notified (.deviceArrived (exampleInfo 2)) (some ⟨2⟩)) = some (t, out) ∧
      ¬ (.arrived (exampleInfo 2) true ∈ out ↔ AttachedEarlier tr (exampleInfo 2))) ∧
    ∃ tr s t out, (notificationHandler fun _ => false).Reach new tr s ∧
      (notificationHandler fun _ => false).step s
        (.notified (.deviceArrived (exampleOther 1)) (some ⟨1⟩)) = some (t, out) ∧
      ¬ (.arrived (exampleOther 1) true ∈ out ↔ AttachedEarlier tr (exampleOther 1)) := by
  constructor
  · refine ⟨_, _, _, _, example_attached.next (a := .notified (.deviceRemoved ⟨1⟩ [⟨1⟩]) none)
      trivial rfl, rfl, fun follows => ?_⟩
    have missed := follows.mpr ⟨_, _, List.mem_cons_self, rfl, rfl, rfl⟩
    exact absurd missed (by decide)
  · refine ⟨_, _, _, _, example_attached, rfl, fun follows => ?_⟩
    obtain ⟨earlier, remembered, attached, same, -⟩ := follows.mp List.mem_cons_self
    cases List.mem_singleton.mp attached
    cases same

end NotificationHandler
end P2pUsb
