import P2pUsb.Library.FiniteMap
import P2pUsb.Library.Machine
import P2pUsb.VirtualUsb.Ports

/-! The manager of the virtual devices on Linux: its calls, cut at every access to
the two maps and the bitmaps and at every answer from outside. -/
namespace P2pUsb

structure GlobalDeviceId where
  serverId : EndpointId
  deviceHandle : DeviceHandle
  deriving DecidableEq, Repr

structure VirtualDevice where
  handle : DeviceHandle
  descriptor : DeviceInfo
  vhciPort : Nat
  deriving DecidableEq, Repr

/-- Where an `attach_device` call stands. -/
inductive AttachPhase where
  | remote
  | reading (handle : DeviceHandle)
  | allocating (handle : DeviceHandle) (kernel : Ports)
  | allocated (handle : DeviceHandle) (port : Nat)
  | bridged (handle : DeviceHandle) (port : Nat)
  | plugged (handle : DeviceHandle) (port : Nat)
  | stored (handle : DeviceHandle) (port : Nat)
  | ended (ok : Bool)
  deriving DecidableEq, Repr

/-- Where `detach_device` or `force_detach` stands with one device. `stuck` is a
`force_detach` that has not found it: it asks for the map to write while it still
holds it to read, and never gets it. -/
inductive RemovalPhase where
  | looking
  | found (port : Nat)
  | unbridged (port : Nat)
  | unplugged (port : Nat)
  | freed (port : Nat)
  | stuck
  | removed
  | ended (ok : Bool)
  deriving DecidableEq, Repr

/-- A removal is a `detach_device` or, when forced, a `force_detach` of the caller's
list; `rest` are the devices after this one. -/
inductive ManagerTask where
  | attach (serverId : EndpointId) (info : DeviceInfo) (phase : AttachPhase)
  | removal (forced : Bool) (globalId : GlobalDeviceId) (rest : List GlobalDeviceId)
      (phase : RemovalPhase)
  deriving DecidableEq, Repr

namespace ManagerTask

def ended : ManagerTask → Bool
  | attach _ _ (.ended _) | removal _ _ _ (.ended _) => true
  | _ => false

/-- `detach_device` keeps the map of the devices locked from its look to its end, and
nobody gets past a `force_detach` that waits for itself. -/
def locksDevices : ManagerTask → Bool
  | removal false _ _ (.found _) | removal false _ _ (.unbridged _)
  | removal false _ _ (.unplugged _) | removal false _ _ (.freed _)
  | removal false _ _ .removed | removal _ _ _ .stuck => true
  | _ => false

/-- A `force_detach` that waits for itself. -/
def stuck : ManagerTask → Bool
  | removal _ _ _ .stuck => true
  | _ => false

/-- The port that an `attach_device` call has allocated and not yet stored. -/
def holds : ManagerTask → Option Nat
  | attach _ _ (.allocated _ port) | attach _ _ (.bridged _ port)
  | attach _ _ (.plugged _ port) => some port
  | _ => none

/-- The port that a removal has found and not yet freed. -/
def frees : ManagerTask → Option (GlobalDeviceId × Nat)
  | removal _ globalId _ (.found port) | removal _ globalId _ (.unbridged port)
  | removal _ globalId _ (.unplugged port) => some (globalId, port)
  | _ => none

/-- The port that a removal has freed before it has removed the device. -/
def freed : ManagerTask → Option (GlobalDeviceId × Nat)
  | removal _ globalId _ (.freed port) => some (globalId, port)
  | _ => none

/-- The device that a call has entered into one of the two maps only, or has
removed from one only. -/
def between : ManagerTask → Option GlobalDeviceId
  | attach serverId _ (.stored handle _) => some ⟨serverId, handle⟩
  | removal _ globalId _ (.unbridged _) | removal _ globalId _ (.unplugged _)
  | removal _ globalId _ (.freed _) => some globalId
  | _ => none

/-- The loop over the devices that `detach_all_from_server` and
`handle_device_removed` have. -/
def forceEach : List GlobalDeviceId → List ManagerTask
  | [] => []
  | globalId :: rest => [removal true globalId rest .looking]

def forceNext (globalId : GlobalDeviceId) : List GlobalDeviceId → ManagerTask
  | [] => removal true globalId [] (.ended true)
  | next :: rest => removal true next rest .looking

end ManagerTask

structure LinuxVirtualUsbManager where
  attachedDevices : AList fun _ : GlobalDeviceId => VirtualDevice
  socketBridges : AList fun _ : GlobalDeviceId => Nat
  ports : Ports
  tasks : List ManagerTask

/-- Calls, and the steps of the call with the given number. Those that meet the
server, the socket or sysfs carry the answer. -/
inductive ManagerStep where
  | attachDevice (serverId : EndpointId) (info : DeviceInfo)
  | detachDevice (globalId : GlobalDeviceId)
  | handleDeviceRemoved (serverId : EndpointId) (invalidatedHandles : List DeviceHandle)
  | detachAllFromServer (serverId : EndpointId)
  | remoteAttach (task : Nat) (handle : Option DeviceHandle)
  | readStatus (task : Nat) (content : Option String)
  | allocate (task : Nat)
  | createBridge (task : Nat) (ok : Bool)
  | attachToVhci (task : Nat) (ok : Bool)
  | storeDevice (task : Nat)
  | storeBridge (task : Nat)
  | look (task : Nat)
  | removeBridge (task : Nat)
  | detachFromVhci (task : Nat) (ok : Bool)
  | freePort (task : Nat)
  | removeDevice (task : Nat)
  | remoteDetach (task : Nat) (ok : Bool)
  deriving DecidableEq, Repr

def ManagerStep.task : ManagerStep → Option Nat
  | attachDevice _ _ | detachDevice _ | handleDeviceRemoved _ _ | detachAllFromServer _ => none
  | remoteAttach i _ | readStatus i _ | allocate i | createBridge i _ | attachToVhci i _
  | storeDevice i | storeBridge i | look i | removeBridge i | detachFromVhci i _ | freePort i
  | removeDevice i | remoteDetach i _ => some i

/-- What happens to the ports. `dropped` is a port whose call failed, or whose device
left the map, while its bit is set. -/
inductive PortEvent where
  | reported (speed : DeviceSpeed) (kernel : Ports)
  | allocated (port : Nat)
  | exhausted (speed : DeviceSpeed) (kernel : Ports)
  | freed (globalId : GlobalDeviceId) (port : Nat)
  | dropped (port : Nat)
  deriving DecidableEq, Repr

namespace LinuxVirtualUsbManager

def new (content : String) : LinuxVirtualUsbManager where
  attachedDevices := ∅
  socketBridges := ∅
  ports := readKernelPortStatus content
  tasks := []

def locked (s : LinuxVirtualUsbManager) : Bool := s.tasks.any ManagerTask.locksDevices

def setTask (s : LinuxVirtualUsbManager) (i : Nat) (task : ManagerTask) :
    LinuxVirtualUsbManager :=
  { s with tasks := s.tasks.set i task }

/-- The device that a write to the map pushes out of it. -/
def pushedOut (s : LinuxVirtualUsbManager) (globalId : GlobalDeviceId) : List PortEvent :=
  match s.attachedDevices.lookup globalId with
  | some device => if s.ports.used device.vhciPort then [.dropped device.vhciPort] else []
  | none => []

/-- The locked part of `allocate_port` with the end of the call when it fails. -/
def allocate (s : LinuxVirtualUsbManager) (i : Nat) (serverId : EndpointId) (info : DeviceInfo)
    (handle : DeviceHandle) (kernel : Ports) : LinuxVirtualUsbManager × List PortEvent :=
  match s.ports.allocatePort kernel info.speed with
  | (.error _, ports) =>
      ({ s.setTask i (.attach serverId info (.ended false)) with ports },
        [.reported info.speed kernel, .exhausted info.speed kernel])
  | (.ok port, ports) =>
      ({ s.setTask i (.attach serverId info (.allocated handle port)) with ports },
        [.reported info.speed kernel, .allocated port])

/-- One step of an `attach_device` call. -/
def attachStep (s : LinuxVirtualUsbManager) (i : Nat) (serverId : EndpointId)
    (info : DeviceInfo) (phase : AttachPhase) :
    ManagerStep → Option (LinuxVirtualUsbManager × List PortEvent)
  | .remoteAttach _ handle =>
      match phase, handle with
      | .remote, some handle => some (s.setTask i (.attach serverId info (.reading handle)), [])
      | .remote, none => some (s.setTask i (.attach serverId info (.ended false)), [])
      | _, _ => none
  | .readStatus _ content =>
      match phase with
      | .reading handle =>
          let kernel := (content.map readKernelPortStatus).getD .empty
          some (s.setTask i (.attach serverId info (.allocating handle kernel)), [])
      | _ => none
  | .allocate _ =>
      match phase with
      | .allocating handle kernel => some (s.allocate i serverId info handle kernel)
      | _ => none
  | .createBridge _ ok =>
      match phase, ok with
      | .allocated handle port, true =>
          some (s.setTask i (.attach serverId info (.bridged handle port)), [])
      | .allocated _ port, false =>
          some (s.setTask i (.attach serverId info (.ended false)), [.dropped port])
      | _, _ => none
  | .attachToVhci _ ok =>
      match phase, ok with
      | .bridged handle port, true =>
          some (s.setTask i (.attach serverId info (.plugged handle port)), [])
      | .bridged _ port, false =>
          some (s.setTask i (.attach serverId info (.ended false)), [.dropped port])
      | _, _ => none
  | .storeDevice _ =>
      match phase, s.locked with
      | .plugged handle port, false =>
          some ({ s.setTask i (.attach serverId info (.stored handle port)) with
            attachedDevices := s.attachedDevices.insert ⟨serverId, handle⟩ ⟨handle, info, port⟩ },
            s.pushedOut ⟨serverId, handle⟩)
      | _, _ => none
  | .storeBridge _ =>
      match phase with
      | .stored handle port =>
          some ({ s.setTask i (.attach serverId info (.ended true)) with
            socketBridges := s.socketBridges.insert ⟨serverId, handle⟩ port }, [])
      | _ => none
  | _ => none

/-- One step of a `detach_device` or `force_detach` call. -/
def removalStep (s : LinuxVirtualUsbManager) (i : Nat) (forced : Bool)
    (globalId : GlobalDeviceId) (rest : List GlobalDeviceId) (phase : RemovalPhase) :
    ManagerStep → Option (LinuxVirtualUsbManager × List PortEvent)
  | .look _ =>
      match phase, s.locked with
      | .looking, false =>
          let next := match s.attachedDevices.lookup globalId with
            | some device => .found device.vhciPort
            | none => if forced then .stuck else .ended false
          some (s.setTask i (.removal forced globalId rest next), [])
      | _, _ => none
  | .removeBridge _ =>
      match phase with
      | .found port =>
          some ({ s.setTask i (.removal forced globalId rest (.unbridged port)) with
            socketBridges := s.socketBridges.erase globalId }, [])
      | _ => none
  | .detachFromVhci _ ok =>
      match phase with
      | .unbridged port =>
          let next := if ok || forced then .unplugged port else .ended false
          some (s.setTask i (.removal forced globalId rest next), [])
      | _ => none
  | .freePort _ =>
      match phase with
      | .unplugged port =>
          some ({ s.setTask i (.removal forced globalId rest (.freed port)) with
            ports := s.ports.freePort port }, [.freed globalId port])
      | _ => none
  | .removeDevice _ =>
      match forced, phase, s.locked with
      | false, .freed _, _ =>
          some ({ s.setTask i (.removal false globalId rest .removed) with
            attachedDevices := s.attachedDevices.erase globalId }, s.pushedOut globalId)
      | true, .freed _, false =>
          some ({ s.setTask i (ManagerTask.forceNext globalId rest) with
            attachedDevices := s.attachedDevices.erase globalId }, s.pushedOut globalId)
      | _, _, _ => none
  | .remoteDetach _ ok =>
      match phase with
      | .removed => some (s.setTask i (.removal forced globalId rest (.ended ok)), [])
      | _ => none
  | _ => none

def taskStep (s : LinuxVirtualUsbManager) (i : Nat) (a : ManagerStep) :
    Option (LinuxVirtualUsbManager × List PortEvent) :=
  match s.tasks[i]? with
  | some (.attach serverId info phase) => s.attachStep i serverId info phase a
  | some (.removal forced globalId rest phase) => s.removalStep i forced globalId rest phase a
  | none => none

def begin (s : LinuxVirtualUsbManager) (tasks : List ManagerTask) : LinuxVirtualUsbManager :=
  { s with tasks := s.tasks ++ tasks }

def step (s : LinuxVirtualUsbManager) (a : ManagerStep) :
    Option (LinuxVirtualUsbManager × List PortEvent) :=
  match a with
  | .attachDevice serverId info => some (s.begin [.attach serverId info .remote], [])
  | .detachDevice globalId => some (s.begin [.removal false globalId [] .looking], [])
  | .handleDeviceRemoved serverId invalidatedHandles =>
      some (s.begin (ManagerTask.forceEach (invalidatedHandles.map (⟨serverId, ·⟩))), [])
  | .detachAllFromServer serverId =>
      if s.locked then none
      else some (s.begin (ManagerTask.forceEach
        (s.attachedDevices.keys.filter fun globalId => globalId.serverId = serverId)), [])
  | .remoteAttach i _ | .readStatus i _ | .allocate i | .createBridge i _ | .attachToVhci i _
  | .storeDevice i | .storeBridge i | .look i | .removeBridge i | .detachFromVhci i _
  | .freePort i | .removeDevice i | .remoteDetach i _ => s.taskStep i a

end LinuxVirtualUsbManager

def linuxManager : Machine LinuxVirtualUsbManager ManagerStep PortEvent where
  step s a := s.step a

namespace LinuxVirtualUsbManager

/-- A task that has nothing in hand. -/
structure Idle (task : ManagerTask) : Prop where
  holds : task.holds = none
  frees : task.frees = none
  freed : task.freed = none
  between : task.between = none

/-- Two tasks with the same in hand. -/
structure Alike (old next : ManagerTask) : Prop where
  holds : next.holds = old.holds
  frees : next.frees = old.frees
  freed : next.freed = old.freed
  between : next.between = old.between
  active : old.ended = false
  moves : old.stuck = false

/-- All that a step does, with what it found. -/
inductive Does (s : LinuxVirtualUsbManager) :
    ManagerStep → LinuxVirtualUsbManager → List PortEvent → Prop
  | begun {a : ManagerStep} (tasks : List ManagerTask) (call : a.task = none)
      (few : tasks.length ≤ 1) (idle : ∀ task ∈ tasks, Idle task) :
      Does s a (s.begin tasks) []
  | turn {a : ManagerStep} {i : Nat} {old next : ManagerTask} (at' : s.tasks[i]? = some old)
      (alike : Alike old next) :
      Does s a (s.setTask i next) []
  | notFound {i : Nat} {forced : Bool} {globalId : GlobalDeviceId} {rest : List GlobalDeviceId}
      {phase : RemovalPhase}
      (at' : s.tasks[i]? = some (.removal forced globalId rest .looking))
      (missing : s.attachedDevices.lookup globalId = none)
      (after : phase = .stuck ∨ phase = .ended false) :
      Does s (.look i) (s.setTask i (.removal forced globalId rest phase)) []
  | found {i : Nat} {forced : Bool} {globalId : GlobalDeviceId} {rest : List GlobalDeviceId}
      {device : VirtualDevice}
      (at' : s.tasks[i]? = some (.removal forced globalId rest .looking))
      (unlocked : s.locked = false) (there : s.attachedDevices.lookup globalId = some device) :
      Does s (.look i) (s.setTask i (.removal forced globalId rest (.found device.vhciPort))) []
  | allocated {i : Nat} {serverId : EndpointId} {info : DeviceInfo} {handle : DeviceHandle}
      {kernel ports : Ports} {port : Nat}
      (at' : s.tasks[i]? = some (.attach serverId info (.allocating handle kernel)))
      (given : s.ports.allocatePort kernel info.speed = (.ok port, ports)) :
      Does s (.allocate i)
        { s.setTask i (.attach serverId info (.allocated handle port)) with ports }
        [.reported info.speed kernel, .allocated port]
  | exhausted {i : Nat} {serverId : EndpointId} {info : DeviceInfo} {handle : DeviceHandle}
      {kernel ports : Ports} {text : String}
      (at' : s.tasks[i]? = some (.attach serverId info (.allocating handle kernel)))
      (refused : s.ports.allocatePort kernel info.speed = (.error text, ports)) :
      Does s (.allocate i) { s.setTask i (.attach serverId info (.ended false)) with ports }
        [.reported info.speed kernel, .exhausted info.speed kernel]
  | failed {a : ManagerStep} {i : Nat} {serverId : EndpointId} {info : DeviceInfo}
      {phase : AttachPhase} {port : Nat}
      (at' : s.tasks[i]? = some (.attach serverId info phase))
      (holding : (ManagerTask.attach serverId info phase).holds = some port)
      (refused : a = .createBridge i false ∨ a = .attachToVhci i false) :
      Does s a (s.setTask i (.attach serverId info (.ended false))) [.dropped port]
  | stored {i : Nat} {serverId : EndpointId} {info : DeviceInfo} {handle : DeviceHandle}
      {port : Nat}
      (at' : s.tasks[i]? = some (.attach serverId info (.plugged handle port)))
      (unlocked : s.locked = false) :
      Does s (.storeDevice i)
        { s.setTask i (.attach serverId info (.stored handle port)) with
          attachedDevices := s.attachedDevices.insert ⟨serverId, handle⟩ ⟨handle, info, port⟩ }
        (s.pushedOut ⟨serverId, handle⟩)
  | bridgeStored {i : Nat} {serverId : EndpointId} {info : DeviceInfo} {handle : DeviceHandle}
      {port : Nat}
      (at' : s.tasks[i]? = some (.attach serverId info (.stored handle port))) :
      Does s (.storeBridge i)
        { s.setTask i (.attach serverId info (.ended true)) with
          socketBridges := s.socketBridges.insert ⟨serverId, handle⟩ port } []
  | unbridged {i : Nat} {forced : Bool} {globalId : GlobalDeviceId}
      {rest : List GlobalDeviceId} {port : Nat}
      (at' : s.tasks[i]? = some (.removal forced globalId rest (.found port))) :
      Does s (.removeBridge i)
        { s.setTask i (.removal forced globalId rest (.unbridged port)) with
          socketBridges := s.socketBridges.erase globalId } []
  | gaveUp {i : Nat} {globalId : GlobalDeviceId} {rest : List GlobalDeviceId} {port : Nat}
      (at' : s.tasks[i]? = some (.removal false globalId rest (.unbridged port))) :
      Does s (.detachFromVhci i false)
        (s.setTask i (.removal false globalId rest (.ended false))) []
  | freed {i : Nat} {forced : Bool} {globalId : GlobalDeviceId} {rest : List GlobalDeviceId}
      {port : Nat}
      (at' : s.tasks[i]? = some (.removal forced globalId rest (.unplugged port))) :
      Does s (.freePort i)
        { s.setTask i (.removal forced globalId rest (.freed port)) with
          ports := s.ports.freePort port } [.freed globalId port]
  | removed {i : Nat} {forced : Bool} {globalId : GlobalDeviceId} {rest : List GlobalDeviceId}
      {port : Nat} {next : ManagerTask}
      (at' : s.tasks[i]? = some (.removal forced globalId rest (.freed port)))
      (idle : Idle next) :
      Does s (.removeDevice i)
        { s.setTask i next with attachedDevices := s.attachedDevices.erase globalId }
        (s.pushedOut globalId)

variable {s t : LinuxVirtualUsbManager} {a : ManagerStep} {out tr : List PortEvent} {i j : Nat}

theorem idle_force_each (globalIds : List GlobalDeviceId) :
    ∀ task ∈ ManagerTask.forceEach globalIds, Idle task := by
  intro task present
  cases globalIds with
  | nil => cases present
  | cons globalId rest =>
      obtain rfl := List.mem_singleton.mp present
      exact ⟨rfl, rfl, rfl, rfl⟩

theorem few_force_each (globalIds : List GlobalDeviceId) :
    (ManagerTask.forceEach globalIds).length ≤ 1 := by
  cases globalIds with
  | nil => exact Nat.zero_le 1
  | cons => exact Nat.le_refl 1

theorem attach_step_does {serverId : EndpointId} {info : DeviceInfo} {phase : AttachPhase}
    (at' : s.tasks[i]? = some (.attach serverId info phase)) (own : a.task = some i)
    (h : s.attachStep i serverId info phase a = some (t, out)) : s.Does a t out := by
  cases a with
  | attachDevice | detachDevice | handleDeviceRemoved | detachAllFromServer => cases own
  | remoteAttach k handle =>
      simp only [attachStep] at h
      split at h <;> cases h
      · exact .turn at' ⟨rfl, rfl, rfl, rfl, rfl, rfl⟩
      · exact .turn at' ⟨rfl, rfl, rfl, rfl, rfl, rfl⟩
  | readStatus k content =>
      simp only [attachStep] at h
      split at h <;> cases h
      exact .turn at' ⟨rfl, rfl, rfl, rfl, rfl, rfl⟩
  | allocate k =>
      cases own
      simp only [attachStep, allocate] at h
      split at h
      · split at h <;> cases h
        · exact .exhausted at' ‹_›
        · exact .allocated at' ‹_›
      · cases h
  | createBridge k ok =>
      cases own
      simp only [attachStep] at h
      split at h <;> cases h
      · exact .turn at' ⟨rfl, rfl, rfl, rfl, rfl, rfl⟩
      · exact .failed at' rfl (.inl rfl)
  | attachToVhci k ok =>
      cases own
      simp only [attachStep] at h
      split at h <;> cases h
      · exact .turn at' ⟨rfl, rfl, rfl, rfl, rfl, rfl⟩
      · exact .failed at' rfl (.inr rfl)
  | storeDevice k =>
      cases own
      simp only [attachStep] at h
      split at h <;> cases h
      exact .stored at' ‹_›
  | storeBridge k =>
      cases own
      simp only [attachStep] at h
      split at h <;> cases h
      exact .bridgeStored at'
  | look | removeBridge | detachFromVhci | freePort | removeDevice | remoteDetach => cases h

theorem removal_step_does {forced : Bool} {globalId : GlobalDeviceId}
    {rest : List GlobalDeviceId} {phase : RemovalPhase}
    (at' : s.tasks[i]? = some (.removal forced globalId rest phase)) (own : a.task = some i)
    (h : s.removalStep i forced globalId rest phase a = some (t, out)) : s.Does a t out := by
  cases a with
  | attachDevice | detachDevice | handleDeviceRemoved | detachAllFromServer => cases own
  | remoteAttach | readStatus | allocate | createBridge | attachToVhci | storeDevice
  | storeBridge => cases h
  | look k =>
      cases own
      simp only [removalStep] at h
      split at h
      · rename_i unlocked
        cases there : s.attachedDevices.lookup globalId with
        | some device =>
            rw [there] at h
            cases h
            exact .found at' unlocked there
        | none =>
            rw [there] at h
            cases h
            refine .notFound at' there ?_
            cases forced with
            | true => exact .inl rfl
            | false => exact .inr rfl
      · cases h
  | removeBridge k =>
      cases own
      simp only [removalStep] at h
      split at h <;> cases h
      exact .unbridged at'
  | detachFromVhci k ok =>
      cases own
      simp only [removalStep] at h
      split at h <;> cases h
      cases ok with
      | true => exact .turn at' ⟨rfl, rfl, rfl, rfl, rfl, rfl⟩
      | false =>
          cases forced with
          | true => exact .turn at' ⟨rfl, rfl, rfl, rfl, rfl, rfl⟩
          | false => exact .gaveUp at'
  | freePort k =>
      cases own
      simp only [removalStep] at h
      split at h <;> cases h
      exact .freed at'
  | removeDevice k =>
      cases own
      have next : Idle (ManagerTask.forceNext globalId rest) := by
        cases rest with
        | nil => exact ⟨rfl, rfl, rfl, rfl⟩
        | cons => exact ⟨rfl, rfl, rfl, rfl⟩
      simp only [removalStep] at h
      split at h <;> cases h
      · exact .removed at' ⟨rfl, rfl, rfl, rfl⟩
      · exact .removed at' next
  | remoteDetach k ok =>
      simp only [removalStep] at h
      split at h <;> cases h
      exact .turn at' ⟨rfl, rfl, rfl, rfl, rfl, rfl⟩

theorem step_does (h : s.step a = some (t, out)) : s.Does a t out := by
  have taken : ∀ i, a.task = some i → s.taskStep i a = some (t, out) → s.Does a t out := by
    intro i own h
    simp only [taskStep] at h
    split at h
    · exact attach_step_does ‹_› own h
    · exact removal_step_does ‹_› own h
    · cases h
  cases a with
  | attachDevice serverId info =>
      cases h
      exact .begun _ rfl (Nat.le_refl 1) fun task present => by
        obtain rfl := List.mem_singleton.mp present
        exact ⟨rfl, rfl, rfl, rfl⟩
  | detachDevice globalId =>
      cases h
      exact .begun _ rfl (Nat.le_refl 1) fun task present => by
        obtain rfl := List.mem_singleton.mp present
        exact ⟨rfl, rfl, rfl, rfl⟩
  | handleDeviceRemoved serverId handles =>
      cases h
      exact .begun _ rfl (few_force_each _) (idle_force_each _)
  | detachAllFromServer serverId =>
      simp only [step] at h
      split at h <;> cases h
      exact .begun _ rfl (few_force_each _) (idle_force_each _)
  | remoteAttach i | readStatus i | allocate i | createBridge i | attachToVhci i | storeDevice i
  | storeBridge i | look i | removeBridge i | detachFromVhci i | freePort i | removeDevice i
  | remoteDetach i => exact taken i rfl h

/-- Nobody can take a `force_detach` out of its own way. -/
theorem stuck_step {task : ManagerTask} (there : s.tasks[i]? = some task)
    (stuck : task.stuck = true) (h : s.step a = some (t, out)) : t.tasks[i]? = some task := by
  have kept : ∀ {j : Nat} {old next : ManagerTask}, s.tasks[j]? = some old → old.stuck = false →
      (s.tasks.set j next)[i]? = some task := by
    intro j old next at' moves
    have other : j ≠ i := by
      rintro rfl
      cases there.symm.trans at'
      cases stuck.symm.trans moves
    exact (List.getElem?_set_ne other).trans there
  cases step_does h with
  | begun =>
      exact (List.getElem?_append_left (List.getElem?_eq_some_iff.mp there).1).trans there
  | turn at' alike => exact kept at' alike.moves
  | notFound at' | found at' | allocated at' | exhausted at' | failed at' | stored at'
  | bridgeStored at' | unbridged at' | gaveUp at' | freed at' | removed at' => exact kept at' rfl

/-- After a `force_detach` of a device that is not there the map is locked for good, and no
call finds or stores a device any more. -/
theorem stuck_for_good {forced : Bool} {globalId : GlobalDeviceId} {rest : List GlobalDeviceId}
    (there : s.tasks[i]? = some (.removal forced globalId rest .stuck))
    (run : linuxManager.Reach s tr t) :
    t.tasks[i]? = some (.removal forced globalId rest .stuck) ∧ t.locked = true := by
  have still : t.tasks[i]? = some (.removal forced globalId rest .stuck) :=
    run.stateInvariant (I := fun t => t.tasks[i]? = some (.removal forced globalId rest .stuck))
      there fun _ _ _ _ there _ h => stuck_step there rfl h
  have locks : (ManagerTask.removal forced globalId rest .stuck).locksDevices = true := by
    cases forced <;> rfl
  exact ⟨still, List.any_eq_true.mpr ⟨_, List.mem_of_getElem? still, locks⟩⟩

/-- The call with this number has this in hand. -/
def Shows {β : Type} (s : LinuxVirtualUsbManager) (hand : ManagerTask → Option β) (i : Nat)
    (b : β) : Prop :=
  ∃ task, s.tasks[i]? = some task ∧ hand task = some b

section Shows
variable {β : Type} {hand : ManagerTask → Option β} {b : β} {old next : ManagerTask}
  {tasks : List ManagerTask}

theorem shows_set (h : (s.setTask i next).Shows hand j b) :
    (j = i ∧ hand next = some b) ∨ (j ≠ i ∧ s.Shows hand j b) := by
  obtain ⟨task, at', has⟩ := h
  rw [setTask, List.getElem?_set] at at'
  split at at'
  case isTrue same =>
    split at at'
    · cases at'
      exact .inl ⟨same.symm, has⟩
    · cases at'
  case isFalse other => exact .inr ⟨Ne.symm other, task, at', has⟩

theorem Shows.other (h : s.Shows hand j b) (other : j ≠ i) : (s.setTask i next).Shows hand j b := by
  obtain ⟨task, at', has⟩ := h
  exact ⟨task, (List.getElem?_set_ne (Ne.symm other)).trans at', has⟩

theorem shows_next (at' : s.tasks[i]? = some old) (has : hand next = some b) :
    (s.setTask i next).Shows hand i b :=
  ⟨next, List.getElem?_set_self (List.getElem?_eq_some_iff.mp at').1, has⟩

/-- Nobody's hand changes but the hand of the call that takes the step. -/
theorem Shows.turn (h : s.Shows hand j b) (at' : s.tasks[i]? = some old)
    (same : hand next = hand old) : (s.setTask i next).Shows hand j b := by
  by_cases own : j = i
  · subst own
    obtain ⟨task, there, has⟩ := h
    cases at'.symm.trans there
    exact shows_next at' (same.trans has)
  · exact h.other own

theorem shows_turn (h : (s.setTask i next).Shows hand j b) (at' : s.tasks[i]? = some old)
    (same : hand next = hand old) : s.Shows hand j b := by
  rcases shows_set h with ⟨rfl, has⟩ | ⟨-, before⟩
  · exact ⟨old, at', same.symm.trans has⟩
  · exact before

/-- A step that leaves the hand empty takes nothing from the others. -/
theorem shows_dropped (h : (s.setTask i next).Shows hand j b) (none : hand next = none) :
    s.Shows hand j b := by
  rcases shows_set h with ⟨-, has⟩ | ⟨-, before⟩
  · cases none.symm.trans has
  · exact before

theorem Shows.kept (h : s.Shows hand j b) (at' : s.tasks[i]? = some old)
    (none : hand old = none) : (s.setTask i next).Shows hand j b := by
  refine h.other fun own => ?_
  subst own
  obtain ⟨task, there, has⟩ := h
  cases at'.symm.trans there
  cases none.symm.trans has

theorem shows_begin (h : (s.begin tasks).Shows hand j b)
    (idle : ∀ task ∈ tasks, hand task = none) : s.Shows hand j b := by
  obtain ⟨task, at', has⟩ := h
  rw [begin, List.getElem?_append] at at'
  split at at'
  · exact ⟨task, at', has⟩
  · cases (idle task (List.mem_of_getElem? at')).symm.trans has

theorem Shows.begin (h : s.Shows hand j b) : (s.begin tasks).Shows hand j b := by
  obtain ⟨task, at', has⟩ := h
  refine ⟨task, ?_, has⟩
  rw [LinuxVirtualUsbManager.begin,
    List.getElem?_append_left (List.getElem?_eq_some_iff.mp at').1]
  exact at'

end Shows

/-- A device in the map or an `attach_device` call in progress has the port. -/
def Held (s : LinuxVirtualUsbManager) (p : Nat) : Prop :=
  (∃ globalId device, s.attachedDevices.lookup globalId = some device ∧ device.vhciPort = p) ∨
    ∃ i, s.Shows ManagerTask.holds i p

end LinuxVirtualUsbManager
end P2pUsb
