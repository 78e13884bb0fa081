import P2pUsb.Library.Machine
import P2pUsb.Usb.Registry

/-! A client and a server that lose their connection and find it again: the handles of
the virtual devices against the attachments of the server. -/
namespace P2pUsb
open DeviceManager

/-- A virtual device of this server; `physical` is the device that it was attached to. -/
structure AttachedDevice where
  descriptor : DeviceInfo
  physical : Nat
  deriving DecidableEq, Repr

/-- The connection as the client has it. From the monitor's new connection on to the end
of its reconciliation the client does not use it for anything else. -/
inductive Link where
  | up
  | down
  | listing
  | listed (serverDeviceIds : List DeviceId)
  | reconciling (serverDeviceIds : List DeviceId) (rest : List (DeviceHandle × DeviceId))

def Link.reconciles : Link → Bool
  | .reconciling _ _ => true
  | _ => false

/-- `connection` are the handles in the server's map for this connection, `attaching` the
attachments that the server has made and that have no virtual device yet. -/
structure Reconnection where
  clientId : String
  manager : DeviceManager
  connection : List DeviceHandle
  attaching : List (DeviceHandle × AttachedDevice)
  devices : AList fun _ : DeviceHandle => AttachedDevice
  link : Link

/-- `server` is anything that the server does for others and to its devices. -/
inductive ReconnectionStep where
  | attachDevice (env : UsbEnv) (info : DeviceInfo)
  | store (handle : DeviceHandle) (device : AttachedDevice)
  | detachDevice (handle : DeviceHandle) (unplugged reached : Bool)
  | forceDetach (handle : DeviceHandle)
  | server (op : ManagerOp)
  | lose
  | restart (filters : List String) (config : SharingConfig) (devices : List RusbDevice)
  | heartbeatReconnect
  | monitorReconnect
  | listDevices (env : UsbEnv) (ok : Bool)
  | getAttachedDeviceInfo
  | reconcile (unplugged : Bool)

inductive ReconnectionEvent where
  | restored
  deriving DecidableEq, Repr

/-- What the server does for others gives this client nothing. -/
def DeviceManager.ManagerOp.foreign (clientId : String) : ManagerOp → Bool
  | .attachDevice _ _ client => client ≠ clientId
  | _ => true

/-- The server's side of a lost connection. -/
def DeviceManager.cleanup (m : DeviceManager) (handles : List DeviceHandle) : DeviceManager :=
  handles.foldl (fun m handle => (m.detachDevice handle).2) m

section Attachments
variable {m : DeviceManager} {h j : DeviceHandle} {entry : DeviceId × String} {id : DeviceId}
  {clientId : String}

theorem DeviceManager.detached_lookup
    (held : (m.detachDevice h).2.attached.lookup j = some entry) :
    j ≠ h ∧ m.attached.lookup j = some entry := by
  cases there : m.attached.lookup h with
  | none =>
      simp only [detachDevice, there] at held
      refine ⟨?_, held⟩
      rintro rfl
      cases there.symm.trans held
  | some e =>
      simp only [detachDevice, there] at held
      split at held
      · exact AList.lookup_erase_eq_some.mp held
      · split at held <;> exact AList.lookup_erase_eq_some.mp held

theorem DeviceManager.cleanup_lookup {handles : List DeviceHandle}
    (held : (m.cleanup handles).attached.lookup j = some entry) :
    j ∉ handles ∧ m.attached.lookup j = some entry := by
  induction handles generalizing m with
  | nil => exact ⟨List.not_mem_nil, held⟩
  | cons h rest ih =>
      obtain ⟨out, before⟩ := ih held
      obtain ⟨other, there⟩ := detached_lookup before
      exact ⟨fun present => (List.mem_cons.mp present).elim other out, there⟩

theorem DeviceManager.add_device_attached (device : RusbDevice) :
    (m.addDevice device).2.attached = m.attached := by
  rcases m.add_device_cases device with ⟨same, -⟩ | ⟨burnt, -⟩ | ⟨d, -, -, -, -, added⟩
  · rw [same]
  · rw [burnt]
  · rw [added]
    rfl

theorem DeviceManager.enumerate_attached (devices : List RusbDevice) :
    (m.enumerateDevices devices).attached = m.attached := by
  induction devices generalizing m with
  | nil => rfl
  | cons device rest ih => exact ih.trans (add_device_attached device)

theorem DeviceManager.started_lookup (filters : List String) (config : SharingConfig)
    (devices : List RusbDevice) :
    ((withSharingConfig filters config).enumerateDevices devices).attached.lookup h = none := by
  rw [enumerate_attached]
  rfl

/-- What the server does for others attaches nothing to this client. -/
theorem DeviceManager.operate_lookup {op : ManagerOp} (foreign : op.foreign clientId = true)
    (held : (m.operate op).1.attached.lookup h = some (id, clientId)) :
    m.attached.lookup h = some (id, clientId) := by
  cases op with
  | addDevice device =>
      have same := m.add_device_attached device
      simp only [operate] at held
      rwa [same] at held
  | removeDevice bus address =>
      simp only [operate, removeDevice] at held
      split at held
      · exact held
      · simp only [AList.lookup_retain, Option.filter_eq_some_iff] at held
        exact held.1
  | attachDevice env deviceId other =>
      rcases m.attach_device_cases env deviceId other with ⟨e, failed⟩ |
        ⟨_, _, _, _, _, _, _, _, granted⟩
      · simpa only [operate, failed] using held
      · simp only [operate, granted, DeviceManager.grant, AList.lookup_insert_eq] at held
        split at held
        · cases held
          simp [ManagerOp.foreign] at foreign
        · exact held
  | detachDevice handle => exact (detached_lookup held).2
  | acquireLock now handle writeAccess =>
      simp only [operate, acquireLock] at held
      split at held
      · exact held
      · split at held <;> exact held
  | releaseLock handle =>
      simp only [operate, releaseLock] at held
      split at held
      · exact held
      · split at held <;> exact held
  | processDeviceQueue now deviceId =>
      simp only [operate, processDeviceQueue] at held
      split at held <;> exact held
  | processAllQueues now => exact held

end Attachments

namespace Reconnection

def new (clientId : String) (filters : List String) (config : SharingConfig)
    (devices : List RusbDevice) : Reconnection where
  clientId := clientId
  manager := (withSharingConfig filters config).enumerateDevices devices
  connection := []
  attaching := []
  devices := ∅
  link := .up

/-- Reconciliation goes on with the rest of the devices, or has ended. -/
def proceed (s : Reconnection) (serverDeviceIds : List DeviceId) :
    List (DeviceHandle × DeviceId) → Reconnection × List ReconnectionEvent
  | [] => ({ s with link := .up }, [.restored])
  | rest => ({ s with link := .reconciling serverDeviceIds rest }, [])

def step (s : Reconnection) : ReconnectionStep → Option (Reconnection × List ReconnectionEvent)
  | .attachDevice env info =>
      match s.link, s.manager.attachDevice env info.id s.clientId with
      | .up, (.ok handle, manager) =>
          (manager.getDeviceByHandle handle).map fun device =>
            ({ s with
              manager
              connection := handle :: s.connection
              attaching := (handle, ⟨info, device.device.ref⟩) :: s.attaching }, [])
      | .up, (.error _, manager) => some ({ s with manager }, [])
      | _, _ => none
  | .store handle device =>
      if (handle, device) ∈ s.attaching then
        some ({ s with
          attaching := s.attaching.erase (handle, device)
          devices := s.devices.insert handle device }, [])
      else none
  | .detachDevice handle unplugged reached =>
      if handle ∈ s.devices ∧ unplugged then
        match s.link, reached && s.connection.contains handle with
        | .up, true => some ({ s with
            manager := (s.manager.detachDevice handle).2
            connection := s.connection.filter (· ≠ handle)
            devices := s.devices.erase handle }, [])
        | _, _ => some ({ s with devices := s.devices.erase handle }, [])
      else some (s, [])
  | .forceDetach handle =>
      -- for a device that is not there the call waits for a lock that it holds itself
      if handle ∈ s.devices then some ({ s with devices := s.devices.erase handle }, [])
      else none
  | .server op =>
      if op.foreign s.clientId then some ({ s with manager := (s.manager.operate op).1 }, [])
      else none
  | .lose =>
      match s.link with
      | .down => none
      | _ => some ({ s with
          manager := s.manager.cleanup s.connection
          connection := []
          link := .down }, [])
  | .restart filters config devices =>
      match s.link with
      | .down => some ({ s with
          manager := (withSharingConfig filters config).enumerateDevices devices }, [])
      | _ => none
  | .heartbeatReconnect =>
      match s.link with
      | .down => some ({ s with link := .up }, [.restored])
      | _ => none
  | .monitorReconnect =>
      match s.link with
      | .down => some ({ s with link := .listing }, [])
      | _ => none
  | .listDevices env ok =>
      match s.link, ok with
      | .listing, true =>
          some ({ s with link := .listed ((s.manager.listDevices env).map DeviceInfo.id) }, [])
      | .listing, false => some ({ s with link := .up }, [.restored])
      | _, _ => none
  | .getAttachedDeviceInfo =>
      match s.link with
      | .listed serverDeviceIds =>
          some (s.proceed serverDeviceIds (s.devices.entries.map fun e => (e.1, e.2.descriptor.id)))
      | _ => none
  | .reconcile unplugged =>
      match s.link with
      | .reconciling serverDeviceIds ((handle, deviceId) :: rest) =>
          if deviceId ∉ serverDeviceIds ∧ unplugged then
            some (proceed { s with devices := s.devices.erase handle } serverDeviceIds rest)
          else some (s.proceed serverDeviceIds rest)
      | _ => none

end Reconnection

/-- One client with one server, and everything around them. -/
def reconnections : Machine Reconnection ReconnectionStep ReconnectionEvent where
  step s a := s.step a

namespace Reconnection

/-- The handle is attached to this client, for the device of the virtual device. -/
def Live (s : Reconnection) (handle : DeviceHandle) (d : AttachedDevice) : Prop :=
  (∃ id, s.manager.attached.lookup handle = some (id, s.clientId)) ∧
    ∃ device, s.manager.getDeviceByHandle handle = some device ∧ device.device.ref = d.physical

def NoStaleHandles (s : Reconnection) : Prop :=
  ∀ handle d, s.devices.lookup handle = some d → s.Live handle d

/-- The device that reconciliation meets next, with the ids that the server has listed. -/
def meets (s : Reconnection) : Option (List DeviceId × DeviceHandle × DeviceId) :=
  match s.link with
  | .reconciling serverDeviceIds (first :: _) => some (serverDeviceIds, first)
  | _ => none

/-- No device is left when the heartbeat has a new connection or the monitor gets no
list, every device that the monitor then meets is missing from the list and can be
unplugged, and none is stored while it goes through them. -/
def Clears (s : Reconnection) : ReconnectionStep → Prop
  | .store _ _ => s.link.reconciles = false
  | .heartbeatReconnect => s.devices.keys = []
  | .listDevices _ ok => ok = true ∨ s.devices.keys = []
  | .reconcile unplugged => ∀ m ∈ s.meets, m.2.1 ∈ s.devices → m.2.2 ∉ m.1 ∧ unplugged = true
  | _ => True

instance (s : Reconnection) : (a : ReconnectionStep) → Decidable (s.Clears a)
  | .store _ _ => inferInstanceAs (Decidable (s.link.reconciles = false))
  | .heartbeatReconnect => inferInstanceAs (Decidable (s.devices.keys = []))
  | .listDevices _ ok => inferInstanceAs (Decidable (ok = true ∨ s.devices.keys = []))
  | .reconcile _ => inferInstanceAs (Decidable (∀ m ∈ s.meets, _))
  | .attachDevice _ _ | .detachDevice _ _ _ | .forceDetach _ | .server _ | .lose | .restart _ _ _
  | .monitorReconnect | .getAttachedDeviceInfo => inferInstanceAs (Decidable True)

variable {s t : Reconnection} {a : ReconnectionStep} {out tr : List ReconnectionEvent}
  {serverDeviceIds : List DeviceId} {rest : List (DeviceHandle × DeviceId)}

/-- All that a step does, with what it found. -/
inductive Does (s : Reconnection) :
    ReconnectionStep → Reconnection → List ReconnectionEvent → Prop
  | attached {env : UsbEnv} {info : DeviceInfo} {handle : DeviceHandle} {manager : DeviceManager}
      {device : AttachedDevice} (at' : s.link = .up)
      (answered : s.manager.attachDevice env info.id s.clientId = (.ok handle, manager)) :
      Does s (.attachDevice env info) { s with
        manager
        connection := handle :: s.connection
        attaching := (handle, device) :: s.attaching } []
  | refused {env : UsbEnv} {info : DeviceInfo} {e : AttachError} {manager : DeviceManager}
      (answered : s.manager.attachDevice env info.id s.clientId = (.error e, manager)) :
      Does s (.attachDevice env info) { s with manager } []
  | stored {handle : DeviceHandle} {device : AttachedDevice} :
      Does s (.store handle device) { s with
        attaching := s.attaching.erase (handle, device)
        devices := s.devices.insert handle device } []
  | detached {handle : DeviceHandle} {unplugged reached : Bool} (at' : s.link = .up) :
      Does s (.detachDevice handle unplugged reached) { s with
        manager := (s.manager.detachDevice handle).2
        connection := s.connection.filter (· ≠ handle)
        devices := s.devices.erase handle } []
  | forgotten {a : ReconnectionStep} {handle : DeviceHandle} :
      Does s a { s with devices := s.devices.erase handle } []
  | nothing {a : ReconnectionStep} : Does s a s []
  | served {op : ManagerOp} (foreign : op.foreign s.clientId = true) :
      Does s (.server op) { s with manager := (s.manager.operate op).1 } []
  | lost : Does s .lose { s with
      manager := s.manager.cleanup s.connection
      connection := []
      link := .down } []
  | restarted (filters : List String) (config : SharingConfig) (devices : List RusbDevice) :
      Does s (.restart filters config devices) { s with
        manager := (withSharingConfig filters config).enumerateDevices devices } []
  | heartbeat (at' : s.link = .down) :
      Does s .heartbeatReconnect { s with link := .up } [.restored]
  | monitor (at' : s.link = .down) : Does s .monitorReconnect { s with link := .listing } []
  | listed {env : UsbEnv} (at' : s.link = .listing) :
      Does s (.listDevices env true)
        { s with link := .listed ((s.manager.listDevices env).map DeviceInfo.id) } []
  | unlisted {env : UsbEnv} (at' : s.link = .listing) :
      Does s (.listDevices env false) { s with link := .up } [.restored]
  | begun {ids : List DeviceId} (at' : s.link = .listed ids) :
      Does s .getAttachedDeviceInfo
        (s.proceed ids (s.devices.entries.map fun e => (e.1, e.2.descriptor.id))).1
        (s.proceed ids (s.devices.entries.map fun e => (e.1, e.2.descriptor.id))).2
  | removed {ids : List DeviceId} {handle : DeviceHandle} {deviceId : DeviceId}
      {rest : List (DeviceHandle × DeviceId)}
      (at' : s.link = .reconciling ids ((handle, deviceId) :: rest)) :
      Does s (.reconcile true) (proceed { s with devices := s.devices.erase handle } ids rest).1
        (proceed { s with devices := s.devices.erase handle } ids rest).2
  | stayed {ids : List DeviceId} {handle : DeviceHandle} {deviceId : DeviceId}
      {rest : List (DeviceHandle × DeviceId)} {unplugged : Bool}
      (at' : s.link = .reconciling ids ((handle, deviceId) :: rest))
      (met : ¬ (deviceId ∉ ids ∧ unplugged = true)) :
      Does s (.reconcile unplugged) (s.proceed ids rest).1 (s.proceed ids rest).2

theorem step_does (h : s.step a = some (t, out)) : s.Does a t out := by
  cases a with
  | attachDevice env info =>
      simp only [step] at h
      split at h
      · rename_i handle manager at' answered
        obtain ⟨device, -, same⟩ := Option.map_eq_some_iff.mp h
        cases same
        exact .attached at' answered
      · rename_i e manager at' answered
        cases h
        exact .refused answered
      · cases h
  | store handle device =>
      simp only [step] at h
      split at h <;> cases h
      exact .stored
  | detachDevice handle unplugged reached =>
      simp only [step] at h
      split at h
      · split at h <;> cases h
        · exact .detached ‹_›
        · exact .forgotten
      · cases h
        exact .nothing
  | forceDetach handle =>
      simp only [step] at h
      split at h <;> cases h
      exact .forgotten
  | server op =>
      simp only [step] at h
      split at h <;> cases h
      exact .served ‹_›
  | lose =>
      simp only [step] at h
      split at h <;> cases h
      exact .lost
  | restart filters config devices =>
      simp only [step] at h
      split at h <;> cases h
      exact .restarted filters config devices
  | heartbeatReconnect =>
      simp only [step] at h
      split at h <;> cases h
      exact .heartbeat ‹_›
  | monitorReconnect =>
      simp only [step] at h
      split at h <;> cases h
      exact .monitor ‹_›
  | listDevices env ok =>
      simp only [step] at h
      split at h <;> cases h
      · exact .listed ‹_›
      · exact .unlisted ‹_›
  | getAttachedDeviceInfo =>
      simp only [step] at h
      split at h
      · obtain rfl := congrArg Prod.fst (Option.some.inj h)
        obtain rfl := congrArg Prod.snd (Option.some.inj h)
        exact .begun ‹_›
      · cases h
  | reconcile unplugged =>
      simp only [step] at h
      split at h
      · rename_i at'
        split at h
        · rename_i met
          obtain rfl := congrArg Prod.fst (Option.some.inj h)
          obtain rfl := congrArg Prod.snd (Option.some.inj h)
          obtain ⟨-, rfl⟩ := met
          exact .removed at'
        · rename_i met
          obtain rfl := congrArg Prod.fst (Option.some.inj h)
          obtain rfl := congrArg Prod.snd (Option.some.inj h)
          exact .stayed at' met
      · cases h

/-- The attachments of the client are those of its connection, which is empty while
there is none that the client uses. -/
structure Attached (s : Reconnection) : Prop where
  covered : ∀ h id, s.manager.attached.lookup h = some (id, s.clientId) → h ∈ s.connection
  closed : s.link = .up ∨ s.connection = []

theorem attached_new (clientId : String) (filters : List String) (config : SharingConfig)
    (devices : List RusbDevice) : (new clientId filters config devices).Attached where
  covered h id held := by
    cases (started_lookup filters config devices).symm.trans held
  closed := .inl rfl

/-- Nothing but the list of local devices and the link changes. -/
theorem Attached.kept (attached : s.Attached) (manager : t.manager = s.manager)
    (client : t.clientId = s.clientId) (connection : t.connection = s.connection)
    (link : t.link = .up ∨ s.connection = []) : t.Attached where
  covered h id held := by
    rw [manager, client] at held
    rw [connection]
    exact attached.covered h id held
  closed := by rwa [connection]

theorem proceed_kept (s : Reconnection) (serverDeviceIds : List DeviceId)
    (rest : List (DeviceHandle × DeviceId)) :
    (s.proceed serverDeviceIds rest).1.manager = s.manager ∧
      (s.proceed serverDeviceIds rest).1.clientId = s.clientId ∧
      (s.proceed serverDeviceIds rest).1.connection = s.connection ∧
      (s.proceed serverDeviceIds rest).1.devices = s.devices := by
  cases rest <;> exact ⟨rfl, rfl, rfl, rfl⟩

theorem Attached.proceed (attached : s.Attached) (closed : s.connection = []) :
    (s.proceed serverDeviceIds rest).1.Attached := by
  obtain ⟨manager, client, connection, -⟩ := s.proceed_kept serverDeviceIds rest
  exact attached.kept manager client connection (.inr closed)

/-- Where the client does not use its connection, the server has nothing for it. -/
theorem Attached.none (attached : s.Attached) (away : s.link ≠ .up) (h : DeviceHandle)
    (id : DeviceId) : s.manager.attached.lookup h ≠ some (id, s.clientId) := by
  intro held
  have present := attached.covered h id held
  rw [attached.closed.resolve_left away] at present
  cases present

theorem attached_step (attached : s.Attached) (h : s.step a = some (t, out)) : t.Attached := by
  have closed : s.link ≠ .up → s.connection = [] := attached.closed.resolve_left
  cases step_does h with
  | attached at' answered =>
      refine ⟨fun j id held => ?_, .inl at'⟩
      rcases s.manager.attach_device_cases _ _ s.clientId with ⟨e, failed⟩ |
        ⟨_, _, _, _, _, _, _, _, granted⟩
      · cases answered.symm.trans failed
      · cases answered.symm.trans granted
        simp only [DeviceManager.grant, AList.lookup_insert_eq] at held
        split at held
        case isTrue own => exact own ▸ List.mem_cons_self
        case isFalse => exact List.mem_cons_of_mem _ (attached.covered j id held)
  | refused answered =>
      rcases s.manager.attach_device_cases _ _ s.clientId with ⟨e, failed⟩ |
        ⟨_, _, _, _, _, _, _, _, granted⟩
      · cases answered.symm.trans failed
        exact attached.kept rfl rfl rfl attached.closed
      · cases answered.symm.trans granted
  | stored | forgotten => exact attached.kept rfl rfl rfl attached.closed
  | nothing => exact attached
  | detached at' =>
      refine ⟨fun j id held => ?_, .inl at'⟩
      obtain ⟨other, there⟩ := detached_lookup held
      exact List.mem_filter.mpr ⟨attached.covered j id there, decide_eq_true other⟩
  | served foreign =>
      exact ⟨fun h id held => attached.covered h id (operate_lookup foreign held), attached.closed⟩
  | lost =>
      refine ⟨fun h id held => ?_, .inr rfl⟩
      obtain ⟨out, there⟩ := cleanup_lookup held
      exact absurd (attached.covered h id there) out
  | restarted filters config devices =>
      refine ⟨fun h id held => ?_, attached.closed⟩
      cases (started_lookup filters config devices).symm.trans held
  | heartbeat | unlisted => exact attached.kept rfl rfl rfl (.inl rfl)
  | monitor at' | listed at' => exact attached.kept rfl rfl rfl (.inr (closed (by simp [at'])))
  | begun at' | stayed at' => exact attached.proceed (closed (by simp [at']))
  | removed at' =>
      exact Attached.proceed (attached.kept rfl rfl rfl attached.closed) (closed (by simp [at']))

theorem proceed_restored (restored : .restored ∈ (s.proceed serverDeviceIds rest).2) :
    rest = [] := by
  cases rest with
  | nil => rfl
  | cons => cases restored

/-- The client does not use its connection before it is restored. -/
theorem restored_away (h : s.step a = some (t, out)) (restored : .restored ∈ out) :
    s.link ≠ .up ∧ t.manager = s.manager ∧ t.clientId = s.clientId := by
  cases step_does h with
  | heartbeat at' | unlisted at' => exact ⟨by simp [at'], rfl, rfl⟩
  | begun at' | removed at' | stayed at' =>
      refine ⟨by simp [at'], ?_, ?_⟩
      · exact (proceed_kept _ _ _).1
      · exact (proceed_kept _ _ _).2.1
  | attached | refused | stored | detached | forgotten | nothing | served | lost | restarted
  | monitor | listed => cases restored

theorem no_devices : s.devices.keys = [] ↔ ∀ handle, s.devices.lookup handle = none := by
  rw [List.eq_nil_iff_forall_not_mem]
  exact forall_congr' fun handle => AList.lookup_eq_none.symm

/-- Where the connection has just been restored, a handle is stale unless there is none. -/
theorem restored_iff (attached : s.Attached) (h : s.step a = some (t, out))
    (restored : .restored ∈ out) : t.NoStaleHandles ↔ t.devices.keys = [] := by
  obtain ⟨away, manager, client⟩ := restored_away h restored
  rw [no_devices]
  constructor
  · intro live handle
    cases there : t.devices.lookup handle with
    | none => rfl
    | some d =>
        obtain ⟨id, held⟩ := (live handle d there).1
        rw [manager, client] at held
        exact absurd held (attached.none away handle id)
  · intro none handle d there
    cases (none handle).symm.trans there

/-- What reconciliation is still to meet: every device of the client, where none is
stored meanwhile. -/
def Pending (s : Reconnection) : Prop :=
  ∀ serverDeviceIds rest, s.link = .reconciling serverDeviceIds rest →
    ∀ handle ∈ s.devices, handle ∈ rest.map Prod.fst

theorem Pending.idle (idle : s.link.reconciles = false) : s.Pending := by
  intro ids rest at'
  cases (congrArg Link.reconciles at').symm.trans idle

/-- Where every device is still to be met, none is left at the end. -/
theorem pending_proceed {u : Reconnection}
    (met : ∀ handle ∈ u.devices, handle ∈ rest.map Prod.fst) :
    (u.proceed serverDeviceIds rest).1.Pending ∧
      (.restored ∈ (u.proceed serverDeviceIds rest).2 →
        (u.proceed serverDeviceIds rest).1.devices.keys = []) := by
  constructor
  · intro ids rest' at' handle present
    rw [(u.proceed_kept serverDeviceIds rest).2.2.2] at present
    cases rest with
    | nil => cases at'
    | cons first more =>
        cases at'
        exact met handle present
  · intro restored
    obtain rfl := proceed_restored restored
    exact List.eq_nil_iff_forall_not_mem.mpr fun handle present =>
      List.not_mem_nil (met handle (AList.mem_keys.mpr present))

/-- A condition that clears the devices leaves none when a connection is restored. -/
theorem pending_step (pending : s.Pending) (clears : s.Clears a)
    (h : s.step a = some (t, out)) :
    t.Pending ∧ (.restored ∈ out → t.devices.keys = []) := by
  cases step_does h with
  | attached | refused | nothing | served | restarted =>
      exact ⟨pending, fun restored => (by cases restored)⟩
  | stored => exact ⟨.idle clears, fun restored => (by cases restored)⟩
  | detached | forgotten =>
      refine ⟨fun ids rest at' handle present => ?_, fun restored => (by cases restored)⟩
      exact pending ids rest at' handle (AList.mem_erase.mp present).2
  | lost | monitor | listed => exact ⟨.idle rfl, fun restored => (by cases restored)⟩
  | heartbeat => exact ⟨.idle rfl, fun _ => clears⟩
  | unlisted => exact ⟨.idle rfl, fun _ => clears.resolve_left Bool.false_ne_true⟩
  | begun =>
      refine pending_proceed fun handle present => ?_
      rw [List.map_map]
      exact AList.mem_keys.mp present
  | removed at' =>
      refine pending_proceed fun handle present => ?_
      obtain ⟨other, there⟩ := AList.mem_erase.mp present
      exact (List.mem_cons.mp (pending _ _ at' handle there)).resolve_left other
  | stayed at' met =>
      refine pending_proceed fun handle present => ?_
      refine (List.mem_cons.mp (pending _ _ at' handle present)).resolve_left ?_
      rintro rfl
      exact met (clears (_, _, _) (by rw [meets, at']; rfl) present)

section runs
variable {clientId : String} {filters : List String} {config : SharingConfig}
  {devices : List RusbDevice}

theorem attached_run (run : reconnections.Reach (new clientId filters config devices) tr s) :
    s.Attached :=
  run.stateInvariant (attached_new clientId filters config devices)
    fun _ _ _ _ attached _ => attached_step attached

/-- In runs whose reconnections find or leave no device, no handle is stale when a
connection has been restored. -/
theorem no_stale_handles
    (run : reconnections.Exec Clears (new clientId filters config devices) tr s)
    (clears : s.Clears a) (h : s.step a = some (t, out)) (restored : .restored ∈ out) :
    t.NoStaleHandles := by
  have pending : s.Pending := run.stateInvariant (I := Pending) (by rintro ids rest ⟨⟩)
    fun _ _ _ _ pending clears h => (pending_step pending clears h).1
  exact (restored_iff (attached_run (run.mono fun _ _ _ => trivial)) h restored).mpr
    ((pending_step pending clears h).2 restored)

end runs

/-- The device that the server lists. -/
def exampleListed : DeviceInfo :=
  ⟨⟨1⟩, 0x1234, 0x5678, 1, 1, none, none, none, 3, 0, 0, .high, 1⟩

/-- A client attaches the device, and the connection is lost. -/
def exampleLost : List ReconnectionStep :=
  [.attachDevice (exampleEnv 0 []) exampleListed, .store ⟨1⟩ ⟨exampleListed, 0⟩, .lose]

/-- The device is unplugged meanwhile, and the monitor reconnects. -/
def exampleUnplugged : List ReconnectionStep :=
  exampleLost ++ [.server (.removeDevice 1 1), .monitorReconnect,
    .listDevices (exampleEnv 0 []) true, .getAttachedDeviceInfo]

theorem no_stale_handles_unplugged : ∃ s t : Reconnection, s.devices.keys = [⟨1⟩] ∧
    s.step (.reconcile true) = some (t, [.restored]) ∧ t.NoStaleHandles := by
  have run : ∃ s t : Reconnection,
      reconnections.Exec Clears (new "a" [] .default [exampleDevice 0 1 1]) [] s ∧
        s.devices.keys = [⟨1⟩] ∧ s.Clears (.reconcile true) ∧
        s.step (.reconcile true) = some (t, [.restored]) :=
    ⟨_, _, .of_within .start
      (rfl : (reconnections.within Clears).run _ exampleUnplugged = some (_, _)),
      rfl, by decide, rfl⟩
  obtain ⟨s, t, run, listed, clears, h⟩ := run
  exact ⟨s, t, listed, h, no_stale_handles run clears h List.mem_cons_self⟩

/-- The heartbeat reconnects without reconciliation, and the monitor keeps a device that
is still listed; the server has detached it either way. -/
theorem listed_device_stays_stale :
    (∃ s t, reconnections.Reach (new "a" [] .default [exampleDevice 0 1 1]) [] s ∧
      s.step .heartbeatReconnect = some (t, [.restored]) ∧ ¬ t.NoStaleHandles) ∧
    ∃ s t, reconnections.Reach (new "a" [] .default [exampleDevice 0 1 1]) [] s ∧
      s.step (.reconcile true) = some (t, [.restored]) ∧ ¬ t.NoStaleHandles := by
  constructor
  · refine ⟨_, _, .of_run (rfl : reconnections.run _ exampleLost = some (_, _)), rfl,
      fun live => ?_⟩
    obtain ⟨⟨id, held⟩, -⟩ := live ⟨1⟩ ⟨exampleListed, 0⟩ rfl
    cases held
  · refine ⟨_, _, .of_run (rfl : reconnections.run _ (exampleLost ++ [.monitorReconnect,
      .listDevices (exampleEnv 0 []) true, .getAttachedDeviceInfo]) = some (_, _)), rfl,
      fun live => ?_⟩
    obtain ⟨⟨id, held⟩, -⟩ := live ⟨1⟩ ⟨exampleListed, 0⟩ rfl
    cases held

end Reconnection
end P2pUsb
