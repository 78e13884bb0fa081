import P2pUsb.Library.Replay
import P2pUsb.Network.Announcements
import P2pUsb.Network.Disconnect

/-! What the worker's events say of the registry, and what a step of the server means for
the lists and the events that its clients are told of. -/
namespace P2pUsb
open Replay

namespace UsbEvent

/-- What the event says of the presence of a device. -/
def tells (event : UsbEvent) (d : DeviceId) : Option Bool := event.pending.presence d

def deviceId (event : UsbEvent) : DeviceId := event.pending.deviceId

def invalidatedHandles (event : UsbEvent) : List DeviceHandle := event.pending.invalidatedHandles

theorem tells_some (event : UsbEvent) : ∃ present, event.tells event.deviceId = some present := by
  cases event with
  | deviceArrived info => exact ⟨true, if_pos rfl⟩
  | deviceLeft id handles clients => exact ⟨false, if_pos rfl⟩

end UsbEvent

/-- What the worker has said of a device is so for as long as the server runs. -/
def DeviceManager.Spoken (m : DeviceManager) : UsbEvent → Prop
  | .deviceArrived info => m.InfoOk info
  | .deviceLeft id handles clients => m.EventOk (.deviceLeft id handles clients)

namespace DeviceManager
variable {m m' : DeviceManager} {env : UsbEnv} {ready : DebouncedEvent} {event : UsbEvent}

theorem Spoken.update (spoken : m.Spoken event) (step : m.Update m') : m'.Spoken event := by
  cases event with
  | deviceArrived info => exact InfoOk.update spoken step
  | deviceLeft id handles clients =>
      have ok : m.EventOk (.deviceLeft id handles clients) := spoken
      exact ok.update step

/-- The event tells what has become of the registry. -/
structure Reports (m m' : DeviceManager) (event : UsbEvent) : Prop where
  explains : Explains UsbEvent.tells event (· ∈ m.deviceIds) (· ∈ m'.deviceIds)
  spoken : m'.Spoken event
  fresh : event.deviceId ∈ m.deviceIds ∨ m.nextDeviceId ≤ event.deviceId.val
  attached : ∀ h ∈ m.attached, h ∈ m'.attached ∨ h ∈ event.invalidatedHandles

theorem add_device_ids {device : RusbDevice} {id : DeviceId} (hm : m.RegistryInv)
    (added : m.addDevice device = (.ok id, m')) :
    id ∈ m'.deviceIds ∧ (∀ d, d ≠ id → (d ∈ m'.deviceIds ↔ d ∈ m.deviceIds)) ∧
      (id ∈ m.deviceIds ∨ m.nextDeviceId ≤ id.val) := by
  rcases m.add_device_cases device with ⟨same, known⟩ | ⟨-, e, failed⟩ | ⟨d, -, -, own, -, new⟩
  · rw [added] at same known
    obtain rfl : m' = m := same
    obtain ⟨key, d, there, rfl⟩ := known id rfl
    have registered := AList.mem_of_lookup (hm.device_key key d there)
    exact ⟨registered, fun _ _ => Iff.rfl, .inl registered⟩
  · rw [added] at failed
    cases failed
  · rw [added] at new
    obtain ⟨same, rfl⟩ := Prod.mk.inj new
    obtain rfl := Except.ok.inj same
    refine ⟨(AList.mem_insert _).mpr (.inl own.symm), fun j other => ?_, .inr le_rfl⟩
    refine (AList.mem_insert _).trans (or_iff_right ?_)
    rwa [own]

/-- A device that was added is there to be told of. -/
theorem RegistryInv.added_found (hm : m.RegistryInv) {id : DeviceId} (added : id ∈ m.deviceIds) :
    ∃ key d, m.devices.lookup key = some d ∧ d.id = id ∧ m.getDeviceById id = some d := by
  obtain ⟨key, registered⟩ := AList.mem_iff.mp added
  obtain ⟨d, there, same⟩ := hm.id_device id key registered
  refine ⟨key, d, there, same, ?_⟩
  rw [getDeviceById, registered, Option.bind_some, there]

theorem RegistryInv.info_ok (hm : m.RegistryInv) {key : BusAddress} {d : UsbDevice}
    (there : m.devices.lookup key = some d) (env : UsbEnv) : m.InfoOk (d.deviceInfo env) :=
  hm.list_devices_ok env _ (List.mem_map.mpr ⟨⟨key, d⟩, AList.lookup_eq_some.mp there, rfl⟩)

theorem RegistryInv.arrival_reports (hm : m.RegistryInv) {bus address : UInt8}
    (arrives : m.handleDeviceArrivedInternal env bus address = (some event, m')) :
    m.Reports m' event := by
  have attached := m.device_arrived_attached env bus address
  have hm' := hm.update (m.device_arrived_update env bus address)
  rw [arrives] at attached hm'
  unfold handleDeviceArrivedInternal at arrives
  split at arrives
  · cases (Prod.mk.inj arrives).1
  split at arrives
  · cases (Prod.mk.inj arrives).1
  split at arrives
  case h_1 id after added =>
    obtain ⟨shown, rfl⟩ := Prod.mk.inj arrives
    obtain ⟨present, others, fresh⟩ := add_device_ids hm added
    obtain ⟨key, d, there, rfl, found⟩ := hm'.added_found present
    rw [found] at shown
    obtain rfl := Option.some.inj shown
    refine ⟨fun j => ?_, hm'.info_ok there env, fresh, fun h held => .inl (attached ▸ held)⟩
    have own : (UsbEvent.deviceArrived (d.deviceInfo env)).tells j =
        if d.id = j then some true else none := rfl
    rw [own]
    by_cases same : d.id = j
    · rw [if_pos same]
      exact ⟨fun b said => Option.some.inj said ▸ iff_of_true rfl (same ▸ present), nofun⟩
    · rw [if_neg same]
      exact ⟨nofun, fun _ => others j (Ne.symm same)⟩
  case h_2 => cases (Prod.mk.inj arrives).1

theorem RegistryInv.departure_reports (hm : m.RegistryInv) {bus address : UInt8}
    (leaves : m.handleDeviceLeftInternal bus address = (some event, m')) :
    m.Reports m' event := by
  unfold handleDeviceLeftInternal at leaves
  split at leaves
  case h_2 => cases (Prod.mk.inj leaves).1
  case h_1 id handles clients after removed =>
    obtain ⟨shown, rfl⟩ := Prod.mk.inj leaves
    obtain rfl := Option.some.inj shown
    have ok := hm.remove_device_ok removed
    unfold removeDevice at removed
    dsimp only at removed
    split at removed
    · cases (Prod.mk.inj removed).1
    case h_2 device tracked =>
      obtain ⟨shown, rfl⟩ := Prod.mk.inj removed
      obtain ⟨rfl, lists⟩ := Prod.mk.inj (Option.some.inj shown)
      obtain ⟨rfl, -⟩ := Prod.mk.inj lists
      have registered := AList.mem_of_lookup (hm.device_key _ _ tracked)
      refine ⟨fun j => ?_, ok, .inl registered, fun h held => ?_⟩
      · have own : ∀ handles, (UsbEvent.deviceLeft device.id handles clients).tells j =
            if device.id = j then some false else none := fun _ => rfl
        rw [own]
        by_cases same : device.id = j
        · rw [if_pos same]
          refine ⟨fun b said => Option.some.inj said ▸ iff_of_false Bool.false_ne_true ?_, nofun⟩
          exact fun there => (AList.mem_erase.mp there).1 same.symm
        · rw [if_neg same]
          exact ⟨nofun, fun _ => AList.mem_erase.trans (and_iff_right (Ne.symm same))⟩
      · obtain ⟨entry, found⟩ := AList.mem_iff.mp held
        by_cases own : entry.1 = device.id
        · exact .inr (AList.mem_retain.mpr ⟨entry, found, beq_iff_eq.mpr own⟩)
        · exact .inl (AList.mem_retain.mpr ⟨entry, found, bne_iff_ne.mpr own⟩)

theorem RegistryInv.ready_event_reports (hm : m.RegistryInv)
    (fired : m.processReadyEvent env ready = (some event, m')) : m.Reports m' event := by
  unfold processReadyEvent at fired
  split at fired
  · exact hm.arrival_reports fired
  · exact hm.departure_reports fired

/-- Without an event the registry is as it was. -/
theorem RegistryInv.ready_event_silent (hm : m.RegistryInv)
    (fired : m.processReadyEvent env ready = (none, m')) :
    (∀ d, d ∈ m'.deviceIds ↔ d ∈ m.deviceIds) ∧ m'.attached = m.attached := by
  unfold processReadyEvent at fired
  split at fired
  · have attached := m.device_arrived_attached env ready.bus ready.address
    have hm' := hm.update (m.device_arrived_update env ready.bus ready.address)
    rw [fired] at attached hm'
    refine ⟨fun d => ?_, attached⟩
    unfold handleDeviceArrivedInternal at fired
    split at fired
    · obtain ⟨-, rfl⟩ := Prod.mk.inj fired
      exact Iff.rfl
    split at fired
    · obtain ⟨-, rfl⟩ := Prod.mk.inj fired
      exact Iff.rfl
    case h_2 device _ =>
      split at fired
      case h_1 id after added =>
        obtain ⟨silent, rfl⟩ := Prod.mk.inj fired
        obtain ⟨_, _, _, _, found⟩ := hm'.added_found (add_device_ids hm added).1
        rw [found] at silent
        cases silent
      case h_2 e after failed =>
        obtain ⟨-, rfl⟩ := Prod.mk.inj fired
        rcases m.add_device_cases device with ⟨same, -⟩ | ⟨burnt, -⟩ | ⟨d', -, -, -, -, new⟩
        · rw [failed] at same
          obtain rfl : after = m := same
          exact Iff.rfl
        · rw [failed] at burnt
          obtain rfl : after = { m with nextDeviceId := m.nextDeviceId + 1 } := burnt
          exact Iff.rfl
        · rw [failed] at new
          cases (Prod.mk.inj new).1
  · unfold handleDeviceLeftInternal at fired
    split at fired
    · cases (Prod.mk.inj fired).1
    case h_2 after absent =>
      obtain ⟨-, rfl⟩ := Prod.mk.inj fired
      unfold removeDevice at absent
      dsimp only at absent
      split at absent
      · obtain ⟨-, rfl⟩ := Prod.mk.inj absent
        exact ⟨fun _ => Iff.rfl, rfl⟩
      · cases (Prod.mk.inj absent).1

end DeviceManager

/-! ### The connections -/

namespace ClientConnection
variable {c : ClientConnection} {engine : PolicyEngine}

/-- No reply waits for the handler. -/
def Unreplied (c : ClientConnection) : Prop :=
  ∀ token next reply, c.phase ≠ .awaiting token next (some reply)

/-- The handler goes on with something else than a list of devices for its client. -/
def Unlisting (r : ClientConnection × List ConnectionEffect) : Prop :=
  r.1.Unreplied ∧ ∀ devices, .responded (.listDevicesResponse devices) ∉ r.2

theorem unlisting_respond {payload : MessagePayload}
    (other : ∀ devices, payload ≠ .listDevicesResponse devices) :
    Unlisting (c.respond payload) := by
  refine ⟨fun _ _ _ => Phase.noConfusion, fun devices mem => other devices ?_⟩
  exact (ConnectionEffect.responded.inj (List.mem_singleton.mp mem)).symm

theorem unlisting_send (cmd : UsbCommand) (next : Continuation) :
    Unlisting (c.sendCommand cmd next) :=
  ⟨fun _ _ _ => Phase.noConfusion, fun _ => List.not_mem_nil⟩

theorem unlisting_attach (wall : Nat) (id : DeviceId) (info : DeviceInfo) :
    Unlisting (c.attachWithInfo engine wall id info) := by
  rcases c.attach_with_info_cases engine wall id info with sent | ⟨reason, denied⟩
  · rw [sent]
    exact ⟨fun _ _ _ => Phase.noConfusion, by simp⟩
  · rw [denied]
    exact ⟨fun _ _ _ => Phase.noConfusion, by simp⟩

theorem unlisting_message (now : ClockReading) (payload : MessagePayload) :
    Unlisting (c.handleMessage engine now payload) := by
  unfold handleMessage
  split
  case h_1 | h_3 | h_7 => exact unlisting_send _ _
  case h_2 id =>
    unfold handleAttachDevice
    split
    · exact unlisting_attach _ _ _
    · exact unlisting_send _ _
  case h_4 request =>
    unfold handleSubmitTransfer
    split
    · exact unlisting_respond fun _ => MessagePayload.noConfusion
    · exact ⟨fun _ _ _ => Phase.noConfusion, fun _ => List.not_mem_nil⟩
  case h_8 h w timeoutSecs =>
    unfold handleLockDevice
    split
    · exact unlisting_respond fun _ => MessagePayload.noConfusion
    · exact unlisting_send _ _
  case h_9 h =>
    unfold handleUnlockDevice
    split
    · exact unlisting_respond fun _ => MessagePayload.noConfusion
    · exact unlisting_send _ _
  all_goals exact unlisting_respond fun _ => MessagePayload.noConfusion

theorem unreplied_expired (events : List SessionExpiredEvent) :
    (c.handleExpiredSessions events).Unreplied := by
  induction events with
  | nil => exact fun _ _ _ => Phase.noConfusion
  | cons event rest ih =>
      unfold handleExpiredSessions
      split
      · exact fun _ _ _ => Phase.noConfusion
      · exact ih

theorem unreplied_cleanup (order : List DeviceHandle) : (c.cleanup order).Unreplied := by
  cases order with
  | nil => exact fun _ _ _ => Phase.noConfusion
  | cons h rest => exact fun _ _ _ => Phase.noConfusion

theorem resume_lists (c : ClientConnection) (engine : PolicyEngine) (now : ClockReading)
    (sessions : ActiveSessions) (next : Continuation) (reply : UsbReply) :
    (∃ devices, next = .listDevices ∧ reply = .devices devices) ∨
      Unlisting (c.resume engine now sessions next reply).1 := by
  unfold resume
  split
  case h_1 devices => exact .inl ⟨devices, rfl, rfl⟩
  case h_2 id devices =>
    dsimp only
    split
    · exact .inr (unlisting_attach _ _ _)
    · exact .inr (unlisting_respond fun _ => MessagePayload.noConfusion)
  case h_11 event rest => exact .inr ⟨unreplied_expired rest, fun _ => List.not_mem_nil⟩
  case h_12 rest => exact .inr ⟨unreplied_cleanup rest, fun _ => List.not_mem_nil⟩
  case h_13 => exact .inr ⟨fun _ _ _ => Phase.noConfusion, fun _ => List.not_mem_nil⟩
  all_goals exact .inr (unlisting_respond fun _ => MessagePayload.noConfusion)

end ClientConnection

/-- What a step of a connection means for the lists and the events. -/
inductive Hears (s : Server) (i : ConnId) (c : ClientConnection) :
    ConnectionAction → Server → List Effect → Prop
  | other (action : ConnectionAction) (d : ClientConnection) (effects : List ConnectionEffect)
      (commands : List QueuedCommand) (sessions : ActiveSessions) (deaf : action ≠ .event)
      (quiet : ClientConnection.Unlisting (d, effects)) :
      Hears s i c action
        (Server.setConn { s with commands := commands, sessions := sessions } i d)
        (effects.map (.connection i))
  | event (event : UsbEvent) (rest : List UsbEvent) (waiting : s.events = event :: rest)
      (at' : c.phase = .selecting) :
      Hears s i c .event (Server.setConn { s with events := rest } i (c.handleUsbEvent event)) []
  | listed (token : Nat) (devices : List DeviceInfo)
      (at' : c.phase = .awaiting token .listDevices (some (.devices devices))) :
      Hears s i c .resume (s.setConn i { c with phase := .selecting })
        [.connection i (.responded (.listDevicesResponse devices))]

namespace Server
variable {engine : PolicyEngine} {s t : Server} {i : ConnId} {c : ClientConnection}
  {action : ConnectionAction} {out : List Effect}

theorem connection_step_hears (step : s.connectionStep engine i c action = some (t, out)) :
    Hears s i c action t out := by
  have other : ∀ {d : ClientConnection} {effects : List ConnectionEffect}, action ≠ .event →
      ClientConnection.Unlisting (d, effects) →
      Hears s i c action (s.setConn i d) (effects.map (.connection i)) :=
    fun deaf quiet => .other action _ _ s.commands s.sessions deaf quiet
  have idle : ∀ {d : ClientConnection}, d.Unreplied → ClientConnection.Unlisting (d, []) :=
    fun unreplied => ⟨unreplied, fun _ => List.not_mem_nil⟩
  unfold connectionStep at step
  split at step
  case h_1 at' | h_5 at' | h_7 at' =>
    obtain ⟨rfl, rfl⟩ := Prod.mk.inj (Option.some.inj step)
    exact other ConnectionAction.noConfusion (idle fun _ _ _ => Phase.noConfusion)
  case h_2 at' =>
    split at step
    · cases step
    case h_2 event rest waiting =>
      obtain ⟨rfl, rfl⟩ := Prod.mk.inj (Option.some.inj step)
      exact .event event rest waiting at'
  case h_3 order at' =>
    split at step
    · obtain ⟨-, rfl, rfl⟩ := leave_loop_eq step
      exact other ConnectionAction.noConfusion (idle (ClientConnection.unreplied_cleanup order))
    · obtain ⟨rfl, rfl⟩ := Prod.mk.inj (Option.some.inj step)
      exact other ConnectionAction.noConfusion (idle (ClientConnection.unreplied_expired _))
  case h_4 order at' =>
    obtain ⟨-, rfl, rfl⟩ := leave_loop_eq step
    exact other ConnectionAction.noConfusion (idle (ClientConnection.unreplied_cleanup order))
  case h_6 payload at' =>
    obtain ⟨rfl, rfl⟩ := Prod.mk.inj (Option.some.inj step)
    exact other ConnectionAction.noConfusion (ClientConnection.unlisting_message s.clock payload)
  case h_8 cmd next at' =>
    split at step
    · obtain ⟨rfl, rfl⟩ := Prod.mk.inj (Option.some.inj step)
      refine .other _ _ [] _ s.sessions ConnectionAction.noConfusion (idle fun _ _ _ wrong => ?_)
      cases (Phase.awaiting.inj wrong).2.2
    · cases step
  case h_9 token next reply at' =>
    obtain ⟨rfl, rfl⟩ := Prod.mk.inj (Option.some.inj step)
    rcases c.resume_lists engine s.clock s.sessions next reply with ⟨devices, rfl, rfl⟩ | quiet
    · exact .listed token devices at'
    · exact .other _ _ _ s.commands _ ConnectionAction.noConfusion quiet
  case h_10 token event rest at' =>
    obtain ⟨rfl, rfl⟩ := Prod.mk.inj (Option.some.inj step)
    exact .other _ _ [] s.commands _ ConnectionAction.noConfusion
      (idle (ClientConnection.unreplied_expired rest))
  case h_11 => cases step

end Server

/-- The step is not one of a connection. -/
def Action.Away (a : Action) : Prop := ∀ i action, a ≠ .connection i action

/-- What a step of the server means for the lists and the events. -/
inductive Tidings (s : Server) : Action → Server → List Effect → Prop
  | aside (a : Action) (clock : ClockReading) (sessions : ActiveSessions)
      (monitor : List SessionExpiredEvent) (away : a.Away) :
      Tidings s a { s with clock := clock, sessions := sessions, monitor := monitor } []
  | connect (i : ConnId) (endpointId : EndpointId) (free : i ∉ s.conns) :
      Tidings s (.connect i endpointId) (s.setConn i (.new endpointId s.clock.instant)) []
  | connection {t : Server} {out : List Effect} (i : ConnId) (action : ConnectionAction)
      (c : ClientConnection) (found : s.conns.lookup i = some c)
      (hears : Hears s i c action t out) : Tidings s (.connection i action) t out
  | command (a : Action) (env : UsbEnv) (q : QueuedCommand) (rest : List QueuedCommand)
      (at' : s.worker = .receive) (away : a.Away) :
      Tidings s a
        { s with
          manager := (s.manager.handleCommandInner env q.cmd).2
          worker := .poll
          commands := rest
          conns := s.deliver q (s.manager.handleCommandInner env q.cmd).1 }
        (.answered q.conn q.token q.cmd (s.manager.handleCommandInner env q.cmd).1 ::
          Server.executions s.manager q)
  | quiet (a : Action) (events : List UsbEvent) (manager : DeviceManager) (worker : WorkerPhase)
      (update : s.manager.Update manager)
      (ids : ∀ d, d ∈ manager.deviceIds ↔ d ∈ s.manager.deviceIds)
      (attached : manager.attached = s.manager.attached)
      (news : Server.news { s with events := events, manager := manager, worker := worker } =
        s.news) (away : a.Away) :
      Tidings s a { s with events := events, manager := manager, worker := worker } []
  | produced (env : UsbEnv) (event : UsbEvent) (manager : DeviceManager) (worker : WorkerPhase)
      (update : s.manager.Update manager) (reports : s.manager.Reports manager event)
      (news : Server.news { s with manager := manager, worker := worker } = s.news ++ [event]) :
      Tidings s (.fire env) { s with manager := manager, worker := worker } []

namespace Server
variable {engine : PolicyEngine} {s t : Server} {action : Action} {out : List Effect}

theorem news_next {manager : DeviceManager} {events : List UsbEvent} (todo : List DebouncedEvent) :
    news { s with manager := manager, events := events, worker := .next todo } = events := by
  unfold news WorkerPhase.next
  cases todo <;> exact List.append_nil _

theorem worker_step_tidings (hm : s.manager.RegistryInv)
    (step : s.workerStep action = some (t, out)) : Tidings s action t out := by
  have away : action.Away := by
    rintro i action rfl
    simp [workerStep] at step
  unfold workerStep at step
  split at step
  case h_1 env at' =>
    obtain rfl : (s.commandStep env).1 = t := congrArg Prod.fst (Option.some.inj step)
    obtain rfl : (s.commandStep env).2 = out := congrArg Prod.snd (Option.some.inj step)
    unfold commandStep
    split
    · refine .quiet _ s.events s.manager .poll .refl (fun _ => Iff.rfl) rfl ?_ away
      rw [news, news, at']
    case h_2 q rest head => exact .command _ _ q rest at' away
  case h_2 bus address eventType at' =>
    obtain ⟨rfl, rfl⟩ := Prod.mk.inj (Option.some.inj step)
    exact .quiet _ s.events _ s.worker (.debounce _) (fun _ => Iff.rfl) rfl rfl away
  case h_3 order at' =>
    split at step
    · obtain ⟨rfl, rfl⟩ := Prod.mk.inj (Option.some.inj step)
      refine .quiet _ s.events _ _ (.debounce _) (fun _ => Iff.rfl) rfl ?_ away
      rw [news_next, news, at', List.append_nil]
    · cases step
  case h_4 ready todo env at' =>
    have idle : s.news = s.events := by rw [news, at', List.append_nil]
    have update := s.manager.process_ready_event_update { env with now := s.clock.instant } ready
    split at step
    case h_1 event manager fired =>
      obtain ⟨rfl, rfl⟩ := Prod.mk.inj (Option.some.inj step)
      rw [fired] at update
      refine .produced env event manager _ update (hm.ready_event_reports fired) ?_
      rw [idle]
      rfl
    case h_2 manager fired =>
      obtain ⟨rfl, rfl⟩ := Prod.mk.inj (Option.some.inj step)
      rw [fired] at update
      obtain ⟨ids, attached⟩ := hm.ready_event_silent fired
      refine .quiet _ s.events _ _ update ids attached ?_ away
      rw [news_next, idle]
  case h_5 event todo at' =>
    split at step
    · obtain ⟨rfl, rfl⟩ := Prod.mk.inj (Option.some.inj step)
      refine .quiet _ _ s.manager _ .refl (fun _ => Iff.rfl) rfl ?_ away
      rw [news_next, news, at']
    · cases step
  case h_6 => cases step

theorem step_tidings (hm : s.manager.RegistryInv) (step : s.step engine action = some (t, out)) :
    Tidings s action t out := by
  cases action with
  | tick now =>
      simp only [Server.step] at step
      split at step
      · obtain ⟨rfl, rfl⟩ := Prod.mk.inj (Option.some.inj step)
        exact .aside _ now s.sessions s.monitor fun _ _ => Action.noConfusion
      · cases step
  | connect i endpointId =>
      simp only [Server.step] at step
      split at step
      · cases step
      case isFalse free =>
        obtain ⟨rfl, rfl⟩ := Prod.mk.inj (Option.some.inj step)
        exact .connect i endpointId free
  | connection i action =>
      obtain ⟨c, found, step⟩ := Option.bind_eq_some_iff.mp step
      exact .connection i action c found (connection_step_hears step)
  | monitorTick =>
      simp only [Server.step] at step
      split at step
      · obtain ⟨rfl, rfl⟩ := Prod.mk.inj (Option.some.inj step)
        exact .aside _ s.clock s.sessions _ fun _ _ => Action.noConfusion
      · cases step
  | monitorExpire =>
      simp only [Server.step] at step
      split at step
      · cases step
      · obtain ⟨rfl, rfl⟩ := Prod.mk.inj (Option.some.inj step)
        exact .aside _ s.clock _ _ fun _ _ => Action.noConfusion
  | command | hotplug | collect | fire | emit => exact worker_step_tidings hm step

end Server

end P2pUsb
