import P2pUsb.Network.Server
import P2pUsb.Usb.Waiters

/-! What one step of the server can do, said once: the handlers on their own, the
two channels, and the worker. Every invariant is derived from these cases. -/
namespace P2pUsb

namespace ClientConnection
variable {c : ClientConnection} {engine : PolicyEngine}

/-- How the handling of a message can end: with an answer, which grants nothing,
with a command, with the policy's word on an attach request, or at the limiter. -/
inductive MessageStep (engine : PolicyEngine) (c : ClientConnection) :
    ClientConnection × List ConnectionEffect → Prop
  | answer (activity : Instant) (payload : MessagePayload)
      (other : ∀ result, payload ≠ .attachDeviceResponse result) :
      MessageStep engine c ({ c with lastActivity := activity }.respond payload)
  | send (cmd : UsbCommand) (next : Continuation)
      (fresh : ∀ event rest, next ≠ .expire event rest) (loop : ∀ rest, next ≠ .cleanup rest) :
      MessageStep engine c (c.sendCommand cmd next)
  | attach (wall : Nat) (id : DeviceId) (info : DeviceInfo) :
      MessageStep engine c (c.attachWithInfo engine wall id info)
  | throttle (request : UsbRequest) :
      MessageStep engine c ({ c with phase := .throttled request }, [])

theorem message_step (now : ClockReading) (payload : MessagePayload) :
    MessageStep engine c (c.handleMessage engine now payload) := by
  have answer : ∀ {payload : MessagePayload}, (∀ result, payload ≠ .attachDeviceResponse result) →
      MessageStep engine c (c.respond payload) := fun other => .answer c.lastActivity _ other
  have send : ∀ {cmd : UsbCommand} {next : Continuation},
      (∀ event rest, next ≠ .expire event rest) → (∀ rest, next ≠ .cleanup rest) →
      MessageStep engine c (c.sendCommand cmd next) := fun fresh loop => .send _ _ fresh loop
  unfold handleMessage
  split
  case h_2 id =>
    unfold handleAttachDevice
    split
    · exact .attach _ _ _
    · exact send (fun _ _ => Continuation.noConfusion) fun _ => Continuation.noConfusion
  case h_4 request =>
    unfold handleSubmitTransfer
    split
    · exact answer fun _ => MessagePayload.noConfusion
    · exact .throttle request
  case h_6 => exact .answer now.instant _ fun _ => MessagePayload.noConfusion
  case h_8 h w timeout =>
    unfold handleLockDevice
    split
    · exact answer fun _ => MessagePayload.noConfusion
    · exact send (fun _ _ => Continuation.noConfusion) fun _ => Continuation.noConfusion
  case h_9 h =>
    unfold handleUnlockDevice
    split
    · exact answer fun _ => MessagePayload.noConfusion
    · exact send (fun _ _ => Continuation.noConfusion) fun _ => Continuation.noConfusion
  case h_1 | h_3 | h_7 =>
    exact send (fun _ _ => Continuation.noConfusion) fun _ => Continuation.noConfusion
  all_goals exact answer fun _ => MessagePayload.noConfusion

/-- The check of an attach request sends the request on, or answers it. -/
theorem attach_with_info_cases (c : ClientConnection) (engine : PolicyEngine) (wall : Nat)
    (id : DeviceId) (info : DeviceInfo) :
    c.attachWithInfo engine wall id info =
        ({ c with phase := .sending (.attachDevice id c.endpointId.text) (.attach id info) },
          [.checked c.sent id wall info .allow]) ∨
      ∃ reason, c.attachWithInfo engine wall id info =
        ({ c with phase := .selecting }, [.checked c.sent id wall info (.deny reason),
          .responded (.attachDeviceResponse (.error (policyDenialToAttachError reason)))]) := by
  unfold attachWithInfo
  cases engine.checkAccess wall c.endpointId info with
  | allow => exact .inl rfl
  | deny reason => exact .inr ⟨reason, rfl⟩

/-- How a handler goes on with the worker's reply, and what becomes of the sessions. -/
inductive ResumeStep (engine : PolicyEngine) (c : ClientConnection) (now : ClockReading)
    (sessions : ActiveSessions) : Continuation → UsbReply →
    (ClientConnection × List ConnectionEffect) × ActiveSessions → Prop
  | answer (next : Continuation) (reply : UsbReply) (cache : AList fun _ : DeviceId => DeviceInfo)
      (payload : MessagePayload) (loop : ∀ rest, next ≠ .cleanup rest)
      (other : ∀ h, payload ≠ .attachDeviceResponse (.ok h)) :
      ResumeStep engine c now sessions next reply
        ({ c with deviceInfoCache := cache }.respond payload, sessions)
  | check (id : DeviceId) (reply : UsbReply) (cache : AList fun _ : DeviceId => DeviceInfo)
      (info : DeviceInfo) : ResumeStep engine c now sessions (.attachInfo id) reply
        ({ c with deviceInfoCache := cache }.attachWithInfo engine now.wall id info, sessions)
  | attach (id : DeviceId) (info : DeviceInfo) (h : DeviceHandle) :
      ResumeStep engine c now sessions (.attach id info) (.attached (.ok h))
        ({ c with attachedDevices := c.attachedDevices.insert h id }.respond
            (.attachDeviceResponse (.ok h)),
          sessions.registerSession engine now h id info c.endpointId)
  | detach (h : DeviceHandle) : ResumeStep engine c now sessions (.detach h) (.detached (.ok ()))
        ({ c with attachedDevices := c.attachedDevices.erase h }.respond
            (.detachDeviceResponse (.ok ())),
          sessions.unregisterSession h)
  | expire (event : SessionExpiredEvent) (rest : List SessionExpiredEvent) (reply : UsbReply) :
      ResumeStep engine c now sessions (.expire event rest) reply
        ((c.handleExpiredSessions rest, []), sessions.unregisterSession event.handle)
  | cleanup (rest : List DeviceHandle) (reply : UsbReply) :
      ResumeStep engine c now sessions (.cleanup rest) reply ((c.cleanup rest, []), sessions)
  | stray (next : Continuation) (reply : UsbReply) (loop : ∀ rest, next ≠ .cleanup rest) :
      ResumeStep engine c now sessions next reply (({ c with phase := .selecting }, []), sessions)

theorem resume_cases (c : ClientConnection) (engine : PolicyEngine) (now : ClockReading)
    (sessions : ActiveSessions) (next : Continuation) (reply : UsbReply) :
    ResumeStep engine c now sessions next reply (c.resume engine now sessions next reply) := by
  have answer : ∀ {next : Continuation} {reply : UsbReply} {payload : MessagePayload},
      (∀ rest, next ≠ .cleanup rest) → (∀ h, payload ≠ .attachDeviceResponse (.ok h)) →
      ResumeStep engine c now sessions next reply (c.respond payload, sessions) :=
    fun loop other => .answer _ _ c.deviceInfoCache _ loop other
  unfold resume
  split
  case h_2 id devices =>
    dsimp only
    split
    case h_1 info found => exact .check id _ _ info
    case h_2 =>
      refine .answer _ _ _ _ (fun _ => Continuation.noConfusion) fun h wrong => ?_
      cases wrong
  case h_3 id info h => exact .attach id info h
  case h_4 =>
    refine answer (fun _ => Continuation.noConfusion) fun h wrong => ?_
    cases wrong
  case h_5 h => exact .detach h
  case h_11 event rest => exact .expire event rest _
  case h_12 rest => exact .cleanup rest _
  case h_13 loop _ _ _ _ _ _ _ _ _ _ => exact .stray _ _ loop
  all_goals exact answer (fun _ => Continuation.noConfusion) fun _ => MessagePayload.noConfusion

end ClientConnection

/-- One step of a handler that concerns no other party. -/
inductive HandlerStep (engine : PolicyEngine) (s : Server) (c : ClientConnection) :
    ClientConnection × List ConnectionEffect → Prop
  | accept (at' : c.phase = .selecting) :
      HandlerStep engine s c ({ c with phase := .reading, lastActivity := s.clock.instant }, [])
  | event (event : UsbEvent) (at' : c.phase = .selecting) (waiting : event ∈ s.events) :
      HandlerStep engine s c (c.handleUsbEvent event, [])
  | expiry (expired : List SessionExpiredEvent) (at' : c.phase = .selecting) :
      HandlerStep engine s c (c.handleExpiredSessions expired, [])
  | leave (order : List DeviceHandle) (at' : c.phase = .selecting)
      (all : order.Perm c.attachedDevices.keys) : HandlerStep engine s c (c.cleanup order, [])
  | readError (at' : c.phase = .reading) :
      HandlerStep engine s c ({ c with phase := .selecting }, [])
  | message (payload : MessagePayload) (at' : c.phase = .reading) :
      HandlerStep engine s c (c.handleMessage engine s.clock payload)
  | release (request : UsbRequest) (at' : c.phase = .throttled request) :
      HandlerStep engine s c
        ({ c with phase := .sending (.submitTransfer request.handle request) .submit }, [])
  | resume (token : Nat) (next : Continuation) (reply : UsbReply)
      (at' : c.phase = .awaiting token next (some reply)) :
      HandlerStep engine s c (c.resume engine s.clock s.sessions next reply).1
  | giveUp (token : Nat) (event : SessionExpiredEvent) (rest : List SessionExpiredEvent)
      (at' : c.phase = .awaiting token (.expire event rest) none) :
      HandlerStep engine s c (c.handleExpiredSessions rest, [])

/-- Attachments end; none begins. -/
def DeviceManager.Shrinks (m m' : DeviceManager) : Prop :=
  ∀ h entry, m'.attached.lookup h = some entry → m.attached.lookup h = some entry

/-- Everything a step of the server can do. -/
inductive Transition (engine : PolicyEngine) (s : Server) : Action → Server → List Effect → Prop
  | monitor (a : Action) (clock : ClockReading) (sessions : ActiveSessions)
      (monitor : List SessionExpiredEvent) :
      Transition engine s a { s with clock := clock, sessions := sessions, monitor := monitor } []
  | connect (i : ConnId) (endpointId : EndpointId) (free : i ∉ s.conns) :
      Transition engine s (.connect i endpointId)
        (s.setConn i (.new endpointId s.clock.instant)) []
  | handler (i : ConnId) (action : ConnectionAction) (c c' : ClientConnection)
      (effects : List ConnectionEffect) (events : List UsbEvent) (sessions : ActiveSessions)
      (found : s.conns.lookup i = some c) (step : HandlerStep engine s c (c', effects))
      (kept : events <:+ s.events) :
      Transition engine s (.connection i action)
        (Server.setConn { s with events := events, sessions := sessions } i c')
        (effects.map (.connection i))
  | enqueue (i : ConnId) (action : ConnectionAction) (c : ClientConnection) (cmd : UsbCommand)
      (next : Continuation) (found : s.conns.lookup i = some c)
      (at' : c.phase = .sending cmd next) :
      Transition engine s (.connection i action)
        (Server.setConn { s with commands := s.commands ++ [⟨i, c.sent, cmd⟩] } i
          { c with phase := .awaiting c.sent next none, sent := c.sent + 1 }) []
  | command (env : UsbEnv) (q : QueuedCommand) (rest : List QueuedCommand)
      (head : s.commands = q :: rest) :
      Transition engine s (.command env)
        { s with
          manager := (s.manager.handleCommandInner { env with now := s.clock.instant } q.cmd).2
          worker := .poll
          commands := rest
          conns := s.deliver q
            (s.manager.handleCommandInner { env with now := s.clock.instant } q.cmd).1 }
        (.answered q.conn q.token q.cmd
            (s.manager.handleCommandInner { env with now := s.clock.instant } q.cmd).1 ::
          Server.executions s.manager q)
  | worker (a : Action) (manager : DeviceManager) (worker : WorkerPhase)
      (update : s.manager.Update manager) (shrinks : s.manager.Shrinks manager)
      (quiet : ∀ event todo, worker ≠ .emitting event todo) :
      Transition engine s a { s with manager := manager, worker := worker } []
  | fire (env : UsbEnv) (ready : DebouncedEvent) (event : UsbEvent) (manager : DeviceManager)
      (todo : List DebouncedEvent) (at' : s.worker = .firing (ready :: todo))
      (fired : s.manager.processReadyEvent { env with now := s.clock.instant } ready =
        (some event, manager)) :
      Transition engine s (.fire env)
        { s with manager := manager, worker := .emitting event todo } []
  | emit (event : UsbEvent) (todo : List DebouncedEvent) (at' : s.worker = .emitting event todo) :
      Transition engine s .emit { s with events := s.events ++ [event], worker := .next todo } []

theorem DeviceManager.Shrinks.refl (m : DeviceManager) : m.Shrinks m := fun _ _ held => held

namespace DeviceManager
variable {m : DeviceManager}

theorem remove_device_shrinks (m : DeviceManager) (bus address : UInt8) :
    m.Shrinks (m.removeDevice bus address).2 := by
  intro h entry held
  simp only [removeDevice] at held
  split at held
  · exact held
  · rw [AList.lookup_retain, Option.filter_eq_some_iff] at held
    exact held.1

theorem detach_device_shrinks (m : DeviceManager) (h : DeviceHandle) :
    m.Shrinks (m.detachDevice h).2 := by
  have erased : ∀ j entry, (m.attached.erase h).lookup j = some entry →
      m.attached.lookup j = some entry :=
    fun j entry held => (AList.lookup_erase_eq_some.mp held).2
  intro j entry held
  simp only [detachDevice] at held
  split at held
  · exact held
  split at held
  · exact erased j entry held
  · split at held <;> exact erased j entry held

theorem acquire_lock_attached (m : DeviceManager) (now : Instant) (h : DeviceHandle) (w : Bool) :
    (m.acquireLock now h w).2.attached = m.attached := by
  unfold acquireLock
  split
  · rfl
  · split <;> rfl

theorem release_lock_attached (m : DeviceManager) (h : DeviceHandle) :
    (m.releaseLock h).2.attached = m.attached := by
  unfold releaseLock
  split
  · rfl
  · split <;> rfl

theorem device_arrived_attached (m : DeviceManager) (env : UsbEnv) (bus address : UInt8) :
    (m.handleDeviceArrivedInternal env bus address).2.attached = m.attached := by
  rcases m.device_arrived_cases env bus address with same | ⟨device, added⟩
  · rw [same]
  · rw [added]
    rcases m.add_device_cases device with ⟨same, -⟩ | ⟨burnt, -⟩ | ⟨d, -, -, -, -, tracked⟩
    · rw [same]
    · rw [burnt]
    · rw [tracked]
      rfl

theorem device_left_eq (m : DeviceManager) (bus address : UInt8) :
    (m.handleDeviceLeftInternal bus address).2 = (m.removeDevice bus address).2 := by
  unfold handleDeviceLeftInternal
  split
  case h_1 removed => rw [removed]
  case h_2 absent => rw [absent]

theorem process_ready_event_shrinks (m : DeviceManager) (env : UsbEnv) (ready : DebouncedEvent) :
    m.Shrinks (m.processReadyEvent env ready).2 := by
  unfold processReadyEvent
  split
  · intro h entry held
    rwa [device_arrived_attached] at held
  · rw [device_left_eq]
    exact m.remove_device_shrinks _ _

/-- The reply grants a new handle, or it grants none and no attachment begins. -/
theorem handle_command_attached (m : DeviceManager) (env : UsbEnv) (cmd : UsbCommand) :
    (∃ id client, cmd = .attachDevice id client ∧
      (m.handleCommandInner env cmd).1 = .attached (.ok ⟨m.nextHandleId⟩) ∧
      (m.handleCommandInner env cmd).2.attached =
        m.attached.insert (⟨m.nextHandleId⟩ : DeviceHandle) (id, client) ∧
      (m.handleCommandInner env cmd).2.nextHandleId = m.nextHandleId + 1) ∨
    (∀ h, (m.handleCommandInner env cmd).1 ≠ .attached (.ok h)) ∧
      m.Shrinks (m.handleCommandInner env cmd).2 := by
  cases cmd with
  | attachDevice id client =>
      simp only [handleCommandInner, Prod.map_fst, Prod.map_snd, id_eq]
      rcases m.attach_device_cases env id client with ⟨e, failed⟩ |
        ⟨_, _, _, _, _, _, _, _, granted⟩
      · rw [failed]
        refine .inr ⟨?_, .refl m⟩
        intro h wrong
        cases wrong
      · rw [granted]
        exact .inl ⟨id, client, rfl, rfl, rfl, rfl⟩
  | detachDevice h => exact .inr ⟨fun _ => UsbReply.noConfusion, m.detach_device_shrinks h⟩
  | lockDevice h w =>
      refine .inr ⟨fun _ => UsbReply.noConfusion, fun j entry held => ?_⟩
      rwa [← m.acquire_lock_attached env.now h w]
  | unlockDevice h =>
      refine .inr ⟨fun _ => UsbReply.noConfusion, fun j entry held => ?_⟩
      rwa [← m.release_lock_attached h]
  | listDevices | submitTransfer | resetDevice | getSharingStatus =>
      exact .inr ⟨fun _ => UsbReply.noConfusion, .refl m⟩

end DeviceManager

theorem Transition.update {engine : PolicyEngine} {s t : Server} {a : Action} {out : List Effect}
    (step : Transition engine s a t out) : s.manager.Update t.manager := by
  cases step with
  | monitor | connect | handler | enqueue | emit => exact .refl
  | command env q => exact s.manager.handle_command_update _ q.cmd
  | worker a manager worker update => exact update
  | fire env ready event manager todo at' fired =>
      have update := s.manager.process_ready_event_update { env with now := s.clock.instant } ready
      rwa [fired] at update

/-- What a step of the server does to the device manager. -/
inductive WorkerStep (m : DeviceManager) : DeviceManager → Prop
  | idle : WorkerStep m m
  | command (env : UsbEnv) (cmd : UsbCommand) : WorkerStep m (m.handleCommandInner env cmd).2
  | debounce (pending : AList fun _ : BusAddress => DebouncedEvent) :
      WorkerStep m { m with debounceState := pending }
  | fire (env : UsbEnv) (event : DebouncedEvent) : WorkerStep m (m.processReadyEvent env event).2

namespace Server
variable {engine : PolicyEngine} {s t : Server} {out : List Effect}

theorem leave_loop_eq {i : ConnId} {c : ClientConnection} {order : List DeviceHandle}
    (step : s.leaveLoop i c order = some (t, out)) :
    order.Perm c.attachedDevices.keys ∧ t = s.setConn i (c.cleanup order) ∧ out = [] := by
  unfold leaveLoop at step
  split at step
  case isTrue all =>
    obtain ⟨rfl, rfl⟩ := Prod.mk.inj (Option.some.inj step)
    exact ⟨List.isPerm_iff.mp all, rfl, rfl⟩
  case isFalse => cases step

theorem connection_step_cases {i : ConnId} {c : ClientConnection} {action : ConnectionAction}
    (found : s.conns.lookup i = some c)
    (step : s.connectionStep engine i c action = some (t, out)) :
    Transition engine s (.connection i action) t out := by
  have local' : ∀ {c' effects}, HandlerStep engine s c (c', effects) →
      Transition engine s (.connection i action) (s.setConn i c') (effects.map (.connection i)) :=
    fun h => .handler i action c _ _ s.events s.sessions found h List.suffix_rfl
  unfold connectionStep at step
  split at step
  case h_1 at' =>
    obtain ⟨rfl, rfl⟩ := Prod.mk.inj (Option.some.inj step)
    exact local' (.accept at')
  case h_2 at' =>
    split at step
    · cases step
    case h_2 event rest waiting =>
      obtain ⟨rfl, rfl⟩ := Prod.mk.inj (Option.some.inj step)
      refine .handler i _ c _ [] rest s.sessions found (.event event at' ?_) ?_
      · rw [waiting]
        exact List.mem_cons_self
      · rw [waiting]
        exact List.suffix_cons event rest
  case h_3 order at' =>
    split at step
    · obtain ⟨all, rfl, rfl⟩ := leave_loop_eq step
      exact local' (.leave order at' all)
    · obtain ⟨rfl, rfl⟩ := Prod.mk.inj (Option.some.inj step)
      exact local' (.expiry _ at')
  case h_4 order at' =>
    obtain ⟨all, rfl, rfl⟩ := leave_loop_eq step
    exact local' (.leave order at' all)
  case h_5 at' =>
    obtain ⟨rfl, rfl⟩ := Prod.mk.inj (Option.some.inj step)
    exact local' (.readError at')
  case h_6 payload at' =>
    obtain ⟨rfl, rfl⟩ := Prod.mk.inj (Option.some.inj step)
    exact local' (.message payload at')
  case h_7 request at' =>
    obtain ⟨rfl, rfl⟩ := Prod.mk.inj (Option.some.inj step)
    exact local' (.release request at')
  case h_8 cmd next at' =>
    split at step
    · obtain ⟨rfl, rfl⟩ := Prod.mk.inj (Option.some.inj step)
      exact .enqueue i _ c cmd next found at'
    · cases step
  case h_9 token next reply at' =>
    obtain ⟨rfl, rfl⟩ := Prod.mk.inj (Option.some.inj step)
    exact .handler i _ c _ _ s.events _ found (.resume token next reply at') List.suffix_rfl
  case h_10 token event rest at' =>
    obtain ⟨rfl, rfl⟩ := Prod.mk.inj (Option.some.inj step)
    exact .handler i _ c _ [] s.events _ found (.giveUp token event rest at') List.suffix_rfl
  case h_11 => cases step

theorem worker_phase_next_quiet (todo : List DebouncedEvent) (event : UsbEvent)
    (rest : List DebouncedEvent) : WorkerPhase.next todo ≠ .emitting event rest := by
  unfold WorkerPhase.next
  split <;> exact WorkerPhase.noConfusion

theorem worker_step_cases {action : Action} (step : s.workerStep action = some (t, out)) :
    Transition engine s action t out := by
  unfold workerStep at step
  split at step
  case h_1 env at' =>
    obtain rfl : (s.commandStep env).1 = t := congrArg Prod.fst (Option.some.inj step)
    obtain rfl : (s.commandStep env).2 = out := congrArg Prod.snd (Option.some.inj step)
    unfold commandStep
    split
    · exact .worker _ s.manager .poll .refl (.refl _) fun _ _ => WorkerPhase.noConfusion
    case h_2 q rest head => exact .command env q rest head
  case h_2 bus address eventType at' =>
    obtain ⟨rfl, rfl⟩ := Prod.mk.inj (Option.some.inj step)
    refine .worker _ _ s.worker (.debounce _) (.refl _) fun event todo => ?_
    rw [at']
    exact WorkerPhase.noConfusion
  case h_3 order at' =>
    split at step
    · obtain ⟨rfl, rfl⟩ := Prod.mk.inj (Option.some.inj step)
      exact .worker _ _ _ (.debounce _) (.refl _) (worker_phase_next_quiet order)
    · cases step
  case h_4 ready todo env at' =>
    split at step
    case h_1 event manager fired =>
      obtain ⟨rfl, rfl⟩ := Prod.mk.inj (Option.some.inj step)
      exact .fire env ready event manager todo at' fired
    case h_2 manager fired =>
      obtain ⟨rfl, rfl⟩ := Prod.mk.inj (Option.some.inj step)
      have update := s.manager.process_ready_event_update { env with now := s.clock.instant } ready
      have shrinks := s.manager.process_ready_event_shrinks { env with now := s.clock.instant }
        ready
      rw [fired] at update shrinks
      exact .worker _ manager _ update shrinks (worker_phase_next_quiet todo)
  case h_5 event todo at' =>
    split at step
    · obtain ⟨rfl, rfl⟩ := Prod.mk.inj (Option.some.inj step)
      exact .emit event todo at'
    · cases step
  case h_6 => cases step

theorem step_cases {action : Action} (step : s.step engine action = some (t, out)) :
    Transition engine s action t out := by
  cases action with
  | tick now =>
      simp only [Server.step] at step
      split at step
      · obtain ⟨rfl, rfl⟩ := Prod.mk.inj (Option.some.inj step)
        exact .monitor _ now s.sessions s.monitor
      · cases step
  | connect i endpointId =>
      simp only [Server.step] at step
      split at step
      · cases step
      case isFalse free =>
        obtain ⟨rfl, rfl⟩ := Prod.mk.inj (Option.some.inj step)
        exact .connect i endpointId free
  | connection i action =>
      obtain ⟨c, found, step⟩ := Option.bind_eq_some_iff.mp step
      exact connection_step_cases found step
  | monitorTick =>
      simp only [Server.step] at step
      split at step
      · obtain ⟨rfl, rfl⟩ := Prod.mk.inj (Option.some.inj step)
        exact .monitor _ s.clock s.sessions _
      · cases step
  | monitorExpire =>
      simp only [Server.step] at step
      split at step
      · cases step
      · obtain ⟨rfl, rfl⟩ := Prod.mk.inj (Option.some.inj step)
        exact .monitor _ s.clock _ _
  | command | hotplug | collect | fire | emit => exact worker_step_cases step

theorem connection_step_manager {i : ConnId} {c : ClientConnection} {action : ConnectionAction}
    (step : s.connectionStep engine i c action = some (t, out)) : t.manager = s.manager := by
  unfold connectionStep at step
  split at step
  case h_1 | h_5 | h_6 | h_7 | h_9 | h_10 =>
    cases step
    rfl
  case h_2 =>
    split at step
    · cases step
    · cases step
      rfl
  case h_3 =>
    split at step
    · obtain ⟨-, rfl, -⟩ := leave_loop_eq step
      rfl
    · cases step
      rfl
  case h_4 =>
    obtain ⟨-, rfl, -⟩ := leave_loop_eq step
    rfl
  case h_8 =>
    split at step
    · cases step
      rfl
    · cases step
  case h_11 => cases step

/-- A step of the worker, as the device manager sees it. -/
theorem worker_step_manager {action : Action} (step : s.workerStep action = some (t, out)) :
    WorkerStep s.manager t.manager := by
  unfold workerStep at step
  split at step
  case h_1 env _ =>
    obtain rfl : (s.commandStep env).1 = t := congrArg Prod.fst (Option.some.inj step)
    unfold commandStep
    split
    · exact .idle
    case h_2 q rest head => exact .command _ q.cmd
  case h_2 =>
    cases step
    exact .debounce _
  case h_3 =>
    split at step
    · cases step
      exact .debounce _
    · cases step
  case h_4 ready todo env _ =>
    have fires := WorkerStep.fire (m := s.manager) { env with now := s.clock.instant } ready
    split at step
    all_goals
      rename_i fired
      rw [fired] at fires
      cases step
      exact fires
  case h_5 =>
    split at step
    · cases step
      exact .idle
    · cases step
  case h_6 => cases step

theorem step_manager {action : Action} (step : s.step engine action = some (t, out)) :
    WorkerStep s.manager t.manager := by
  cases action with
  | connection i action =>
      obtain ⟨c, -, step⟩ := Option.bind_eq_some_iff.mp step
      rw [connection_step_manager step]
      exact .idle
  | tick now =>
      simp only [Server.step] at step
      split at step
      · cases step
        exact .idle
      · cases step
  | connect i endpointId =>
      simp only [Server.step] at step
      split at step
      · cases step
      · cases step
        exact .idle
  | monitorTick =>
      simp only [Server.step] at step
      split at step
      · cases step
        exact .idle
      · cases step
  | monitorExpire =>
      simp only [Server.step] at step
      split at step
      · cases step
      · cases step
        exact .idle
  | command | hotplug | collect | fire | emit => exact worker_step_manager step

end Server
end P2pUsb
