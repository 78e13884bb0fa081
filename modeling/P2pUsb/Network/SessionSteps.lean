import P2pUsb.Network.Disconnect

/-! What one step of the server means for the sessions of the policy engine: whose
session begins or ends, which removals are on their way, and what ends an
attachment. -/
namespace P2pUsb

/-- The answer that tells a client of its new handle. -/
def Effect.attachAnswer (i : ConnId) (h : DeviceHandle) : Effect :=
  .connection i (.responded (.attachDeviceResponse (.ok h)))

/-- A handler that works off these expired sessions will come to the handle. -/
def ClientConnection.Due (c : ClientConnection) (events : List SessionExpiredEvent)
    (h : DeviceHandle) : Prop :=
  ∃ event ∈ events, event.handle = h ∧ event.clientId = c.endpointId ∧ h ∈ c.attachedDevices

/-- What the handler does next takes the session of the handle away. -/
def ClientConnection.Settles (c : ClientConnection) (h : DeviceHandle) : Phase → Prop
  | .sending _ (.expire event rest) => event.handle = h ∨ c.Due rest h
  | .awaiting _ (.expire event rest) _ => event.handle = h ∨ c.Due rest h
  | .awaiting _ (.detach j) (some (.detached (.ok ()))) => j = h
  | _ => False

namespace Server

/-- The session of the handle is about to be removed, by the monitor or a handler. -/
inductive Owed (s : Server) (h : DeviceHandle) : Prop
  | monitor (event : SessionExpiredEvent) (waiting : event ∈ s.monitor) (names : event.handle = h)
  | handler (i : ConnId) (c : ClientConnection) (found : s.conns.lookup i = some c)
      (settles : c.Settles h c.phase)

/-- What ends the attachment of a handle. -/
inductive Ends (s : Server) (h : DeviceHandle) : Action → Prop
  | command (env : UsbEnv) (q : QueuedCommand) (rest : List QueuedCommand)
      (head : s.commands = q :: rest) (detach : q.cmd = .detachDevice h) : Ends s h (.command env)
  | unplug (env : UsbEnv) (ready : DebouncedEvent) (todo : List DebouncedEvent)
      (device : UsbDevice) (client : String) (at' : s.worker = .firing (ready :: todo))
      (left : ready.eventType = .left)
      (there : s.manager.devices.lookup (ready.bus, ready.address) = some device)
      (held : s.manager.attached.lookup h = some (device.id, client)) : Ends s h (.fire env)

end Server

/-- What a step does to the sessions, and whom it tells of a handle. -/
inductive SessionChange (engine : PolicyEngine) (s : Server) : Action → Server → List Effect → Prop
  | kept (a : Action) (t : Server) (out : List Effect) (sessions : t.sessions = s.sessions)
      (silent : ∀ i h, Effect.attachAnswer i h ∉ out) (owed : ∀ h, s.Owed h → t.Owed h)
      (ends : ∀ h ∈ s.manager.attached, h ∉ t.manager.attached → s.Ends h a) :
      SessionChange engine s a t out
  | expired (event : SessionExpiredEvent) (rest : List SessionExpiredEvent)
      (head : s.monitor = event :: rest) :
      SessionChange engine s .monitorExpire
        { s with sessions := s.sessions.erase event.handle, monitor := rest } []
  | resumed (i : ConnId) (c : ClientConnection) (token : Nat) (next : Continuation)
      (reply : UsbReply) (found : s.conns.lookup i = some c)
      (at' : c.phase = .awaiting token next (some reply)) :
      SessionChange engine s (.connection i .resume)
        (Server.setConn { s with
            sessions := (c.resume engine s.clock s.sessions next reply).2 } i
          (c.resume engine s.clock s.sessions next reply).1.1)
        ((c.resume engine s.clock s.sessions next reply).1.2.map (.connection i))
  | gaveUp (i : ConnId) (c : ClientConnection) (token : Nat) (event : SessionExpiredEvent)
      (rest : List SessionExpiredEvent) (found : s.conns.lookup i = some c)
      (at' : c.phase = .awaiting token (.expire event rest) none) :
      SessionChange engine s (.connection i .giveUp)
        (Server.setConn { s with sessions := s.sessions.unregisterSession event.handle } i
          (c.handleExpiredSessions rest)) []

namespace ClientConnection
variable {c : ClientConnection} {engine : PolicyEngine} {h : DeviceHandle}

/-- Without the answer that tells of a handle. -/
def Silent (r : ClientConnection × List ConnectionEffect) : Prop :=
  ∀ h, .responded (.attachDeviceResponse (.ok h)) ∉ r.2

theorem respond_silent {payload : MessagePayload}
    (other : ∀ h, payload ≠ .attachDeviceResponse (.ok h)) : Silent (c.respond payload) := by
  intro h answered
  exact other h (ConnectionEffect.responded.inj (List.mem_singleton.mp answered)).symm

theorem attach_with_info_silent (wall : Nat) (id : DeviceId) (info : DeviceInfo) :
    Silent (c.attachWithInfo engine wall id info) := by
  intro h answered
  rcases c.attach_with_info_cases engine wall id info with allowed | ⟨reason, denied⟩
  · rw [allowed] at answered
    cases List.mem_singleton.mp answered
  · rw [denied] at answered
    rcases List.mem_cons.mp answered with wrong | wrong
    · cases wrong
    · cases List.mem_singleton.mp wrong

theorem MessageStep.silent {r : ClientConnection × List ConnectionEffect}
    (step : MessageStep engine c r) : Silent r := by
  cases step with
  | answer activity payload other => exact respond_silent fun _ => other _
  | send => exact fun _ wrong => absurd wrong List.not_mem_nil
  | attach => exact attach_with_info_silent _ _ _
  | throttle => exact fun _ wrong => absurd wrong List.not_mem_nil

/-- How a handler that goes on changes the sessions. -/
theorem resume_sessions (c : ClientConnection) (engine : PolicyEngine) (now : ClockReading)
    (sessions : ActiveSessions) (next : Continuation) (reply : UsbReply) :
    (∃ id info h, next = .attach id info ∧ reply = .attached (.ok h) ∧
        c.resume engine now sessions next reply =
          (({ c with attachedDevices := c.attachedDevices.insert h id }.respond
              (.attachDeviceResponse (.ok h))),
            sessions.registerSession engine now h id info c.endpointId)) ∨
      Silent (c.resume engine now sessions next reply).1 ∧
        ((c.resume engine now sessions next reply).2 = sessions ∨
          ∃ h, (next = .detach h ∧ reply = .detached (.ok ()) ∨
              ∃ event rest, next = .expire event rest ∧ event.handle = h) ∧
            (c.resume engine now sessions next reply).2 = sessions.unregisterSession h) := by
  have step := c.resume_cases engine now sessions next reply
  have none : ∀ {d : ClientConnection}, Silent (d, []) := fun _ wrong =>
    absurd wrong List.not_mem_nil
  generalize c.resume engine now sessions next reply = r at step ⊢
  cases step with
  | answer next reply cache payload loop other => exact .inr ⟨respond_silent other, .inl rfl⟩
  | check => exact .inr ⟨attach_with_info_silent _ _ _, .inl rfl⟩
  | attach id info h => exact .inl ⟨id, info, h, rfl, rfl, rfl⟩
  | detach h =>
      exact .inr ⟨respond_silent fun _ => MessagePayload.noConfusion,
        .inr ⟨h, .inl ⟨rfl, rfl⟩, rfl⟩⟩
  | expire event rest =>
      exact .inr ⟨none, .inr ⟨event.handle, .inr ⟨event, rest, rfl, rfl⟩, rfl⟩⟩
  | cleanup | stray => exact .inr ⟨none, .inl rfl⟩

/-- The handles that are due are worked off one by one. -/
theorem expired_settles {events : List SessionExpiredEvent} (due : c.Due events h) :
    (c.handleExpiredSessions events).Settles h (c.handleExpiredSessions events).phase := by
  obtain ⟨event, listed, names, own, mine⟩ := due
  induction events with
  | nil => exact absurd listed List.not_mem_nil
  | cons first rest ih =>
      unfold handleExpiredSessions
      split
      case isTrue =>
        by_cases same : first.handle = h
        · exact .inl same
        · rcases List.mem_cons.mp listed with rfl | later
          · exact absurd names same
          · exact .inr ⟨event, later, names, own, AList.mem_erase.mpr ⟨Ne.symm same, mine⟩⟩
      case isFalse other =>
        rcases List.mem_cons.mp listed with rfl | later
        · exact absurd ⟨own, names ▸ mine⟩ other
        · exact ih later

theorem Settles.receive (settles : c.Settles h c.phase) (token : Nat) (reply : UsbReply) :
    (c.receive token reply).Settles h (c.receive token reply).phase := by
  rcases c.receive_cases token reply with ⟨same, -⟩ | ⟨next, at', here⟩
  · rwa [same]
  · rw [at'] at settles
    rw [here]
    cases next with
    | expire => exact settles
    | _ => exact settles.elim

end ClientConnection

namespace DeviceManager
variable {m : DeviceManager} {h : DeviceHandle}

theorem handle_command_ends (env : UsbEnv) {cmd : UsbCommand} (live : h ∈ m.attached)
    (gone : h ∉ (m.handleCommandInner env cmd).2.attached) : cmd = .detachDevice h := by
  cases cmd with
  | attachDevice id client =>
      rcases m.attach_device_cases env id client with ⟨e, failed⟩ |
        ⟨_, _, _, _, _, _, _, _, granted⟩
      · simp only [handleCommandInner, failed] at gone
        exact absurd live gone
      · simp only [handleCommandInner, granted] at gone
        exact absurd ((AList.mem_insert _).mpr (.inr live)) gone
  | detachDevice j =>
      by_contra other
      apply gone
      simp only [handleCommandInner, detachDevice]
      have kept : h ∈ m.attached.erase j :=
        AList.mem_erase.mpr ⟨fun same => other (same ▸ rfl), live⟩
      split
      · exact live
      split
      · exact kept
      · split <;> exact kept
  | lockDevice j w =>
      simp only [handleCommandInner, Prod.map_snd, id_eq, acquire_lock_attached] at gone
      exact absurd live gone
  | unlockDevice j =>
      simp only [handleCommandInner, Prod.map_snd, id_eq, release_lock_attached] at gone
      exact absurd live gone
  | listDevices | submitTransfer | resetDevice | getSharingStatus => exact absurd live gone

theorem ready_event_ends {env : UsbEnv} {ready : DebouncedEvent} (live : h ∈ m.attached)
    (gone : h ∉ (m.processReadyEvent env ready).2.attached) : ready.eventType = .left ∧
      ∃ device client, m.devices.lookup (ready.bus, ready.address) = some device ∧
        m.attached.lookup h = some (device.id, client) := by
  unfold processReadyEvent at gone
  split at gone
  · rw [device_arrived_attached] at gone
    exact absurd live gone
  case h_2 left =>
    refine ⟨left, ?_⟩
    rw [device_left_eq] at gone
    cases there : m.devices.lookup (ready.bus, ready.address) with
    | none =>
        simp only [removeDevice, there] at gone
        exact absurd live gone
    | some device =>
        simp only [removeDevice, there] at gone
        obtain ⟨⟨id, client⟩, held⟩ := AList.mem_iff.mp live
        refine ⟨device, client, rfl, ?_⟩
        rw [held]
        by_contra other
        refine gone (AList.mem_retain.mpr ⟨(id, client), held, ?_⟩)
        rw [bne_iff_ne]
        rintro rfl
        exact other rfl

end DeviceManager

namespace Server
variable {engine : PolicyEngine} {s t : Server} {a : Action} {out : List Effect}

theorem Owed.moved {h : DeviceHandle} (owed : s.Owed h) (monitor : ∀ e ∈ s.monitor, e ∈ t.monitor)
    (conns : ∀ i c, s.conns.lookup i = some c → c.Settles h c.phase →
      ∃ d, t.conns.lookup i = some d ∧ d.Settles h d.phase) : t.Owed h := by
  cases owed with
  | monitor event waiting names => exact .monitor event (monitor event waiting) names
  | handler i c found settles =>
      obtain ⟨d, there, settles'⟩ := conns i c found settles
      exact .handler i d there settles'

/-- A step of one handler, while the others wait. -/
theorem Owed.set_conn {h : DeviceHandle} {i : ConnId} {c c' : ClientConnection} (owed : s.Owed h)
    (found : s.conns.lookup i = some c) (monitor : t.monitor = s.monitor)
    (conns : t.conns = s.conns.insert i c')
    (keeps : c.Settles h c.phase → c'.Settles h c'.phase) : t.Owed h := by
  refine owed.moved (fun e waiting => monitor ▸ waiting) fun j d there settles => ?_
  rw [conns, AList.lookup_insert_eq]
  split
  case isTrue same =>
    rw [same, found] at there
    obtain rfl := Option.some.inj there
    exact ⟨c', rfl, keeps settles⟩
  case isFalse => exact ⟨d, there, settles⟩

theorem silent_answers {i : ConnId} {r : ClientConnection × List ConnectionEffect}
    (silent : ClientConnection.Silent r) (j : ConnId) (h : DeviceHandle) :
    Effect.attachAnswer j h ∉ r.2.map (.connection i) := by
  intro answered
  obtain ⟨effect, mem, same⟩ := List.mem_map.mp answered
  obtain ⟨-, rfl⟩ := Effect.connection.inj same
  exact silent h mem

theorem connection_session_change {i : ConnId} {c : ClientConnection} {action : ConnectionAction}
    (found : s.conns.lookup i = some c)
    (step : s.connectionStep engine i c action = some (t, out)) :
    SessionChange engine s (.connection i action) t out := by
  have quiet : ∀ {c' : ClientConnection} {events : List UsbEvent} {commands : List QueuedCommand}
      {out : List Effect}, (∀ j h, Effect.attachAnswer j h ∉ out) →
      (∀ h, c.Settles h c.phase → c'.Settles h c'.phase) →
      SessionChange engine s (.connection i action)
        (Server.setConn { s with events := events, commands := commands } i c') out :=
    fun silent keeps => .kept _ _ _ rfl silent
      (fun h owed => owed.set_conn found rfl rfl (keeps h)) fun h live gone => absurd live gone
  have none : ∀ j h, Effect.attachAnswer j h ∉ [] := fun _ _ => List.not_mem_nil
  -- most handlers start from a phase in which nothing is owed
  have idle : ∀ {phase : Phase} {c' : ClientConnection}, c.phase = phase →
      (∀ h, ¬ c.Settles h phase) → ∀ h, c.Settles h c.phase → c'.Settles h c'.phase :=
    fun at' free h settles => absurd (at' ▸ settles) (free h)
  have left : ∀ {order}, (∀ h, ¬ c.Settles h c.phase) → s.leaveLoop i c order = some (t, out) →
      SessionChange engine s (.connection i action) t out := by
    intro order free step
    obtain ⟨-, rfl, rfl⟩ := leave_loop_eq step
    exact quiet none (idle rfl free)
  unfold connectionStep at step
  split at step
  case h_1 at' =>
    obtain ⟨rfl, rfl⟩ := Prod.mk.inj (Option.some.inj step)
    exact quiet none (idle at' fun _ => id)
  case h_2 at' =>
    split at step
    · cases step
    · obtain ⟨rfl, rfl⟩ := Prod.mk.inj (Option.some.inj step)
      exact quiet none (idle at' fun _ => id)
  case h_3 at' =>
    split at step
    · exact left (at' ▸ fun _ => id) step
    · obtain ⟨rfl, rfl⟩ := Prod.mk.inj (Option.some.inj step)
      exact quiet none (idle at' fun _ => id)
  case h_4 at' => exact left (at' ▸ fun _ => id) step
  case h_5 at' =>
    obtain ⟨rfl, rfl⟩ := Prod.mk.inj (Option.some.inj step)
    exact quiet none (idle at' fun _ => id)
  case h_6 payload at' =>
    obtain ⟨rfl, rfl⟩ := Prod.mk.inj (Option.some.inj step)
    exact quiet (silent_answers (ClientConnection.message_step _ _).silent) (idle at' fun _ => id)
  case h_7 at' =>
    obtain ⟨rfl, rfl⟩ := Prod.mk.inj (Option.some.inj step)
    exact quiet none (idle at' fun _ => id)
  case h_8 cmd next at' =>
    split at step
    · obtain ⟨rfl, rfl⟩ := Prod.mk.inj (Option.some.inj step)
      refine quiet none fun h settles => ?_
      rw [at'] at settles
      cases next with
      | expire event rest => exact settles
      | _ => exact settles.elim
    · cases step
  case h_9 token next reply at' =>
    obtain ⟨rfl, rfl⟩ := Prod.mk.inj (Option.some.inj step)
    exact .resumed i c token next reply found at'
  case h_10 token event rest at' =>
    obtain ⟨rfl, rfl⟩ := Prod.mk.inj (Option.some.inj step)
    exact .gaveUp i c token event rest found at'
  case h_11 => cases step

theorem worker_session_change (step : s.workerStep a = some (t, out)) :
    SessionChange engine s a t out := by
  have none : ∀ j h, Effect.attachAnswer j h ∉ [] := fun _ _ => List.not_mem_nil
  have quiet : ∀ {a : Action} {manager : DeviceManager} {worker : WorkerPhase}
      {events : List UsbEvent}, (∀ h ∈ s.manager.attached, h ∉ manager.attached → s.Ends h a) →
      SessionChange engine s a
        { s with manager := manager, worker := worker, events := events } [] :=
    fun ends => .kept _ _ _ rfl none
      (fun h owed => owed.moved (fun _ => id) fun i c found settles => ⟨c, found, settles⟩) ends
  unfold workerStep at step
  split at step
  case h_1 env at' =>
    obtain rfl : (s.commandStep env).1 = t := congrArg Prod.fst (Option.some.inj step)
    obtain rfl : (s.commandStep env).2 = out := congrArg Prod.snd (Option.some.inj step)
    unfold commandStep
    split
    · exact quiet fun h live gone => absurd live gone
    case h_2 q rest head =>
      refine .kept _ _ _ rfl ?_ ?_ ?_
      · intro j h answered
        rcases List.mem_cons.mp answered with wrong | wrong
        · cases wrong
        · obtain ⟨_, _, _, wrong⟩ := executed_of_mem wrong
          cases wrong
      · refine fun h owed => owed.moved (fun _ => id) fun i c found settles => ?_
        rw [s.lookup_deliver, found]
        refine ⟨_, rfl, ?_⟩
        split
        · exact settles.receive _ _
        · exact settles
      · exact fun h live gone =>
          .command env q rest head (DeviceManager.handle_command_ends _ live gone)
  case h_2 =>
    obtain ⟨rfl, rfl⟩ := Prod.mk.inj (Option.some.inj step)
    exact quiet fun h live gone => absurd live gone
  case h_3 =>
    split at step
    · obtain ⟨rfl, rfl⟩ := Prod.mk.inj (Option.some.inj step)
      exact quiet fun h live gone => absurd live gone
    · cases step
  case h_4 ready todo env at' =>
    have ends : ∀ {event manager}, s.manager.processReadyEvent
        { env with now := s.clock.instant } ready = (event, manager) →
        ∀ h ∈ s.manager.attached, h ∉ manager.attached → s.Ends h (.fire env) := by
      intro event manager fired h live gone
      obtain rfl : (s.manager.processReadyEvent _ ready).2 = manager := congrArg Prod.snd fired
      obtain ⟨left, device, client, there, held⟩ := DeviceManager.ready_event_ends live gone
      exact .unplug env ready todo device client at' left there held
    split at step
    case h_1 event manager fired =>
      obtain ⟨rfl, rfl⟩ := Prod.mk.inj (Option.some.inj step)
      exact quiet (ends fired)
    case h_2 manager fired =>
      obtain ⟨rfl, rfl⟩ := Prod.mk.inj (Option.some.inj step)
      exact quiet (ends fired)
  case h_5 =>
    split at step
    · obtain ⟨rfl, rfl⟩ := Prod.mk.inj (Option.some.inj step)
      exact quiet fun h live gone => absurd live gone
    · cases step
  case h_6 => cases step

theorem session_change (step : s.step engine a = some (t, out)) :
    SessionChange engine s a t out := by
  have none : ∀ j h, Effect.attachAnswer j h ∉ [] := fun _ _ => List.not_mem_nil
  have quiet : ∀ {a : Action} {clock : ClockReading} {monitor : List SessionExpiredEvent},
      (∀ e ∈ s.monitor, e ∈ monitor) →
      SessionChange engine s a { s with clock := clock, monitor := monitor } [] :=
    fun kept => .kept _ _ _ rfl none
      (fun h owed => owed.moved kept fun i c found settles => ⟨c, found, settles⟩)
      fun h live gone => absurd live gone
  cases a with
  | tick now =>
      simp only [Server.step] at step
      split at step
      · obtain ⟨rfl, rfl⟩ := Prod.mk.inj (Option.some.inj step)
        exact quiet fun _ => id
      · cases step
  | connect i endpointId =>
      simp only [Server.step] at step
      split at step
      · cases step
      case isFalse free =>
        obtain ⟨rfl, rfl⟩ := Prod.mk.inj (Option.some.inj step)
        refine .kept _ _ _ rfl none (fun h owed => ?_) fun h live gone => absurd live gone
        refine owed.moved (fun _ => id) fun j c found settles => ⟨c, ?_, settles⟩
        rw [setConn, AList.lookup_insert_ne, found]
        rintro rfl
        exact free (AList.mem_of_lookup found)
  | connection i action =>
      obtain ⟨c, found, step⟩ := Option.bind_eq_some_iff.mp step
      exact connection_session_change found step
  | monitorTick =>
      simp only [Server.step] at step
      split at step
      case isTrue idle =>
        obtain ⟨rfl, rfl⟩ := Prod.mk.inj (Option.some.inj step)
        refine quiet fun e waiting => ?_
        rw [List.isEmpty_iff.mp idle] at waiting
        exact absurd waiting List.not_mem_nil
      case isFalse => cases step
  | monitorExpire =>
      simp only [Server.step] at step
      split at step
      · cases step
      case h_2 event rest head =>
        obtain ⟨rfl, rfl⟩ := Prod.mk.inj (Option.some.inj step)
        exact .expired event rest head
  | command | hotplug | collect | fire | emit => exact worker_session_change step

end Server

end P2pUsb
