import P2pUsb.Network.Isolation

/-! No attachment outlives its connection: a handle that is still attached is in
the keeping of the connection that it was granted on, or its detach is under way. -/
namespace P2pUsb

/-- What the worker says of a device that has left is so, and stays so. -/
def DeviceManager.EventOk (m : DeviceManager) : UsbEvent → Prop
  | .deviceArrived _ => True
  | .deviceLeft id handles _ => m.Known id (fun _ => False) ∧ ∀ h ∈ handles, m.Dead h

namespace DeviceManager
variable {m m' : DeviceManager}

theorem EventOk.update {event : UsbEvent} (ok : m.EventOk event) (step : m.Update m') :
    m'.EventOk event := by
  cases event with
  | deviceArrived => trivial
  | deviceLeft id handles clients =>
      constructor
      · exact ok.1.update (fun _ _ _ wrong => wrong) step
      · exact fun h listed => (ok.2 h listed).update step

theorem RegistryInv.gone_detached (hm : m.RegistryInv) {id : DeviceId}
    (gone : m.Known id fun _ => False) {h : DeviceHandle} {client : String} :
    m.attached.lookup h ≠ some (id, client) := by
  intro held
  obtain ⟨key, registered⟩ := AList.mem_iff.mp (hm.attached_registered held)
  obtain ⟨d, there, same⟩ := hm.id_device id key registered
  exact gone.2 key d there same

theorem RegistryInv.remove_device_ok (hm : m.RegistryInv) {bus address : UInt8} {id : DeviceId}
    {handles : List DeviceHandle} {clients : List String}
    (removed : m.removeDevice bus address = (some (id, handles, clients), m')) :
    m'.EventOk (.deviceLeft id handles clients) := by
  cases tracked : m.devices.lookup (bus, address) with
  | none =>
      simp only [removeDevice, tracked] at removed
      cases (Prod.mk.inj removed).1
  | some device =>
      simp only [removeDevice, tracked] at removed
      obtain ⟨shown, rfl⟩ := Prod.mk.inj removed
      obtain ⟨rfl, lists⟩ := Prod.mk.inj (Option.some.inj shown)
      obtain ⟨rfl, -⟩ := Prod.mk.inj lists
      have here := hm.device_key _ _ tracked
      refine ⟨⟨hm.ids_below device.id (AList.mem_of_lookup here), ?_⟩, ?_⟩
      · intro key d found
        obtain ⟨other, there⟩ := AList.lookup_erase_eq_some.mp found
        exact hm.other_id here there other
      · intro h listed
        obtain ⟨entry, held, same⟩ := AList.mem_retain.mp listed
        refine ⟨?_, hm.handles_below h (AList.mem_of_lookup held)⟩
        intro present
        obtain ⟨entry', held', other⟩ := AList.mem_retain.mp present
        rw [held] at held'
        obtain rfl := Option.some.inj held'
        exact (bne_iff_ne.mp other) (beq_iff_eq.mp same)

theorem RegistryInv.ready_event_ok (hm : m.RegistryInv) {env : UsbEnv} {ready : DebouncedEvent}
    {event : UsbEvent} (fired : m.processReadyEvent env ready = (some event, m')) :
    m'.EventOk event := by
  unfold processReadyEvent at fired
  split at fired
  · -- an arrival makes no promise
    unfold handleDeviceArrivedInternal at fired
    split at fired
    · cases (Prod.mk.inj fired).1
    split at fired
    · cases (Prod.mk.inj fired).1
    split at fired
    · obtain ⟨d, -, rfl⟩ := Option.map_eq_some_iff.mp (Prod.mk.inj fired).1
      trivial
    · cases (Prod.mk.inj fired).1
  · unfold handleDeviceLeftInternal at fired
    split at fired
    case h_1 removed =>
      obtain ⟨shown, rfl⟩ := Prod.mk.inj fired
      obtain rfl := Option.some.inj shown
      exact hm.remove_device_ok removed
    case h_2 => cases (Prod.mk.inj fired).1

end DeviceManager

/-- Why a handle that is still attached will not be forgotten. -/
inductive Covered (commands : List QueuedCommand) (i : ConnId) (c : ClientConnection)
    (h : DeviceHandle) : Prop
  | held (loop : c.inLoop = true) (mine : h ∈ c.attachedDevices)
  | sending (next : Continuation) (at' : c.phase = .sending (.detachDevice h) next)
  | cleanup (rest : List DeviceHandle) (left : h ∈ rest)
      (at' : (∃ cmd, c.phase = .sending cmd (.cleanup rest)) ∨
        ∃ token reply, c.phase = .awaiting token (.cleanup rest) reply)
  | queued (q : QueuedCommand) (mem : q ∈ commands) (conn : q.conn = i)
      (detach : q.cmd = .detachDevice h)
  | granted (token : Nat) (id : DeviceId) (info : DeviceInfo)
      (at' : c.phase = .awaiting token (.attach id info) (some (.attached (.ok h))))

namespace Covered
variable {engine : PolicyEngine} {commands : List QueuedCommand} {i : ConnId}
  {c : ClientConnection} {h : DeviceHandle}

theorem attach_with_info (mine : h ∈ c.attachedDevices) (wall : Nat) (id : DeviceId)
    (info : DeviceInfo) : Covered commands i (c.attachWithInfo engine wall id info).1 h := by
  rcases c.attach_with_info_cases engine wall id info with allowed | ⟨reason, denied⟩
  · rw [allowed]
    exact .held rfl mine
  · rw [denied]
    exact .held rfl mine

theorem message (mine : h ∈ c.attachedDevices) {r : ClientConnection × List ConnectionEffect}
    (step : c.MessageStep engine r) : Covered commands i r.1 h := by
  cases step with
  | answer | throttle => exact .held rfl mine
  | attach => exact attach_with_info mine _ _ _
  | send cmd next fresh loop =>
      refine .held ?_ mine
      unfold ClientConnection.inLoop
      cases next with
      | cleanup rest => exact absurd rfl (loop rest)
      | _ => rfl

theorem expired (mine : h ∈ c.attachedDevices) (events : List SessionExpiredEvent) :
    Covered commands i (c.handleExpiredSessions events) h := by
  induction events with
  | nil => exact .held rfl mine
  | cons event rest ih =>
      unfold ClientConnection.handleExpiredSessions
      split
      · by_cases same : h = event.handle
        · subst same
          exact .sending _ rfl
        · exact .held rfl (AList.mem_erase.mpr ⟨same, mine⟩)
      · exact ih

theorem cleaned (order : List DeviceHandle) (listed : h ∈ order) :
    Covered commands i (c.cleanup order) h := by
  cases order with
  | nil => exact absurd listed List.not_mem_nil
  | cons first rest =>
      rcases List.mem_cons.mp listed with rfl | later
      · exact .sending _ rfl
      · exact .cleanup rest later (.inl ⟨_, rfl⟩)

theorem resume {tr : List Effect} {m : DeviceManager} {token : Nat} {next : Continuation}
    {reply : UsbReply} (at' : c.phase = .awaiting token next (some reply))
    (covered : Covered commands i c h) (ok : ReplyOk tr m i next reply) (live : ¬ m.Dead h)
    (now : ClockReading) (sessions : ActiveSessions) :
    Covered commands i (c.resume engine now sessions next reply).1.1 h := by
  -- what the handler held, it holds on to; only a cleanup holds nothing any more
  have cases' : (∃ q ∈ commands, q.conn = i ∧ q.cmd = .detachDevice h) ∨
      (∃ rest, next = .cleanup rest ∧ h ∈ rest) ∨
      (∃ id info, next = .attach id info ∧ reply = .attached (.ok h)) ∨
      (∀ rest, next ≠ .cleanup rest) ∧ h ∈ c.attachedDevices := by
    cases covered with
    | held loop mine =>
        refine .inr (.inr (.inr ⟨?_, mine⟩))
        rintro rest rfl
        unfold ClientConnection.inLoop at loop
        rw [at'] at loop
        cases loop
    | sending next' wrong =>
        rw [at'] at wrong
        cases wrong
    | cleanup rest left here =>
        rcases here with ⟨cmd, wrong⟩ | ⟨token', reply', here⟩
        · rw [at'] at wrong
          cases wrong
        · rw [at'] at here
          exact .inr (.inl ⟨rest, (Phase.awaiting.inj here).2.1, left⟩)
    | queued q mem conn detach => exact .inl ⟨q, mem, conn, detach⟩
    | granted token' id info here =>
        rw [at'] at here
        obtain ⟨-, same, replied⟩ := Phase.awaiting.inj here
        exact .inr (.inr (.inl ⟨id, info, same, Option.some.inj replied⟩))
  rcases cases' with ⟨q, mem, conn, detach⟩ | ⟨rest, rfl, left⟩ | ⟨id, info, rfl, rfl⟩ |
    ⟨loop, mine⟩
  · exact .queued q mem conn detach
  · exact cleaned rest left
  · exact .held rfl ((AList.mem_insert _).mpr (.inl rfl))
  · have step := c.resume_cases engine now sessions next reply
    generalize c.resume engine now sessions next reply = r at step ⊢
    cases step with
    | answer | stray => exact .held rfl mine
    | check id reply cache info =>
        have mine : h ∈ { c with deviceInfoCache := cache }.attachedDevices := mine
        exact attach_with_info mine _ _ _
    | attach => exact .held rfl ((AList.mem_insert _).mpr (.inr mine))
    | detach j =>
        refine .held rfl (AList.mem_erase.mpr ⟨?_, mine⟩)
        rintro rfl
        exact live (ok rfl)
    | expire event rest => exact expired mine rest
    | cleanup rest => exact absurd rfl (loop rest)

/-- Between two commands of its own, a handler keeps handles in its map only. -/
theorem at_rest (covered : Covered commands i c h)
    (sends : ∀ cmd next, c.phase ≠ .sending cmd next)
    (waits : ∀ token next reply, c.phase ≠ .awaiting token next reply) :
    (∃ q ∈ commands, q.conn = i ∧ q.cmd = .detachDevice h) ∨ h ∈ c.attachedDevices := by
  cases covered with
  | held loop mine => exact .inr mine
  | sending next wrong => exact absurd wrong (sends _ _)
  | cleanup rest left here =>
      rcases here with ⟨cmd, wrong⟩ | ⟨token, reply, wrong⟩
      · exact absurd wrong (sends _ _)
      · exact absurd wrong (waits _ _ _)
  | queued q mem conn detach => exact .inl ⟨q, mem, conn, detach⟩
  | granted token id info wrong => exact absurd wrong (waits _ _ _)

/-- An event takes from the map only what is attached no longer. -/
theorem event {tr : List Effect} {s : Server} (hs : Ledgered tr s) (ok : ConnOk tr s.manager i c)
    {id : DeviceId} (granted : Granted tr i h id) (live : h ∈ s.manager.attached)
    (mine : h ∈ c.attachedDevices) (at' : c.phase = .selecting) {event : UsbEvent}
    (eventOk : s.manager.EventOk event) : Covered commands i (c.handleUsbEvent event) h := by
  have loop : c.inLoop = true := by
    unfold ClientConnection.inLoop
    rw [at']
  cases event with
  | deviceArrived => exact .held loop mine
  | deviceLeft gone handles clients =>
      refine .held loop ?_
      obtain ⟨id', kept⟩ := AList.mem_iff.mp mine
      refine AList.mem_retain.mpr ⟨id', kept, ?_⟩
      rw [Bool.and_eq_true, Bool.not_eq_true', bne_iff_ne]
      constructor
      · apply Bool.eq_false_iff.mpr
        intro listed
        exact (eventOk.2 h (List.contains_iff_mem.mp listed)).1 live
      · rintro rfl
        obtain ⟨⟨id'', client⟩, held⟩ := AList.mem_iff.mp live
        obtain rfl := hs.attached_granted granted held
        obtain ⟨-, rfl⟩ := hs.granted_unique granted (ok.books.attached h id' kept)
        exact hs.registry.gone_detached eventOk.1 held

/-- Nothing that a handler does lets go of a handle that is attached for it. -/
theorem handler {tr : List Effect} {s : Server} {r : ClientConnection × List ConnectionEffect}
    (hs : Ledgered tr s) (ok : ConnOk tr s.manager i c)
    (events : ∀ e ∈ s.events, s.manager.EventOk e) {id : DeviceId} (granted : Granted tr i h id)
    (live : h ∈ s.manager.attached) (covered : Covered commands i c h)
    (step : HandlerStep engine s c r) : Covered commands i r.1 h := by
  have rest : ∀ {phase : Phase}, c.phase = phase → (∀ cmd next, phase ≠ .sending cmd next) →
      (∀ token next reply, phase ≠ .awaiting token next reply) →
      (h ∈ c.attachedDevices → Covered commands i r.1 h) → Covered commands i r.1 h := by
    intro phase at' sends waits go
    rcases covered.at_rest (at' ▸ sends) (at' ▸ waits) with ⟨q, mem, conn, detach⟩ | mine
    · exact .queued q mem conn detach
    · exact go mine
  cases step with
  | accept at' | readError at' =>
      apply rest at' (fun _ _ => Phase.noConfusion) (fun _ _ _ => Phase.noConfusion)
      exact fun mine => .held rfl mine
  | release request at' =>
      apply rest at' (fun _ _ => Phase.noConfusion) (fun _ _ _ => Phase.noConfusion)
      exact fun mine => .held rfl mine
  | event e at' waiting =>
      apply rest at' (fun _ _ => Phase.noConfusion) (fun _ _ _ => Phase.noConfusion)
      exact fun mine => event hs ok granted live mine at' (events e waiting)
  | expiry expired' at' =>
      apply rest at' (fun _ _ => Phase.noConfusion) (fun _ _ _ => Phase.noConfusion)
      exact fun mine => expired mine expired'
  | leave order at' all =>
      apply rest at' (fun _ _ => Phase.noConfusion) (fun _ _ _ => Phase.noConfusion)
      exact fun mine => cleaned order (all.mem_iff.mpr mine)
  | message payload at' =>
      apply rest at' (fun _ _ => Phase.noConfusion) (fun _ _ _ => Phase.noConfusion)
      exact fun mine => message mine (c.message_step s.clock payload)
  | resume token next reply at' =>
      have phase := ok.phase
      rw [at'] at phase
      exact resume at' covered (phase.2 reply rfl) (fun dead => dead.1 live) s.clock s.sessions
  | giveUp token event later at' =>
      cases covered with
      | held loop mine => exact expired mine later
      | queued q mem conn detach => exact .queued q mem conn detach
      | sending next' wrong | granted _ _ _ wrong =>
          rw [at'] at wrong
          cases wrong
      | cleanup left _ here =>
          rcases here with ⟨_, wrong⟩ | ⟨_, _, wrong⟩
          · rw [at'] at wrong
            cases wrong
          · rw [at'] at wrong
            cases (Phase.awaiting.inj wrong).2.1

theorem enqueue {cmd : UsbCommand} {next : Continuation} (at' : c.phase = .sending cmd next)
    (covered : Covered commands i c h) : Covered (commands ++ [⟨i, c.sent, cmd⟩]) i
      { c with phase := .awaiting c.sent next none, sent := c.sent + 1 } h := by
  cases covered with
  | held loop mine =>
      refine .held ?_ mine
      unfold ClientConnection.inLoop at loop ⊢
      rw [at'] at loop
      cases next <;> first | rfl | cases loop
  | sending next' here =>
      rw [at'] at here
      obtain ⟨rfl, -⟩ := Phase.sending.inj here
      exact .queued _ (List.mem_append_right _ (List.mem_singleton.mpr rfl)) rfl rfl
  | cleanup rest left here =>
      rcases here with ⟨cmd', here⟩ | ⟨_, _, wrong⟩
      · rw [at'] at here
        obtain ⟨-, rfl⟩ := Phase.sending.inj here
        exact .cleanup rest left (.inr ⟨_, _, rfl⟩)
      · rw [at'] at wrong
        cases wrong
  | queued q mem conn detach => exact .queued q (List.mem_append_left _ mem) conn detach
  | granted _ _ _ wrong =>
      rw [at'] at wrong
      cases wrong

/-- A reply changes what the handler waits for, not what it keeps. -/
theorem receive {token : Nat} {reply : UsbReply} (covered : Covered commands i c h) :
    Covered commands i (c.receive token reply) h := by
  rcases c.receive_cases token reply with ⟨same, -⟩ | ⟨next, at', here⟩
  · rwa [same]
  rw [here]
  cases covered with
  | held loop mine =>
      refine .held ?_ mine
      unfold ClientConnection.inLoop at loop ⊢
      rw [at'] at loop
      cases next <;> first | rfl | cases loop
  | cleanup rest left there =>
      rcases there with ⟨_, wrong⟩ | ⟨_, _, there⟩
      · rw [at'] at wrong
        cases wrong
      · rw [at'] at there
        obtain ⟨-, rfl, -⟩ := Phase.awaiting.inj there
        exact .cleanup rest left (.inr ⟨_, _, rfl⟩)
  | queued q mem conn detach => exact .queued q mem conn detach
  | sending next' wrong | granted _ _ _ wrong =>
      rw [at'] at wrong
      cases wrong

theorem mono {commands' : List QueuedCommand} (covered : Covered commands i c h)
    (kept : ∀ q ∈ commands, q.cmd = .detachDevice h → q ∈ commands') :
    Covered commands' i c h := by
  cases covered with
  | held loop mine => exact .held loop mine
  | sending next at' => exact .sending next at'
  | cleanup rest left at' => exact .cleanup rest left at'
  | queued q mem conn detach => exact .queued q (kept q mem detach) conn detach
  | granted token id info at' => exact .granted token id info at'

end Covered

/-- Every attached handle is covered on the connection that it was granted on. -/
structure NoLeak (tr : List Effect) (s : Server) : Prop where
  covered : ∀ h g c, (h, g) ∈ grants tr → h ∈ s.manager.attached →
    s.conns.lookup g.conn = some c → Covered s.commands g.conn c h
  events : ∀ e ∈ s.events, s.manager.EventOk e
  emitting : ∀ e todo, s.worker = .emitting e todo → s.manager.EventOk e

namespace NoLeak
variable {engine : PolicyEngine} {tr out : List Effect} {s t : Server} {a : Action}

theorem new (filters : List String) (config : SharingConfig) (devices : List RusbDevice)
    (clock : ClockReading) : NoLeak [] (Server.new filters config devices clock) where
  covered _ _ _ wrong := absurd wrong List.not_mem_nil
  events _ wrong := absurd wrong List.not_mem_nil
  emitting _ _ wrong := nomatch wrong

/-- A step of the worker on its own, away from the commands. -/
theorem worker (hs : NoLeak tr s) (shrinks : s.manager.Shrinks t.manager)
    (conns : t.conns = s.conns)
    (commands : t.commands = s.commands) (events : ∀ e ∈ t.events, t.manager.EventOk e)
    (emitting : ∀ e todo, t.worker = .emitting e todo → t.manager.EventOk e) : NoLeak tr t := by
  refine ⟨?_, events, emitting⟩
  intro h g c mem live found
  obtain ⟨entry, held⟩ := AList.mem_iff.mp live
  rw [conns] at found
  rw [commands]
  exact hs.covered h g c mem (AList.mem_of_lookup (shrinks h entry held)) found

theorem command (hs : NoLeak tr s) (authority : Authority engine tr s) {env : UsbEnv}
    {q : QueuedCommand} {rest : List QueuedCommand} (head : s.commands = q :: rest) {t : Server}
    (manager : t.manager = (s.manager.handleCommandInner env q.cmd).2)
    (conns : t.conns = s.deliver q (s.manager.handleCommandInner env q.cmd).1)
    (commands : t.commands = rest) (events : t.events = s.events) (polls : t.worker = .poll) :
    NoLeak (tr ++ .answered q.conn q.token q.cmd
      (s.manager.handleCommandInner env q.cmd).1 :: Server.executions s.manager q) t := by
  have update := s.manager.handle_command_update env q.cmd
  refine ⟨?_, ?_, ?_⟩
  · intro h g c' mem live found
    obtain ⟨c, there, after⟩ : ∃ c, s.conns.lookup g.conn = some c ∧
        (g.conn = q.conn ∧ c' = c.receive q.token (s.manager.handleCommandInner env q.cmd).1 ∨
          g.conn ≠ q.conn ∧ c' = c) := by
      rw [conns, s.lookup_deliver] at found
      obtain ⟨c, there, rfl⟩ := Option.map_eq_some_iff.mp found
      refine ⟨c, there, ?_⟩
      split
      case isTrue same => exact .inl ⟨same, rfl⟩
      case isFalse other => exact .inr ⟨other, rfl⟩
    rw [grants_append] at mem
    rcases List.mem_append.mp mem with old | new
    · obtain ⟨entry, held⟩ := AList.mem_iff.mp live
      have held' := held
      rw [manager] at held'
      have before : h ∈ s.manager.attached := by
        rcases update.attached_origin held' with before | rfl
        · exact AList.mem_of_lookup before
        · exact absurd (authority.ledgered.below _ g old) (lt_irrefl _)
      have covered : Covered t.commands g.conn c h := by
        apply (hs.covered h g c old before there).mono
        intro p waiting detach
        rw [head] at waiting
        rw [commands]
        rcases List.mem_cons.mp waiting with rfl | later
        · rw [detach] at held'
          have free := s.manager.detach_device_free h
          exact absurd (held'.symm.trans free) (Option.some_ne_none entry)
        · exact later
      rcases after with ⟨-, rfl⟩ | ⟨-, rfl⟩
      · exact covered.receive
      · exact covered
    · -- the grant goes to the connection that waits for it
      rcases List.mem_cons.mp (mem_grants.mp new) with here | wrong
      · obtain ⟨conn, -, attach, granted⟩ := Effect.answered.inj here
        obtain ⟨d, there', queued⟩ := authority.queue q (head ▸ List.mem_cons_self)
        rw [← conn, there] at there'
        obtain rfl := Option.some.inj there'
        rcases queued.waits with ⟨next, at', sent⟩ | ⟨⟨j, detach⟩, -⟩
        · rw [← attach] at sent
          obtain ⟨info, rfl⟩ := sent.to_attach
          rcases after with ⟨-, rfl⟩ | ⟨other, -⟩
          · rcases c.receive_cases q.token (s.manager.handleCommandInner env q.cmd).1 with
              ⟨-, idle⟩ | ⟨next', here', received⟩
            · exact absurd at' (idle _)
            · rw [at'] at here'
              obtain ⟨-, rfl, -⟩ := Phase.awaiting.inj here'
              apply Covered.granted q.token g.deviceId info
              rw [received, granted]
          · exact absurd conn other
        · rw [← attach] at detach
          cases detach
      · obtain ⟨_, _, _, wrong⟩ := executed_of_mem wrong
        cases wrong
  · rw [events, manager]
    exact fun e waiting => (hs.events e waiting).update update
  · intro e todo wrong
    rw [polls] at wrong
    cases wrong

theorem next (hs : NoLeak tr s) (authority : Authority engine tr s)
    (step : Transition engine s a t out) : NoLeak (tr ++ out) t := by
  cases step with
  | monitor =>
      rw [List.append_nil]
      exact ⟨hs.covered, hs.events, hs.emitting⟩
  | connect i endpointId free =>
      rw [List.append_nil]
      refine ⟨?_, hs.events, hs.emitting⟩
      intro h g c mem live found
      simp only [Server.setConn, AList.lookup_insert_eq] at found
      split at found
      case isTrue same =>
        obtain ⟨-, d, there, -⟩ := authority.justified h g mem
        rw [same] at there
        exact absurd (AList.mem_of_lookup there) free
      case isFalse => exact hs.covered h g c mem live found
  | handler i action c c' effects events sessions found step kept =>
      refine ⟨?_, fun e waiting => hs.events e (kept.mem waiting), hs.emitting⟩
      intro h g d mem live there
      rw [grants_append, grants_connection, List.append_nil] at mem
      simp only [Server.setConn, AList.lookup_insert_eq] at there
      split at there
      case isTrue same =>
        obtain rfl := Option.some.inj there
        have covered := hs.covered h g c mem live (same ▸ found)
        rw [same] at covered ⊢
        exact covered.handler authority.ledgered (authority.conns i c found) hs.events
          ⟨g, mem, same, rfl⟩ live step
      case isFalse => exact hs.covered h g d mem live there
  | enqueue i action c cmd next found at' =>
      rw [List.append_nil]
      refine ⟨?_, hs.events, hs.emitting⟩
      intro h g d mem live there
      simp only [Server.setConn, AList.lookup_insert_eq] at there
      split at there
      case isTrue same =>
        obtain rfl := Option.some.inj there
        have covered := hs.covered h g c mem live (same ▸ found)
        rw [same] at covered ⊢
        exact covered.enqueue at'
      case isFalse =>
        apply (hs.covered h g d mem live there).mono
        exact fun q old _ => List.mem_append_left _ old
  | command env q rest head => exact hs.command authority head rfl rfl rfl rfl rfl
  | worker a manager worker update shrinks quiet =>
      rw [List.append_nil]
      refine hs.worker shrinks rfl rfl ?_ ?_
      · exact fun e waiting => (hs.events e waiting).update update
      · exact fun e todo wrong => absurd wrong (quiet e todo)
  | fire env ready event manager todo at' fired =>
      have update := s.manager.process_ready_event_update { env with now := s.clock.instant } ready
      have shrinks := s.manager.process_ready_event_shrinks { env with now := s.clock.instant }
        ready
      rw [fired] at update shrinks
      rw [List.append_nil]
      refine hs.worker shrinks rfl rfl ?_ ?_
      · exact fun e waiting => (hs.events e waiting).update update
      · intro e todo' here
        obtain ⟨rfl, -⟩ := WorkerPhase.emitting.inj here
        exact authority.ledgered.registry.ready_event_ok fired
  | emit event todo at' =>
      rw [List.append_nil]
      refine ⟨hs.covered, ?_, ?_⟩
      · intro e waiting
        rcases List.mem_append.mp waiting with old | new
        · exact hs.events e old
        · obtain rfl := List.mem_singleton.mp new
          exact hs.emitting e todo at'
      · exact fun e rest wrong => absurd wrong (Server.worker_phase_next_quiet todo e rest)

end NoLeak

/-! ### The sharing states -/

theorem DeviceManager.IsNew.orderly {s : DeviceSharingState} (isNew : IsNew s) : s.Orderly := by
  obtain ⟨id, mode, maxClients, timeout, rfl⟩ := isNew
  exact .new id mode maxClients timeout

/-- What the worker does to its manager leaves every sharing state in order. -/
theorem DeviceManager.RegistryInv.orderly_next {m m' : DeviceManager} (hm : m.RegistryInv)
    (each : ∀ id s, m.accessTracker.getState id = some s → s.Orderly) (step : WorkerStep m m') :
    ∀ id s, m'.accessTracker.getState id = some s → s.Orderly := by
  intro id s found
  cases step with
  | idle | debounce => exact each id s found
  | command env cmd =>
      have effect := hm.command_states env cmd id
      rw [found] at effect
      cases old : m.accessTracker.getState id with
      | none =>
          rw [old] at effect
          cases effect
      | some before =>
          rw [old] at effect
          cases effect with
          | some changed => exact (each id before old).command changed
  | fire env event =>
      rcases hm.ready_event_states env event id with ⟨same, -⟩ | ⟨gone, -⟩ | ⟨-, t, new, isNew⟩
      · exact each id s (same ▸ found)
      · rw [gone] at found
        cases found
      · rw [new] at found
        obtain rfl := Option.some.inj found
        exact isNew.orderly

namespace Server
variable {engine : PolicyEngine} {filters : List String} {config : SharingConfig}
  {devices : List RusbDevice} {clock : ClockReading} {tr : List Effect} {s : Server}

theorem no_leak_reach (run : (server engine).Reach (new filters config devices clock) tr s) :
    Authority engine tr s ∧ NoLeak tr s :=
  run.invariant (I := fun tr s => Authority engine tr s ∧ NoLeak tr s)
    ⟨.new filters config devices clock, .new filters config devices clock⟩
    fun _ _ _ _ _ hs _ step =>
      ⟨hs.1.next (step_cases step), hs.2.next hs.1 (step_cases step)⟩

theorem run_orderly (run : (server engine).Reach (new filters config devices clock) tr s) :
    ∀ id state, s.manager.accessTracker.getState id = some state → state.Orderly := by
  obtain ⟨registry, fresh⟩ := UsbWorkerThread.enumerate_devices_new devices
    (DeviceManager.RegistryInv.new filters config) fun _ _ wrong => (nomatch wrong)
  refine (run.stateInvariant (I := fun s => s.manager.RegistryInv ∧
    ∀ id state, s.manager.accessTracker.getState id = some state → state.Orderly)
    ⟨registry, fun id state found => (fresh id state found).orderly⟩ ?_).2
  intro s a t out hs _ step
  exact ⟨hs.1.update (step_cases step).update, hs.1.orderly_next hs.2 (step_manager step)⟩

/-- The handler has left its loop, its cleanup has returned, and the worker has
processed everything that it sent. -/
def Finished (s : Server) (i : ConnId) : Prop :=
  (∃ c, s.conns.lookup i = some c ∧ c.phase = .stopped) ∧ ∀ q ∈ s.commands, q.conn ≠ i

theorem finished_detached (run : (server engine).Reach (new filters config devices clock) tr s)
    {i : ConnId} (finished : s.Finished i) {h : DeviceHandle} {id : DeviceId}
    (granted : Granted tr i h id) : h ∉ s.manager.attached ∧
      ∀ j state, s.manager.accessTracker.getState j = some state →
        h ∉ state.attachedClients ∧ (∀ e ∈ state.accessQueue, e.handle ≠ h) ∧
          state.writeLockHolder ≠ some h ∧ state.exclusiveLockHolder ≠ some h := by
  obtain ⟨authority, hs⟩ := no_leak_reach run
  obtain ⟨⟨c, found, stopped⟩, drained⟩ := finished
  have detached : h ∉ s.manager.attached := by
    intro live
    obtain ⟨g, mem, rfl, -⟩ := granted
    cases hs.covered h g c mem live found with
    | held loop mine =>
        unfold ClientConnection.inLoop at loop
        rw [stopped] at loop
        cases loop
    | sending next wrong | granted _ _ _ wrong =>
        rw [stopped] at wrong
        cases wrong
    | cleanup rest left here =>
        rcases here with ⟨_, wrong⟩ | ⟨_, _, wrong⟩ <;> rw [stopped] at wrong <;> cases wrong
    | queued q mem conn detach => exact drained q mem conn
  refine ⟨detached, fun j state there => ?_⟩
  have absent : h ∉ state.attachedClients := by
    intro present
    obtain ⟨client, held⟩ := authority.ledgered.registry.state_attached j state h there present
    exact detached (AList.mem_of_lookup held)
  have orderly := run_orderly run j state there
  refine ⟨absent, ?_, fun held => ?_, fun held => ?_⟩
  · rintro e waits rfl
    exact absent (orderly.waiting e waits)
  · exact absent (orderly.consistent.holds_attached (.inr held))
  · exact absent (orderly.consistent.holds_attached (.inl held))

/-- A client attaches a device and disconnects without detaching it. -/
theorem finished_detached_disconnect : ∃ tr s, (server ⟨[], 0⟩).Reach (oneDevice .exclusive) tr s ∧
    s.Finished 0 ∧ Granted tr 0 ⟨1⟩ ⟨1⟩ ∧ (⟨1⟩ : DeviceHandle) ∉ s.manager.attached := by
  have run := Machine.Reach.of_run (rfl : (server ⟨[], 0⟩).run (oneDevice .exclusive)
    (attachRun 0 "a" ++ [.connection 0 (.disconnect [⟨1⟩]), .connection 0 .enqueue] ++ serve ++
      [.connection 0 .resume]) = some (_, _))
  refine ⟨_, _, run, ⟨⟨_, rfl, rfl⟩, fun q wrong => absurd wrong List.not_mem_nil⟩,
    ⟨⟨0, 1, ⟨1⟩, "a"⟩, List.mem_cons_self, rfl, rfl⟩, ?_⟩
  exact (finished_detached run ⟨⟨_, rfl, rfl⟩, fun q wrong => absurd wrong List.not_mem_nil⟩
    ⟨⟨0, 1, ⟨1⟩, "a"⟩, List.mem_cons_self, rfl, rfl⟩).1

end Server
end P2pUsb
