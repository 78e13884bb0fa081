import P2pUsb.Network.Disconnect

/-! A device that leaves is reported once, to whichever connection is the first to
take the event. The handles that the event invalidates are forgotten there; every
other connection keeps what it has. -/
namespace P2pUsb
namespace ClientConnection
variable {c : ClientConnection} {engine : PolicyEngine} {h : DeviceHandle}

/-- The connection tracks the handle, or the reply that grants it has come. -/
inductive WillHold (c : ClientConnection) (h : DeviceHandle) : Prop
  | tracked (mine : h ∈ c.attachedDevices)
  | granted (token : Nat) (id : DeviceId) (info : DeviceInfo)
      (at' : c.phase = .awaiting token (.attach id info) (some (.attached (.ok h))))

theorem attach_with_info_attached (wall : Nat) (id : DeviceId) (info : DeviceInfo) :
    (c.attachWithInfo engine wall id info).1.attachedDevices = c.attachedDevices := by
  rcases c.attach_with_info_cases engine wall id info with allowed | ⟨reason, denied⟩
  · rw [allowed]
  · rw [denied]

theorem MessageStep.attached {r : ClientConnection × List ConnectionEffect}
    (step : c.MessageStep engine r) : r.1.attachedDevices = c.attachedDevices := by
  cases step with
  | answer | send | throttle => rfl
  | attach => exact attach_with_info_attached _ _ _

theorem expired_tracked {events : List SessionExpiredEvent}
    (mine : h ∈ (c.handleExpiredSessions events).attachedDevices) : h ∈ c.attachedDevices := by
  induction events with
  | nil => exact mine
  | cons event rest ih =>
      unfold handleExpiredSessions at mine
      split at mine
      · exact (AList.mem_erase.mp mine).2
      · exact ih mine

theorem cleanup_tracked {order : List DeviceHandle}
    (mine : h ∈ (c.cleanup order).attachedDevices) : h ∈ c.attachedDevices := by
  cases order with
  | nil => exact absurd mine (AList.notMem_empty h)
  | cons => exact mine

theorem ResumeStep.tracked {now : ClockReading} {sessions : ActiveSessions} {next : Continuation}
    {reply : UsbReply} {r : (ClientConnection × List ConnectionEffect) × ActiveSessions}
    (step : ResumeStep engine c now sessions next reply r) (mine : h ∈ r.1.1.attachedDevices) :
    h ∈ c.attachedDevices ∨ ∃ id info, next = .attach id info ∧ reply = .attached (.ok h) := by
  cases step with
  | answer | stray => exact .inl mine
  | check id reply cache info =>
      rw [attach_with_info_attached] at mine
      exact .inl mine
  | attach id info j =>
      rcases (AList.mem_insert _).mp mine with rfl | old
      · exact .inr ⟨id, info, rfl, rfl⟩
      · exact .inl old
  | detach j => exact .inl (AList.mem_erase.mp mine).2
  | expire event rest => exact .inl (expired_tracked mine)
  | cleanup rest => exact .inl (cleanup_tracked mine)

end ClientConnection

/-- A handler takes in only the handle of the reply that it waits for. -/
theorem HandlerStep.tracked {engine : PolicyEngine} {s : Server} {c : ClientConnection}
    {r : ClientConnection × List ConnectionEffect} (step : HandlerStep engine s c r)
    {h : DeviceHandle} (mine : h ∈ r.1.attachedDevices) : c.WillHold h := by
  cases step with
  | accept | readError | release => exact .tracked mine
  | event e =>
      cases e with
      | deviceArrived => exact .tracked mine
      | deviceLeft id handles clients =>
          obtain ⟨id', kept, -⟩ := AList.mem_retain.mp mine
          exact .tracked (AList.mem_of_lookup kept)
  | expiry events => exact .tracked (ClientConnection.expired_tracked mine)
  | giveUp token event rest => exact .tracked (ClientConnection.expired_tracked mine)
  | leave order => exact .tracked (ClientConnection.cleanup_tracked mine)
  | message payload =>
      rw [(c.message_step s.clock payload).attached] at mine
      exact .tracked mine
  | resume token next reply at' =>
      rcases (c.resume_cases engine s.clock s.sessions next reply).tracked mine with
        old | ⟨id, info, rfl, rfl⟩
      · exact .tracked old
      · exact .granted token id info at'

theorem ClientConnection.WillHold.of_receive {c : ClientConnection} {h : DeviceHandle}
    {token : Nat} {reply : UsbReply} (holds : (c.receive token reply).WillHold h) :
    c.WillHold h ∨ reply = .attached (.ok h) := by
  rcases c.receive_cases token reply with ⟨same, -⟩ | ⟨next, at', here⟩
  · rw [same] at holds
    exact .inl holds
  · rw [here] at holds
    cases holds with
    | tracked mine => exact .inl (.tracked mine)
    | granted token' id info there =>
        exact .inr (Option.some.inj (Phase.awaiting.inj there).2.2)

namespace Server
variable {engine : PolicyEngine} {filters : List String} {config : SharingConfig}
  {devices : List RusbDevice} {clock : ClockReading} {tr out : List Effect} {s t : Server}
  {a : Action} {handles : List DeviceHandle}

/-- No connection keeps one of the handles. -/
def Forgotten (s : Server) (handles : List DeviceHandle) : Prop :=
  ∀ j c, s.conns.lookup j = some c → ∀ h ∈ handles, h ∉ c.attachedDevices

/-- The handles are detached for good, and no connection has them or will have. -/
structure Invalidated (engine : PolicyEngine) (handles : List DeviceHandle) (tr : List Effect)
    (s : Server) : Prop where
  authority : Authority engine tr s
  dead : ∀ h ∈ handles, s.manager.Dead h
  unheld : ∀ j c, s.conns.lookup j = some c → ∀ h ∈ handles, ¬ c.WillHold h

theorem Invalidated.next (hs : Invalidated engine handles tr s)
    (step : Transition engine s a t out) : Invalidated engine handles (tr ++ out) t := by
  refine ⟨hs.authority.next step, fun h listed => (hs.dead h listed).update step.update, ?_⟩
  intro j d there h listed holds
  cases step.conn_change there with
  | kept d found => exact hs.unheld j d found h listed holds
  | connected endpointId =>
      cases holds with
      | tracked wrong => exact absurd wrong (AList.notMem_empty h)
      | granted _ _ _ wrong => cases wrong
  | handled c d effects found step =>
      have runs := (HandlerOk.step (hs.authority.conns j c found) step).runs
      cases holds with
      | tracked mine => exact hs.unheld j c found h listed (step.tracked mine)
      | granted token id info wrong => exact runs _ _ _ wrong
  | enqueued c cmd next found at' =>
      cases holds with
      | tracked mine => exact hs.unheld j c found h listed (.tracked mine)
      | granted _ _ _ wrong => cases wrong
  | received env q c queued conn found manager =>
      rcases holds.of_receive with before | granted
      · exact hs.unheld j c found h listed before
      · -- a handle that is granted now has never been attached before
        rcases s.manager.handle_command_attached env q.cmd with ⟨_, _, -, fresh, -⟩ | ⟨refused, -⟩
        · rw [fresh] at granted
          cases granted
          exact lt_irrefl _ (hs.dead _ listed).2
        · exact refused h granted

/-- One connection takes the first event of the channel. -/
theorem event_step {i : ConnId} {event : UsbEvent} {rest : List UsbEvent}
    (head : s.events = event :: rest)
      (step : s.step engine (.connection i .event) = some (t, out)) :
    ∃ c, s.conns.lookup i = some c ∧ c.phase = .selecting ∧
      t = setConn { s with events := rest } i (c.handleUsbEvent event) ∧ out = [] := by
  obtain ⟨c, found, step⟩ := Option.bind_eq_some_iff.mp step
  cases at' : c.phase with
  | selecting =>
      simp only [connectionStep, at', head] at step
      obtain ⟨rfl, rfl⟩ := Prod.mk.inj (Option.some.inj step)
      exact ⟨c, found, at', rfl, rfl⟩
  | reading | throttled | sending | stopped =>
      simp only [connectionStep, at'] at step
      cases step
  | awaiting token next reply =>
      simp only [connectionStep, at'] at step
      cases step

/-- A handler can go on as soon as its reply has come. -/
theorem resume_step (engine : PolicyEngine) {i : ConnId} {c : ClientConnection} {token : Nat}
    {next : Continuation} {reply : UsbReply} (found : s.conns.lookup i = some c)
    (at' : c.phase = .awaiting token next (some reply)) :
    ∃ t out, s.step engine (.connection i .resume) = some (t, out) ∧
      t.conns.lookup i = some (c.resume engine s.clock s.sessions next reply).1.1 := by
  refine ⟨setConn { s with sessions := (c.resume engine s.clock s.sessions next reply).2 } i
      (c.resume engine s.clock s.sessions next reply).1.1,
    (c.resume engine s.clock s.sessions next reply).1.2.map (.connection i), ?_,
    AList.lookup_insert _⟩
  simp only [Server.step, found, Option.bind_some, connectionStep, at']

theorem forgotten_iff (run : (server engine).Reach (new filters config devices clock) tr s)
    {i : ConnId} {id : DeviceId} {clients : List String} {rest : List UsbEvent}
    (head : s.events = .deviceLeft id handles clients :: rest)
    (step : s.step engine (.connection i .event) = some (t, out)) :
    (∀ tr' u, (server engine).Reach t tr' u → u.Forgotten handles) ↔
      ∀ j c, j ≠ i → s.conns.lookup j = some c → ∀ h ∈ handles, ¬ c.WillHold h := by
  obtain ⟨authority, noLeak⟩ := no_leak_reach run
  obtain ⟨c, found, at', rfl, rfl⟩ := event_step head step
  have elsewhere : ∀ j, j ≠ i → (setConn { s with events := rest } i
      (c.handleUsbEvent (.deviceLeft id handles clients))).conns.lookup j = s.conns.lookup j :=
    fun j other => AList.lookup_insert_ne other
  constructor
  · intro forgotten j d other there h listed holds
    have same := elsewhere j other
    cases holds with
    | tracked mine => exact forgotten [] _ .start j d (same.trans there) h listed mine
    | granted token id' info waits =>
        -- the connection takes the handle in with its next step
        obtain ⟨u, _, resumes, taken⟩ := resume_step engine (same.trans there) waits
        have moved : (server engine).step _ (.connection j .resume) = _ := resumes
        refine forgotten _ u (.next .start trivial moved) j _ taken h listed ?_
        exact (AList.mem_insert _).mpr (.inl rfl)
  · intro unheld tr' u later
    have left : s.manager.EventOk (.deviceLeft id handles clients) :=
      noLeak.events _ (head ▸ List.mem_cons_self)
    have invalidated : Invalidated engine handles (tr ++ [])
        (setConn { s with events := rest } i
          (c.handleUsbEvent (.deviceLeft id handles clients))) := by
      refine ⟨authority.next (step_cases step), left.2, fun j d there h listed holds => ?_⟩
      by_cases same : j = i
      · subst same
        simp only [setConn, AList.lookup_insert] at there
        obtain rfl := Option.some.inj there
        cases holds with
        | tracked mine =>
            obtain ⟨id', -, kept⟩ := AList.mem_retain.mp mine
            rw [Bool.and_eq_true, Bool.not_eq_true', Bool.eq_false_iff] at kept
            exact kept.1 (List.contains_iff_mem.mpr listed)
        | granted _ _ _ wrong => exact absurd (at'.symm.trans wrong) Phase.noConfusion
      · exact unheld j d same ((elsewhere j same).symm.trans there) h listed holds
    have kept : ∃ tr, Invalidated engine handles tr u := by
      refine later.stateInvariant (I := fun u => ∃ tr, Invalidated engine handles tr u)
        ⟨_, invalidated⟩ ?_
      rintro v a w out ⟨tr, hs⟩ _ step
      exact ⟨_, hs.next (step_cases step)⟩
    obtain ⟨_, hs⟩ := kept
    exact fun j d there h listed mine => hs.unheld j d there h listed (.tracked mine)

/-- Client "a" has the device when it is unplugged; client "b" is connected too. -/
def unplugRun : List Action :=
  attachRun 0 "a" ++ [.connect 1 ⟨"b"⟩, .command (DeviceManager.exampleEnv 0 []),
    .hotplug 1 1 .left,
    .tick ⟨HOTPLUG_DEBOUNCE_DURATION, 0⟩, .collect [⟨.left, HOTPLUG_DEBOUNCE_DURATION, 1, 1⟩],
    .fire (DeviceManager.exampleEnv 0 []), .emit]

/-- The connection of "a" is the one that takes the event. -/
theorem forgotten_owner : ∃ tr s t out, (server ⟨[], 0⟩).Reach (oneDevice .exclusive) tr s ∧
    s.step ⟨[], 0⟩ (.connection 0 .event) = some (t, out) ∧
    ∀ tr' u, (server ⟨[], 0⟩).Reach t tr' u → u.Forgotten [⟨1⟩] := by
  obtain ⟨tr, s, d, run, head, ⟨t, out, step⟩, found, none, idle, alone⟩ : ∃ tr s d,
      (server ⟨[], 0⟩).Reach (oneDevice .exclusive) tr s ∧
      s.events = [.deviceLeft ⟨1⟩ [⟨1⟩] ["a"]] ∧
      (∃ t out, s.step ⟨[], 0⟩ (.connection 0 .event) = some (t, out)) ∧
      s.conns.lookup 1 = some d ∧ d.attachedDevices = ∅ ∧ d.phase = .selecting ∧
      s.conns.keys = [1, 0] :=
    ⟨_, _, _, .of_run (rfl : (server ⟨[], 0⟩).run (oneDevice .exclusive) unplugRun = some (_, _)),
      rfl, ⟨_, _, rfl⟩, rfl, rfl, rfl, rfl⟩
  refine ⟨tr, s, t, out, run, step,
    (forgotten_iff run head step).mpr fun j c other there h _ holds => ?_⟩
  have two : j ∈ s.conns.keys := AList.mem_keys.mpr (AList.mem_of_lookup there)
  rw [alone] at two
  rcases List.mem_cons.mp two with rfl | last
  · rw [found] at there
    obtain rfl := Option.some.inj there
    cases holds with
    | tracked wrong => exact absurd (none ▸ wrong) (AList.notMem_empty h)
    | granted _ _ _ wrong => exact absurd (idle.symm.trans wrong) Phase.noConfusion
  · exact other (List.mem_singleton.mp last)

/-- The connection of "b" takes the event, and that of "a" keeps its handle. -/
theorem stranger_takes_event : ∃ tr s t out, (server ⟨[], 0⟩).Reach (oneDevice .exclusive) tr s ∧
    s.events = [.deviceLeft ⟨1⟩ [⟨1⟩] ["a"]] ∧
    s.step ⟨[], 0⟩ (.connection 1 .event) = some (t, out) ∧ t.events = [] ∧
    ∃ c, t.conns.lookup 0 = some c ∧ (⟨1⟩ : DeviceHandle) ∈ c.attachedDevices := by
  have run := Machine.Reach.of_run (rfl : (server ⟨[], 0⟩).run (oneDevice .exclusive) unplugRun =
    some (_, _))
  refine ⟨_, _, _, _, run, rfl, rfl, rfl, _, rfl, AList.mem_iff.mpr ⟨_, rfl⟩⟩

end Server
end P2pUsb
