import P2pUsb.Network.Isolation

/-! The bridge between the connections and the USB worker: two bounded channels,
and waits in both directions. The worker waits for a slot in the event channel,
which only a running connection makes; a connection waits for the worker's reply. -/
namespace P2pUsb

/-- A command of the handler is with the worker or on its way, and the handler
goes on only with its reply. The wait for a forced detach ends by itself. -/
def ClientConnection.asks (c : ClientConnection) : Bool :=
  match c.phase with
  | .sending _ _ => true
  | .awaiting _ (.expire _ _) none => false
  | .awaiting _ _ none => true
  | _ => false

/-- The handler runs and wants nothing from the worker. -/
def ClientConnection.free (c : ClientConnection) : Bool := c.inLoop && !c.asks

namespace Server

/-- The worker waits for a slot in the full event channel. -/
def Blocked (s : Server) : Prop :=
  (∃ event todo, s.worker = .emitting event todo) ∧ CHANNEL_CAPACITY ≤ s.events.length

/-- Some connection is in its loop. -/
def Loops (s : Server) : Prop := ∃ i c, s.conns.lookup i = some c ∧ c.inLoop = true

/-- All that the connection can do is wait: for a slot in the full command
channel, or for a reply without a time limit. -/
def Waits (s : Server) (c : ClientConnection) : Prop :=
  match c.phase with
  | .sending _ _ => CHANNEL_CAPACITY ≤ s.commands.length
  | .awaiting _ (.expire _ _) none => False
  | .awaiting _ _ none => True
  | _ => False

structure Deadlocked (s : Server) : Prop where
  blocked : s.Blocked
  loops : s.Loops
  waits : ∀ i c, s.conns.lookup i = some c → c.inLoop = true → s.Waits c

/-- Some running connection wants nothing from the worker. -/
def HasFree (s : Server) : Prop := ∃ i c, s.conns.lookup i = some c ∧ c.free = true

/-- The condition on a step: an event is fired into the full channel, and a
connection turns to the worker while that waits, only if a connection that can
still take an event is left, or no loop runs. -/
structure KeepsFree (engine : PolicyEngine) (s : Server) (a : Action) : Prop where
  fires : ∀ env ready todo, a = .fire env → s.worker = .firing (ready :: todo) →
    CHANNEL_CAPACITY ≤ s.events.length →
    (s.manager.processReadyEvent { env with now := s.clock.instant } ready).1.isSome = true →
    s.Loops → s.HasFree
  turns : ∀ i action c, a = .connection i action → s.Blocked → s.conns.lookup i = some c →
    c.free = true → ∀ t out c', s.connectionStep engine i c action = some (t, out) →
    t.conns.lookup i = some c' → c'.free = false →
    (∃ j d, j ≠ i ∧ s.conns.lookup j = some d ∧ d.free = true) ∨
      c'.inLoop = false ∧ ∀ j d, j ≠ i → s.conns.lookup j = some d → d.inLoop = false

variable {engine : PolicyEngine} {s t : Server} {a : Action} {out : List Effect}

/-- Neither the worker nor a running connection can take a step. -/
theorem Deadlocked.stuck (dead : s.Deadlocked) : (∀ a, s.workerStep a = none) ∧
    ∀ i c action, s.conns.lookup i = some c → c.inLoop = true →
      s.connectionStep engine i c action = none := by
  obtain ⟨⟨event, todo, emitting⟩, full⟩ := dead.blocked
  constructor
  · intro a
    unfold workerStep
    rw [emitting]
    cases a with
    | emit => exact if_neg (Nat.not_lt.mpr full)
    | tick | connect | connection | command | hotplug | collect | fire | monitorTick
    | monitorExpire => rfl
  · intro i c action found loop
    have waits := dead.waits i c found loop
    unfold Waits at waits
    unfold connectionStep
    cases phase : c.phase with
    | selecting | reading | throttled | stopped => simp only [phase] at waits
    | sending cmd next =>
        rw [phase] at waits
        cases action with
        | enqueue => exact if_neg (Nat.not_lt.mpr waits)
        | accept | readError | message | release | event | expiryTick | disconnect | resume
        | giveUp => rfl
    | awaiting token next reply =>
        rw [phase] at waits
        cases reply with
        | some r => cases next <;> exact waits.elim
        | none =>
            cases next with
            | expire => exact waits.elim
            | listDevices | attachInfo | attach | detach | submit | sharingStatus | lock
            | unlock | cleanup => cases action <;> rfl

theorem free_not_waits {c : ClientConnection} (free : c.free = true) : ¬ s.Waits c := by
  obtain ⟨-, idle⟩ := Bool.and_eq_true_iff.mp free
  rw [Bool.not_eq_true'] at idle
  unfold ClientConnection.asks at idle
  unfold Waits
  intro waits
  cases phase : c.phase with
  | selecting | reading | throttled | stopped =>
      rw [phase] at waits
      exact waits
  | sending =>
      rw [phase] at idle
      cases idle
  | awaiting token next reply =>
      rw [phase] at waits idle
      cases reply with
      | some r => cases next <;> exact waits
      | none =>
          cases next with
          | expire => exact waits
          | listDevices | attachInfo | attach | detach | submit | sharingStatus | lock
          | unlock | cleanup => cases idle

/-- A handler that has left its loop does not come back to it. -/
theorem handler_stays_out {c : ClientConnection} {r : ClientConnection × List ConnectionEffect}
    (step : HandlerStep engine s c r) (gone : c.inLoop = false) : r.1.inLoop = false := by
  have cleans : ∀ {d : ClientConnection} (rest : List DeviceHandle),
      (d.cleanup rest).inLoop = false := by
    intro d rest
    cases rest with
    | nil => rfl
    | cons h rest => rfl
  unfold ClientConnection.inLoop at gone
  cases step with
  | leave order => exact cleans order
  | resume token next reply at' =>
      rw [at'] at gone
      cases next with
      | cleanup rest => exact cleans rest
      | listDevices | attachInfo | attach | detach | submit | sharingStatus | lock | unlock
      | expire => cases gone
  | accept at' | readError at' | message _ at' | release _ at' | expiry _ at' | event _ at'
  | giveUp _ _ _ at' =>
      rw [at'] at gone
      cases gone

/-- One connection takes a step while the worker waits. -/
theorem has_free_connection {i : ConnId} {action : ConnectionAction} {c c' : ClientConnection}
    (found : s.conns.lookup i = some c) (conns : t.conns = s.conns.insert i c')
    (stays : c.inLoop = false → c'.inLoop = false) (blocked : s.Blocked)
    (keeps : KeepsFree engine s (.connection i action))
    (step : s.connectionStep engine i c action = some (t, out)) (hs : s.Loops → s.HasFree)
    (loops : t.Loops) : t.HasFree := by
  have there : t.conns.lookup i = some c' := by
    rw [conns]
    exact AList.lookup_insert _
  have other : ∀ {j d}, j ≠ i → (t.conns.lookup j = some d ↔ s.conns.lookup j = some d) := by
    intro j d differ
    rw [conns, AList.lookup_insert_ne differ]
  by_cases still : c'.free = true
  · exact ⟨i, c', there, still⟩
  have turned : c'.free = false := Bool.eq_false_iff.mpr still
  have free : s.HasFree := by
    apply hs
    obtain ⟨j, d, found', loop⟩ := loops
    by_cases same : j = i
    · subst same
      refine ⟨j, c, found, ?_⟩
      by_contra gone
      rw [there] at found'
      obtain rfl := Option.some.inj found'
      rw [stays (Bool.eq_false_iff.mpr gone)] at loop
      cases loop
    · exact ⟨j, d, (other same).mp found', loop⟩
  have elsewhere : (∃ j d, j ≠ i ∧ s.conns.lookup j = some d ∧ d.free = true) ∨
      c'.inLoop = false ∧ ∀ j d, j ≠ i → s.conns.lookup j = some d → d.inLoop = false := by
    obtain ⟨j, d, found', isFree⟩ := free
    by_cases same : j = i
    · subst same
      rw [found] at found'
      obtain rfl := Option.some.inj found'
      exact keeps.turns j action c rfl blocked found isFree t out c' step there turned
    · exact .inl ⟨j, d, same, found', isFree⟩
  rcases elsewhere with ⟨j, d, differ, found', isFree⟩ | ⟨left, alone⟩
  · exact ⟨j, d, (other differ).mpr found', isFree⟩
  · obtain ⟨j, d, found', loop⟩ := loops
    by_cases same : j = i
    · subst same
      rw [there] at found'
      obtain rfl := Option.some.inj found'
      rw [left] at loop
      cases loop
    · rw [alone j d same ((other same).mp found')] at loop
      cases loop

/-- While the worker waits, a running connection can make room for its event. -/
def Open (s : Server) : Prop := s.Blocked → s.Loops → s.HasFree

theorem Open.next (hs : s.Open) (keeps : KeepsFree engine s a)
    (step : s.step engine a = some (t, out)) : t.Open := by
  intro blocked loops
  cases step_cases step with
  | monitor => exact hs blocked loops
  | connect i endpointId free => exact ⟨i, _, AList.lookup_insert _, rfl⟩
  | handler i action c c' effects events sessions found handled kept =>
      obtain ⟨d, found', step⟩ := Option.bind_eq_some_iff.mp step
      rw [found] at found'
      obtain rfl := Option.some.inj found'
      have before : s.Blocked := ⟨blocked.1, blocked.2.trans kept.length_le⟩
      exact has_free_connection found rfl (handler_stays_out handled) before keeps step
        (hs before) loops
  | enqueue i action c cmd next found at' =>
      obtain ⟨d, found', step⟩ := Option.bind_eq_some_iff.mp step
      rw [found] at found'
      obtain rfl := Option.some.inj found'
      refine has_free_connection found rfl ?_ blocked keeps step (hs blocked) loops
      intro gone
      unfold ClientConnection.inLoop at gone ⊢
      rw [at'] at gone
      cases next <;> first | rfl | cases gone
  | command =>
      obtain ⟨⟨event, todo, wrong⟩, -⟩ := blocked
      cases wrong
  | worker a manager worker update shrinks quiet =>
      obtain ⟨⟨event, todo, wrong⟩, -⟩ := blocked
      exact absurd wrong (quiet event todo)
  | fire env ready event manager todo at' fired =>
      apply keeps.fires env ready todo rfl at' blocked.2 _ loops
      rw [fired]
      rfl
  | emit event todo at' =>
      obtain ⟨⟨event', todo', wrong⟩, -⟩ := blocked
      exact absurd wrong (worker_phase_next_quiet todo event' todo')

theorem Open.not_deadlocked (hs : s.Open) : ¬ s.Deadlocked := by
  intro dead
  obtain ⟨i, c, found, free⟩ := hs dead.blocked dead.loops
  have loop := (Bool.and_eq_true_iff.mp free).1
  exact free_not_waits free (dead.waits i c found loop)

theorem never_deadlocked {filters : List String} {config : SharingConfig}
    {devices : List RusbDevice} {clock : ClockReading} {tr : List Effect}
    (run : (server engine).Exec (KeepsFree engine) (new filters config devices clock) tr s) :
    ¬ s.Deadlocked := by
  apply Open.not_deadlocked
  refine run.stateInvariant (I := Open) ?_ fun s a t out hs keeps step => hs.next keeps step
  rintro ⟨⟨event, todo, wrong⟩, -⟩
  cases wrong

/-- A handler that asks and does not wait has room for its command. -/
theorem asks_cases {c : ClientConnection} (asks : c.asks = true) :
    s.Waits c ∨ ∃ cmd next, c.phase = .sending cmd next ∧ s.commands.length < CHANNEL_CAPACITY := by
  unfold ClientConnection.asks at asks
  unfold Waits
  cases phase : c.phase with
  | selecting | reading | throttled | stopped =>
      rw [phase] at asks
      cases asks
  | sending cmd next =>
      rcases Nat.lt_or_ge s.commands.length CHANNEL_CAPACITY with room | full
      · exact .inr ⟨cmd, next, rfl, room⟩
      · exact .inl full
  | awaiting token next reply =>
      rw [phase] at asks
      cases reply with
      | some r => cases next <;> cases asks
      | none =>
          cases next with
          | expire => cases asks
          | listDevices | attachInfo | attach | detach | submit | sharingStatus | lock
          | unlock | cleanup => exact .inl trivial

theorem turned_asks {i : ConnId} {c : ClientConnection} (turned : ¬ s.HasFree)
    (found : s.conns.lookup i = some c) (loop : c.inLoop = true) : c.asks = true := by
  by_contra idle
  apply turned
  refine ⟨i, c, found, Bool.and_eq_true_iff.mpr ⟨loop, ?_⟩⟩
  rw [Bool.eq_false_iff.mpr idle, Bool.not_false]

/-- A connection sends its command, and from then on waits for the reply. -/
theorem enqueue_asks (engine : PolicyEngine) {i : ConnId} {c : ClientConnection} {cmd : UsbCommand}
    {next : Continuation} (found : s.conns.lookup i = some c) (at' : c.phase = .sending cmd next)
    (loop : c.inLoop = true) (unforced : ∀ event rest, next ≠ .expire event rest)
    (room : s.commands.length < CHANNEL_CAPACITY) :
    ∃ t d, (server engine).step s (.connection i .enqueue) = some (t, []) ∧
      t.conns = s.conns.insert i d ∧ t.worker = s.worker ∧ t.events = s.events ∧
      t.commands.length = s.commands.length + 1 ∧ d.inLoop = true ∧ d.asks = true ∧
      ∀ cmd next, d.phase ≠ .sending cmd next := by
  refine ⟨setConn { s with commands := s.commands ++ [⟨i, c.sent, cmd⟩] } i
    { c with phase := .awaiting c.sent next none, sent := c.sent + 1 }, _, ?_, rfl, rfl, rfl,
    List.length_append, ?_, ?_, ?_⟩
  · simp only [server, Server.step, found, Option.bind_some, connectionStep, at']
    exact if_pos room
  · unfold ClientConnection.inLoop at loop ⊢
    rw [at'] at loop
    cases next <;> first | rfl | cases loop
  · unfold ClientConnection.asks
    cases next <;> first | rfl | exact absurd rfl (unforced _ _)
  · exact fun _ _ => Phase.noConfusion

/-- The condition is no stronger than it has to be: once no running connection
is free while the worker waits, sending their commands ends in a deadlock. Only
a forced detach would set its connection free again. -/
theorem turned_away_deadlocks (blocked : s.Blocked) (loops : s.Loops) (turned : ¬ s.HasFree)
    (forced : ∀ i c cmd event rest, s.conns.lookup i = some c →
      c.phase ≠ .sending cmd (.expire event rest)) :
    ∃ as t, (server engine).run s as = some (t, []) ∧ t.Deadlocked := by
  -- on the slots that are left in the command channel
  induction room : CHANNEL_CAPACITY - s.commands.length generalizing s with
  | zero =>
      refine ⟨[], s, rfl, blocked, loops, fun i c found loop => ?_⟩
      rcases asks_cases (turned_asks turned found loop) with waits | ⟨cmd, next, -, less⟩
      · exact waits
      · omega
  | succ n ih =>
      by_cases all : ∀ i c, s.conns.lookup i = some c → c.inLoop = true → s.Waits c
      · exact ⟨[], s, rfl, blocked, loops, all⟩
      push Not at all
      obtain ⟨i, c, found, loop, moves⟩ := all
      rcases asks_cases (turned_asks turned found loop) with waits | ⟨cmd, next, at', less⟩
      · exact absurd waits moves
      have unforced : ∀ event rest, next ≠ .expire event rest := by
        rintro event rest rfl
        exact forced i c cmd event rest found at'
      obtain ⟨t, d, step, conns, worker, events, longer, looping, asking, quiet⟩ :=
        enqueue_asks engine found at' loop unforced less
      have cases' : ∀ {j e}, t.conns.lookup j = some e →
          e = d ∨ s.conns.lookup j = some e := by
        intro j e there
        rw [conns, AList.lookup_insert_eq] at there
        split at there
        · exact .inl (Option.some.inj there).symm
        · exact .inr there
      have blocked' : t.Blocked := by
        unfold Blocked
        rw [worker, events]
        exact blocked
      have loops' : t.Loops := by
        refine ⟨i, d, ?_, looping⟩
        rw [conns]
        exact AList.lookup_insert _
      have turned' : ¬ t.HasFree := by
        rintro ⟨j, e, there, free⟩
        rcases cases' there with rfl | there
        · have idle := (Bool.and_eq_true_iff.mp free).2
          rw [asking] at idle
          cases idle
        · exact turned ⟨j, e, there, free⟩
      have forced' : ∀ j e cmd event rest, t.conns.lookup j = some e →
          e.phase ≠ .sending cmd (.expire event rest) := by
        intro j e cmd' event rest there
        rcases cases' there with rfl | there
        · exact quiet _ _
        · exact forced j e cmd' event rest there
      obtain ⟨as, u, run, dead⟩ := ih blocked' loops' turned' forced' (by omega)
      refine ⟨.connection i .enqueue :: as, u, ?_, dead⟩
      rw [Machine.run_cons step, run]
      rfl

theorem debounced_ready {m : DeviceManager} (empty : m.debounceState = ∅) (x : Instant)
    (bus address : UInt8) (eventType : PendingHotplugEvent) :
    (m.scheduleDebouncedEvent x bus address eventType).readyEvents (x + HOTPLUG_DEBOUNCE_DURATION) =
        [⟨eventType, x + HOTPLUG_DEBOUNCE_DURATION, bus, address⟩] ∧
      (m.scheduleDebouncedEvent x bus address eventType).takeReadyEvents
        (x + HOTPLUG_DEBOUNCE_DURATION) = m := by
  have due : decide (x + HOTPLUG_DEBOUNCE_DURATION ≥ x + HOTPLUG_DEBOUNCE_DURATION) = true :=
    decide_eq_true (le_refl _)
  have pending : (m.debounceState.insert (bus, address)
      ⟨eventType, x + HOTPLUG_DEBOUNCE_DURATION, bus, address⟩).entries =
        [⟨(bus, address), ⟨eventType, x + HOTPLUG_DEBOUNCE_DURATION, bus, address⟩⟩] := by
    rw [empty]
    rfl
  constructor
  · unfold DeviceManager.readyEvents AList.retain DeviceManager.scheduleDebouncedEvent
    simp only [pending, List.filter_cons, due, if_true, List.filter_nil, List.map_cons,
      List.map_nil]
  · have cleared : ((m.debounceState.insert (bus, address)
        ⟨eventType, x + HOTPLUG_DEBOUNCE_DURATION, bus, address⟩).retain fun _ event =>
          !decide (x + HOTPLUG_DEBOUNCE_DURATION ≥ event.fireAt)) = m.debounceState := by
      apply AList.ext
      have none : m.debounceState.entries = [] := congrArg AList.entries empty
      rw [none]
      unfold AList.retain
      simp only [pending, List.filter_cons, due, Bool.not_true, Bool.false_eq_true, if_false,
        List.filter_nil]
    unfold DeviceManager.takeReadyEvents DeviceManager.scheduleDebouncedEvent
    rw [cleared]

/-- The server with one device, before any client has connected. -/
def unattended (now : ClockReading) (events : List UsbEvent) : Server :=
  { oneDevice .exclusive with clock := now, events := events }

theorem keeps_free_unattended (nobody : s.conns = ∅) (a : Action) : KeepsFree engine s a := by
  have none : ∀ {i c}, s.conns.lookup i ≠ some c := by
    intro i c wrong
    rw [nobody] at wrong
    cases wrong
  constructor
  · rintro env ready todo - - - - ⟨i, c, found, -⟩
    exact absurd found none
  · exact fun i action c _ _ found => absurd found none

/-- Reached within the condition, and before any command was answered. -/
abbrev Runs (s : Server) : Prop :=
  (server ⟨[], 0⟩).Exec (KeepsFree ⟨[], 0⟩) (oneDevice .exclusive) [] s

theorem Runs.unattended (run : Runs s) (nobody : s.conns = ∅) (a : Action)
    (step : s.step ⟨[], 0⟩ a = some (t, [])) : Runs t :=
  run.next (keeps_free_unattended nobody a) step

/-- The device is reported once more, and the worker has an event to send. -/
theorem Runs.reported {x w : Nat} {events : List UsbEvent}
    (run : Runs (Server.unattended ⟨x, w⟩ events)) : ∃ event,
    Runs { Server.unattended ⟨x + HOTPLUG_DEBOUNCE_DURATION, w⟩ events with
      worker := .emitting event [] } := by
  obtain ⟨ready, taken⟩ := debounced_ready (m := (oneDevice .exclusive).manager) rfl x 1 1 .arrived
  have polled := run.unattended rfl (.command (DeviceManager.exampleEnv 0 [])) rfl
  have plugged := polled.unattended rfl (.hotplug 1 1 .arrived) rfl
  have later := plugged.unattended rfl (.tick ⟨x + HOTPLUG_DEBOUNCE_DURATION, w⟩)
    (if_pos (Nat.le_add_right x _))
  have collected : Runs { Server.unattended ⟨x + HOTPLUG_DEBOUNCE_DURATION, w⟩ events with
      worker := .firing [⟨.arrived, x + HOTPLUG_DEBOUNCE_DURATION, 1, 1⟩] } := by
    apply later.unattended rfl (.collect [⟨.arrived, x + HOTPLUG_DEBOUNCE_DURATION, 1, 1⟩])
    simp only [Server.step, workerStep, Server.unattended, ready, taken]
    exact if_pos (List.isPerm_iff.mpr (.refl _))
  exact ⟨_, collected.unattended rfl
    (.fire (DeviceManager.exampleEnv 0 [DeviceManager.exampleDevice 0 1 1])) rfl⟩

/-- Nobody takes the events, so they fill the channel. -/
theorem events_fill {n : Nat} (room : n ≤ CHANNEL_CAPACITY) : ∃ x events,
    events.length = n ∧ Runs (Server.unattended ⟨x, 0⟩ events) := by
  induction n with
  | zero => exact ⟨0, [], rfl, .start⟩
  | succ n ih =>
      obtain ⟨x, events, count, run⟩ := ih (Nat.le_of_succ_le room)
      obtain ⟨event, emitting⟩ := run.reported
      have sent := emitting.unattended rfl .emit (if_pos (count ▸ room))
      refine ⟨x + HOTPLUG_DEBOUNCE_DURATION, events ++ [event], ?_, sent⟩
      rw [List.length_append, count]
      rfl

/-- The worker waits with an event when the first client connects, whose handler
takes a stream before it takes an event. -/
theorem attended_when_full : ∃ s c, Runs s ∧ s.Blocked ∧ s.commands = [] ∧
    s.conns = AList.insert 0 c ∅ ∧ c.phase = .reading ∧ c.sent = 0 := by
  obtain ⟨x, events, full, run⟩ := events_fill (le_refl _)
  obtain ⟨event, emitting⟩ := run.reported
  have connected := emitting.unattended rfl (.connect 0 ⟨"a"⟩) rfl
  have accepted := connected.next (a := .connection 0 .accept) ?_ rfl
  · exact ⟨_, _, accepted, ⟨⟨event, [], rfl⟩, full.ge⟩, rfl, rfl, rfl, rfl⟩
  · refine ⟨fun env ready todo wrong => (nomatch wrong), ?_⟩
    intro i action c same _ found _ t out c' step there turned
    obtain ⟨rfl, rfl⟩ := Action.connection.inj same
    obtain rfl := Option.some.inj found
    obtain ⟨rfl, -⟩ := Prod.mk.inj (Option.some.inj step)
    obtain rfl := Option.some.inj there
    cases turned

theorem never_deadlocked_attended : ∃ s, Runs s ∧ s.Blocked ∧ s.Loops ∧ ¬ s.Deadlocked := by
  obtain ⟨s, c, run, blocked, -, conns, reading, -⟩ := attended_when_full
  refine ⟨s, run, blocked, ⟨0, c, ?_, ?_⟩, never_deadlocked run⟩
  · rw [conns]
    rfl
  · unfold ClientConnection.inLoop
    rw [reading]

/-- The client asks for the device list, and neither side ever moves again. -/
theorem bridge_deadlocks : ∃ tr s, (server ⟨[], 0⟩).Reach (oneDevice .exclusive) tr s ∧
    s.Deadlocked := by
  obtain ⟨s, c, run, blocked, commands, conns, reading, -⟩ := attended_when_full
  have reached : (server ⟨[], 0⟩).Reach (oneDevice .exclusive) [] s :=
    run.mono fun _ _ _ => trivial
  have found : s.conns.lookup 0 = some c := by
    rw [conns]
    exact AList.lookup_insert ∅
  have asked : (server ⟨[], 0⟩).step s (.connection 0 (.message .listDevicesRequest)) =
      some (s.setConn 0 { c with phase := .sending .listDevices .listDevices }, []) := by
    simp only [server, Server.step, found, Option.bind_some, connectionStep, reading]
    rfl
  have sent : (server ⟨[], 0⟩).step
      (s.setConn 0 { c with phase := .sending .listDevices .listDevices })
      (.connection 0 .enqueue) = some (setConn { s with commands := [⟨0, c.sent, .listDevices⟩] } 0
        { c with phase := .awaiting c.sent .listDevices none, sent := c.sent + 1 }, []) := by
    simp only [server, Server.step, setConn, AList.lookup_insert, Option.bind_some,
      connectionStep, commands, AList.insert_insert]
    rfl
  refine ⟨_, _, (reached.next trivial asked).next trivial sent, blocked,
    ⟨0, _, AList.lookup_insert s.conns, rfl⟩, ?_⟩
  · intro i d there loop
    simp only [setConn, conns, AList.insert_insert, AList.lookup_insert_eq] at there
    split at there
    · obtain rfl := Option.some.inj there
      trivial
    · cases there

end Server
end P2pUsb
