import P2pUsb.Network.SessionSteps

/-! The sessions of the policy engine beside the attachments of the worker. The
monitor and the connections look for expired sessions on their own: what the
monitor removes, no connection finds any more, and its handle stays attached. -/
namespace P2pUsb

/-- A handle that a handler is about to detach by force is one of the granted ones,
and once the worker has answered it is detached for good. -/
def DeviceManager.ExpireOk (m : DeviceManager) : Phase → Prop
  | .sending _ (.expire event _) => event.handle.val < m.nextHandleId
  | .awaiting _ (.expire event _) none => event.handle.val < m.nextHandleId
  | .awaiting _ (.expire event _) (some _) => m.Dead event.handle
  | _ => True

namespace DeviceManager
variable {m m' : DeviceManager} {phase : Phase}

theorem ExpireOk.update (ok : m.ExpireOk phase) (step : m.Update m') : m'.ExpireOk phase := by
  unfold ExpireOk at ok ⊢
  split at ok
  case h_1 | h_2 => exact lt_of_lt_of_le ok step.counters.2
  case h_3 => exact ok.update step
  case h_4 => trivial

end DeviceManager

/-- The next session that a handler ends is one of its own handles. -/
theorem ClientConnection.expired_phase (c : ClientConnection) (events : List SessionExpiredEvent) :
    (c.handleExpiredSessions events).phase = .selecting ∨
      ∃ event rest, event.handle ∈ c.attachedDevices ∧
        (c.handleExpiredSessions events).phase =
          .sending (.detachDevice event.handle) (.expire event rest) := by
  induction events with
  | nil => exact .inl rfl
  | cons event rest ih =>
      unfold handleExpiredSessions
      split
      case isTrue own => exact .inr ⟨event, rest, own.2, rfl⟩
      case isFalse => exact ih

namespace ClientConnection
variable {c : ClientConnection} {engine : PolicyEngine}

/-- The handler is not on its way to end a session. -/
def Calm (c : ClientConnection) : Prop :=
  ∀ cmd event rest, c.phase ≠ .sending cmd (.expire event rest)

theorem calm_of_sending {cmd : UsbCommand} {next : Continuation} (at' : c.phase = .sending cmd next)
    (other : ∀ event rest, next ≠ .expire event rest) : c.Calm := by
  intro cmd' event rest wrong
  rw [at'] at wrong
  exact other event rest (Phase.sending.inj wrong).2

theorem attach_with_info_calm (wall : Nat) (id : DeviceId) (info : DeviceInfo) :
    (c.attachWithInfo engine wall id info).1.Calm := by
  rcases c.attach_with_info_cases engine wall id info with allowed | ⟨reason, denied⟩
  · rw [allowed]
    exact calm_of_sending rfl fun _ _ => Continuation.noConfusion
  · rw [denied]
    exact fun _ _ _ => Phase.noConfusion

theorem MessageStep.calm {r : ClientConnection × List ConnectionEffect}
    (step : MessageStep engine c r) : r.1.Calm := by
  cases step with
  | answer | throttle => exact fun _ _ _ => Phase.noConfusion
  | send cmd next fresh => exact calm_of_sending rfl fresh
  | attach => exact attach_with_info_calm _ _ _

theorem ResumeStep.calm {now : ClockReading} {sessions : ActiveSessions} {next : Continuation}
    {reply : UsbReply} {r : (ClientConnection × List ConnectionEffect) × ActiveSessions}
    (step : ResumeStep engine c now sessions next reply r)
    (other : ∀ event rest, next ≠ .expire event rest) : r.1.1.Calm := by
  cases step with
  | answer | attach | detach | stray => exact fun _ _ _ => Phase.noConfusion
  | check => exact attach_with_info_calm _ _ _
  | expire event rest => exact absurd rfl (other event rest)
  | cleanup order =>
      cases order with
      | nil => exact fun _ _ _ => Phase.noConfusion
      | cons h rest => exact calm_of_sending rfl fun _ _ => Continuation.noConfusion

end ClientConnection

/-- Every other step of a handler begins to end no session. -/
theorem HandlerStep.expire_origin {engine : PolicyEngine} {s : Server} {c : ClientConnection}
    {r : ClientConnection × List ConnectionEffect} (step : HandlerStep engine s c r)
    {cmd : UsbCommand} {event : SessionExpiredEvent} {rest : List SessionExpiredEvent}
    (at' : r.1.phase = .sending cmd (.expire event rest)) : event.handle ∈ c.attachedDevices := by
  have expired : ∀ {events}, (c.handleExpiredSessions events).phase =
      .sending cmd (.expire event rest) → event.handle ∈ c.attachedDevices := by
    intro events here
    rcases c.expired_phase events with idle | ⟨own, later, mine, ends⟩
    · rw [idle] at here
      cases here
    · rw [ends] at here
      obtain ⟨-, same⟩ := Phase.sending.inj here
      obtain ⟨rfl, -⟩ := Continuation.expire.inj same
      exact mine
  cases step with
  | expiry events => exact expired at'
  | giveUp token own later => exact expired at'
  | resume token next reply =>
      by_cases forced : ∃ own later, next = .expire own later
      · obtain ⟨own, later, rfl⟩ := forced
        exact expired at'
      · rw [not_exists] at forced
        have calm := (c.resume_cases engine s.clock s.sessions next reply).calm
          fun own later same => forced own ⟨later, same⟩
        exact absurd at' (calm _ _ _)
  | message payload => exact absurd at' ((c.message_step s.clock payload).calm _ _ _)
  | leave order =>
      cases order with
      | nil => cases at'
      | cons h order => cases at'
  | event event' selecting =>
      cases event' <;> exact absurd (selecting.symm.trans at') Phase.noConfusion
  | accept | readError | release => cases at'

/-- Every forced detach is of a granted handle, and its reply means what it says. -/
def ExpiresOk (s : Server) : Prop :=
  ∀ i c, s.conns.lookup i = some c → s.manager.ExpireOk c.phase

theorem ExpiresOk.next {engine : PolicyEngine} {tr out : List Effect} {s t : Server} {a : Action}
    (hs : ExpiresOk s) (authority : Authority engine tr s) (step : Transition engine s a t out) :
    ExpiresOk t := by
  have update := step.update
  intro j d there
  cases step.conn_change there with
  | kept d found => exact (hs j d found).update update
  | connected endpointId => trivial
  | handled c d effects found step =>
      have ok := authority.conns j c found
      have runs := (HandlerOk.step ok step).runs
      refine DeviceManager.ExpireOk.update ?_ update
      unfold DeviceManager.ExpireOk
      split
      case h_1 cmd event rest at' =>
        obtain ⟨id, mine⟩ := AList.mem_iff.mp (step.expire_origin at')
        obtain ⟨g, mem, -, -⟩ := ok.books.attached _ id mine
        exact authority.ledgered.below _ g mem
      case h_2 token event rest at' => exact absurd at' (runs _ _ _)
      case h_3 token event rest reply at' => exact absurd at' (runs _ _ _)
      case h_4 => trivial
  | enqueued c cmd next found at' =>
      have ok := hs j c found
      rw [at'] at ok
      cases next with
      | expire event rest => exact DeviceManager.ExpireOk.update ok update
      | _ => trivial
  | received env q c queued conn found manager =>
      rcases c.receive_cases q.token (s.manager.handleCommandInner env q.cmd).1 with
        ⟨same, -⟩ | ⟨next, at', here⟩
      · rw [same]
        exact (hs j c found).update update
      rw [here]
      cases next with
      | expire event rest =>
          -- the command that is answered is the detach of this very handle
          obtain ⟨c', found', ok⟩ := authority.queue q queued
          rw [conn, found] at found'
          obtain rfl := Option.some.inj found'
          rcases ok.waits with ⟨next', waits, sent⟩ | ⟨-, gone⟩
          · rw [at'] at waits
            obtain ⟨-, rfl, -⟩ := Phase.awaiting.inj waits
            have below := hs j c found
            rw [at'] at below
            refine ⟨?_, lt_of_lt_of_le below update.counters.2⟩
            rw [manager, sent.of_expire]
            exact AList.lookup_eq_none.mp (s.manager.detach_device_free event.handle)
          · exact absurd at' (gone _ none)
      | _ => trivial

namespace Server
variable {engine : PolicyEngine} {tr out : List Effect} {s t : Server} {a : Action}

/-- A handle that loses its session is attached no longer. -/
def SessionKept (s t : Server) : Prop :=
  ∀ h ∈ s.sessions, h ∉ t.sessions → h ∉ t.manager.attached

/-- The two places that take a session away without the worker's word for it: the
monitor, and the handler that has waited for five seconds. Both find it detached. -/
structure RemovesDetached (s : Server) (action : Action) : Prop where
  monitor : action = .monitorExpire → ∀ event rest, s.monitor = event :: rest →
    event.handle ∈ s.sessions → event.handle ∉ s.manager.attached
  giveUp : ∀ i, action = .connection i .giveUp → ∀ c token event rest,
    s.conns.lookup i = some c → c.phase = .awaiting token (.expire event rest) none →
    event.handle ∈ s.sessions → event.handle ∉ s.manager.attached

theorem kept_removes_detached (step : s.step engine a = some (t, out)) (kept : s.SessionKept t) :
    s.RemovesDetached a := by
  constructor
  · rintro rfl event rest head present
    simp only [Server.step, head] at step
    obtain ⟨rfl, -⟩ := Prod.mk.inj (Option.some.inj step)
    exact kept event.handle present fun wrong => (AList.mem_erase.mp wrong).1 rfl
  · rintro i rfl c token event rest found at' present
    simp only [Server.step, found, Option.bind_some, connectionStep, at'] at step
    obtain ⟨rfl, -⟩ := Prod.mk.inj (Option.some.inj step)
    exact kept event.handle present fun wrong => (AList.mem_erase.mp wrong).1 rfl

theorem erased_handle {sessions : ActiveSessions} {h j : DeviceHandle} (present : h ∈ sessions)
    (gone : h ∉ sessions.unregisterSession j) : h = j := by
  by_contra other
  exact gone (AList.mem_erase.mpr ⟨other, present⟩)

theorem removes_detached_kept (authority : Authority engine tr s) (hs : ExpiresOk s)
    (change : SessionChange engine s a t out) (removes : s.RemovesDetached a) :
    s.SessionKept t := by
  intro h present gone
  cases change with
  | kept a t out sessions => exact absurd (sessions ▸ present) gone
  | expired event rest head =>
      obtain rfl := erased_handle present gone
      exact removes.monitor rfl event rest head present
  | gaveUp i c token event rest found at' =>
      obtain rfl := erased_handle present gone
      exact removes.giveUp i rfl c token event rest found at' present
  | resumed i c token next reply found at' =>
      have phase := (authority.conns i c found).phase
      have forced := hs i c found
      rw [at'] at phase forced
      rcases c.resume_sessions engine s.clock s.sessions next reply with
        ⟨id, info, j, rfl, rfl, registers⟩ | ⟨-, same | ⟨j, ended, erases⟩⟩
      · rw [registers] at gone
        exact absurd ((AList.mem_insert _).mpr (.inr present)) gone
      · rw [same] at gone
        exact absurd present gone
      · obtain rfl := erased_handle present (erases ▸ gone)
        rcases ended with ⟨rfl, rfl⟩ | ⟨event, rest, rfl, rfl⟩
        · exact (phase.2 _ rfl rfl).1
        · exact forced.1

/-- Whoever has been told of a handle has a session for as long as it is attached. -/
structure Booked (engine : PolicyEngine) (tr : List Effect) (s : Server) : Prop where
  authority : Authority engine tr s
  expires : ExpiresOk s
  below : ∀ i h, Effect.attachAnswer i h ∈ tr → h.val < s.manager.nextHandleId
  booked : ∀ i h, Effect.attachAnswer i h ∈ tr → h ∈ s.manager.attached → h ∈ s.sessions

/-- The one step that tells of a handle opens its session. -/
theorem answered_booked (authority : Authority engine tr s)
    (change : SessionChange engine s a t out) {i : ConnId} {h : DeviceHandle}
    (answered : Effect.attachAnswer i h ∈ out) :
    h.val < s.manager.nextHandleId ∧ h ∈ t.sessions := by
  cases change with
  | kept a t out sessions silent => exact absurd answered (silent i h)
  | expired | gaveUp => exact absurd answered List.not_mem_nil
  | resumed j c token next reply found at' =>
      rcases c.resume_sessions engine s.clock s.sessions next reply with
        ⟨id, info, k, rfl, rfl, registers⟩ | ⟨silent, -⟩
      · have phase := (authority.conns j c found).phase
        rw [at'] at phase
        rw [registers] at answered ⊢
        cases List.mem_singleton.mp answered
        obtain ⟨g, mem, -⟩ := phase.2 _ rfl h rfl
        exact ⟨authority.ledgered.below h g mem, (AList.mem_insert _).mpr (.inl rfl)⟩
      · exact absurd answered (silent_answers silent i h)

theorem Booked.next (hs : Booked engine tr s) (step : s.step engine a = some (t, out))
    (removes : s.RemovesDetached a) : Booked engine (tr ++ out) t := by
  have transition := step_cases step
  have change := session_change step
  have update := transition.update
  have kept := removes_detached_kept hs.authority hs.expires change removes
  refine ⟨hs.authority.next transition, hs.expires.next hs.authority transition, ?_, ?_⟩
  · intro i h answered
    apply lt_of_lt_of_le _ update.counters.2
    rcases List.mem_append.mp answered with old | new
    · exact hs.below i h old
    · exact (answered_booked hs.authority change new).1
  · intro i h answered live
    rcases List.mem_append.mp answered with old | new
    · obtain ⟨entry, held⟩ := AList.mem_iff.mp live
      rcases update.attached_origin held with before | rfl
      · by_contra gone
        exact kept h (hs.booked i h old (AList.mem_of_lookup before)) gone live
      · exact absurd (hs.below i _ old) (lt_irrefl _)
    · exact (answered_booked hs.authority change new).2

theorem sessions_kept_iff (filters : List String) (config : SharingConfig)
    (devices : List RusbDevice) (clock : ClockReading) :
    (∀ as, (server engine).EveryStep (fun s _ t _ => SessionKept s t)
          (new filters config devices clock) as ↔
        (server engine).EveryStep (fun s a _ _ => RemovesDetached s a)
          (new filters config devices clock) as) ∧
      ∀ tr s, (server engine).Exec RemovesDetached (new filters config devices clock) tr s →
        ∀ i h, Effect.attachAnswer i h ∈ tr → h ∈ s.manager.attached → h ∈ s.sessions := by
  have fresh : Booked engine [] (new filters config devices clock) :=
    ⟨.new filters config devices clock, fun i c wrong => (nomatch wrong),
      fun _ _ wrong => absurd wrong List.not_mem_nil, fun _ _ wrong =>
        absurd wrong List.not_mem_nil⟩
  constructor
  · intro as
    refine Machine.everyStep_congr (I := fun s => ∃ tr, Booked engine tr s) ?_ ?_ ⟨[], fresh⟩ as
    · rintro s a t out ⟨tr, hs⟩ step
      exact ⟨kept_removes_detached step,
        removes_detached_kept hs.authority hs.expires (session_change step)⟩
    · rintro s a t out ⟨tr, hs⟩ step removes
      exact ⟨_, hs.next step removes⟩
  · intro tr s run
    exact (run.invariant (I := fun tr s => Booked engine tr s) fresh
      fun _ _ _ _ _ hs removes step => hs.next step removes).booked

/-- Everyone may use every device for an hour. -/
def hourLong : PolicyEngine where
  policies := [{
    deviceFilter := "*"
    allowedClients := ["*"]
    timeWindows := none
    maxSessionDuration := some (Duration.fromSecs 3600)
    restrictedDeviceClasses := none }]
  timezoneOffsetHours := 0

/-- The actions that take a session away without the worker's word for it. -/
def removesUnasked : Action → Bool
  | .monitorExpire => true
  | .connection _ .giveUp => true
  | _ => false

theorem RemovesDetached.of_other (other : removesUnasked a = false) : s.RemovesDetached a := by
  constructor
  · rintro rfl
    cases other
  · rintro i rfl
    cases other

/-- A client attaches a device, gives it up and attaches it again, without asking for the list. -/
def attachTwice : List Action :=
  attachRun 0 "a" ++ requestRun 0 (.detachDeviceRequest ⟨1⟩) ++ serve ++
    [.connection 0 .resume] ++ requestRun 0 (.attachDeviceRequest ⟨1⟩) ++ serve ++
    [.connection 0 .resume]

/-- The detach takes the first session away; the second one stays. -/
theorem sessions_kept_attach : ∃ tr s,
    (server hourLong).Exec RemovesDetached (oneDevice .exclusive) tr s ∧
      Effect.attachAnswer 0 ⟨1⟩ ∈ tr ∧ (⟨1⟩ : DeviceHandle) ∉ s.sessions ∧
      Effect.attachAnswer 0 ⟨2⟩ ∈ tr ∧ (⟨2⟩ : DeviceHandle) ∈ s.sessions := by
  have within : ∀ a ∈ attachTwice, ∀ s : Server, s.RemovesDetached a := by
    intro a listed s
    have quiet : attachTwice.all (fun a => !removesUnasked a) = true := rfl
    exact .of_other ((Bool.not_eq_true' _).mp (List.all_eq_true.mp quiet a listed))
  have run := Machine.Exec.of_run .start
    (Machine.everyStep_of_inputs (fun a listed s _ _ => within a listed s) (oneDevice .exclusive))
    (rfl : (server hourLong).run (oneDevice .exclusive) attachTwice = some (_, _))
  refine ⟨_, _, run, ?first, AList.lookup_eq_none.mp rfl, ?answered, (sessions_kept_iff []
    (UsbWorkerThread.exampleConfig .exclusive)
    [DeviceManager.exampleDevice 0 1 1] ⟨0, 0⟩).2 _ _ run 0 ⟨2⟩ ?answered
      (AList.mem_iff.mpr ⟨_, rfl⟩)⟩
  case first => exact List.mem_of_getElem? (i := 3) rfl
  case answered => exact List.mem_of_getLast? rfl

/-- After the hour the monitor is first: the session is gone, the handle stays
attached, and its connection never finds it expired. -/
theorem monitor_hides_expiry : ∃ (as : List Action) (s : Server) (tr : List Effect),
    (server hourLong).run (oneDevice .exclusive) as = some (s, tr) ∧
      ¬ (server hourLong).EveryStep (fun s _ t _ => SessionKept s t) (oneDevice .exclusive) as ∧
      Effect.attachAnswer 0 ⟨1⟩ ∈ tr ∧ (⟨1⟩ : DeviceHandle) ∈ s.manager.attached ∧
      ∀ now, s.sessions.checkExpiredSessions now = [] := by
  refine ⟨attachRun 0 "a" ++ [.tick ⟨Duration.fromSecs 3600, 0⟩, .monitorTick] ++ [.monitorExpire],
    _, _, rfl, fun every => ?_, List.mem_of_getLast? rfl, AList.mem_iff.mpr ⟨_, rfl⟩,
    fun now => rfl⟩
  obtain ⟨kept, -⟩ := every.after rfl _ _ rfl
  exact kept ⟨1⟩ (AList.mem_iff.mpr ⟨_, rfl⟩) (AList.notMem_empty (⟨1⟩ : DeviceHandle))
    (AList.mem_iff.mpr ⟨_, rfl⟩)

end Server
end P2pUsb
