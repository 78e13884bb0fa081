import P2pUsb.Network.SessionSteps

/-! The policy engine's sessions and the worker's attachments are two stores that
no party keeps in step: a detach request and a forced detach end both, a device
that leaves and the cleanup of a connection end the attachment alone. -/
namespace P2pUsb
namespace Server
variable {engine : PolicyEngine} {filters : List String} {config : SharingConfig}
  {devices : List RusbDevice} {clock : ClockReading} {tr out : List Effect} {s t : Server}
  {a : Action}

/-- No handler is in the middle of an event, and the monitor has removed what it
has found expired. -/
structure Settled (s : Server) : Prop where
  handlers : ∀ i c, s.conns.lookup i = some c →
    c.phase = .selecting ∨ c.phase = .reading ∨ c.phase = .stopped
  monitor : s.monitor = []

/-- Every session is of a handle that is attached, to its device and for its client. -/
def SessionsAttached (s : Server) : Prop :=
  ∀ h session, s.sessions.lookup h = some session →
    s.manager.attached.lookup h = some (session.deviceId, session.clientId.text)

/-- An attachment with a session ends by a detach request that is still waited for,
or when the removal of the session is under way; and a session begins while its
handle is attached, or in the same case. -/
structure EndsWithSession (s : Server) (action : Action) : Prop where
  ends : ∀ h ∈ s.sessions, h ∈ s.manager.attached → s.Ends h action →
    s.Owed h ∨ ∃ client, s.TakesDetach action client h
  begins : ∀ i, action = .connection i .resume → ∀ c token id info h,
    s.conns.lookup i = some c →
    c.phase = .awaiting token (.attach id info) (some (.attached (.ok h))) →
    h ∈ s.manager.attached ∨ s.Owed h

theorem session_origin (change : SessionChange engine s a t out) {h : DeviceHandle}
    {session : ActiveSession} (there : t.sessions.lookup h = some session) :
    s.sessions.lookup h = some session ∨
      ∃ i c token id info, a = .connection i .resume ∧ s.conns.lookup i = some c ∧
        c.phase = .awaiting token (.attach id info) (some (.attached (.ok h))) ∧
        t.manager = s.manager ∧ session.deviceId = id ∧ session.clientId = c.endpointId := by
  cases change with
  | kept a t out sessions => exact .inl (sessions ▸ there)
  | expired | gaveUp => exact .inl (AList.lookup_erase_eq_some.mp there).2
  | resumed i c token next reply found at' =>
      rcases c.resume_sessions engine s.clock s.sessions next reply with
        ⟨id, info, j, rfl, rfl, registers⟩ | ⟨-, same | ⟨j, -, erases⟩⟩
      · rw [registers] at there
        simp only [setConn, ActiveSessions.registerSession, AList.lookup_insert_eq] at there
        split at there
        case isTrue same =>
          subst same
          obtain rfl := Option.some.inj there
          exact .inr ⟨i, c, token, id, info, rfl, found, at', rfl, rfl, rfl⟩
        case isFalse => exact .inl there
      · rw [same] at there
        exact .inl there
      · rw [erases] at there
        exact .inl (AList.lookup_erase_eq_some.mp there).2

theorem attachment_ends (change : SessionChange engine s a t out) {h : DeviceHandle}
    (live : h ∈ s.manager.attached) (gone : h ∉ t.manager.attached) : s.Ends h a := by
  cases change with
  | kept a t out sessions silent owed ends => exact ends h live gone
  | expired | resumed | gaveUp => exact absurd live gone

theorem Owed.next {h : DeviceHandle} (owed : s.Owed h) (change : SessionChange engine s a t out)
    (present : h ∈ t.sessions) : t.Owed h := by
  have gone : ∀ {sessions : ActiveSessions} {j : DeviceHandle}, j = h →
      h ∉ sessions.unregisterSession j :=
    fun same wrong => (AList.mem_erase.mp wrong).1 same.symm
  cases change with
  | kept a t out sessions silent keeps => exact keeps h owed
  | expired event rest head =>
      cases owed with
      | monitor e waiting names =>
          rw [head] at waiting
          rcases List.mem_cons.mp waiting with rfl | later
          · exact absurd present (gone names)
          · exact .monitor e later names
      | handler i c found settles => exact .handler i c found settles
  | gaveUp i c token event rest found at' =>
      refine owed.set_conn found rfl rfl fun settles => ?_
      rw [at'] at settles
      rcases settles with names | due
      · exact absurd present (gone names)
      · exact ClientConnection.expired_settles due
  | resumed i c token next reply found at' =>
      refine owed.set_conn found rfl rfl fun settles => ?_
      rw [at'] at settles
      cases next with
      | expire event rest =>
          rcases settles with names | due
          · exact absurd present (gone names)
          · exact ClientConnection.expired_settles due
      | detach j =>
          unfold ClientConnection.Settles at settles
          split at settles
          case h_1 wrong | h_2 wrong => cases wrong
          case h_3 here =>
            obtain ⟨-, same, replied⟩ := Phase.awaiting.inj here
            cases same
            cases replied
            exact absurd present (gone settles)
          case h_4 => exact settles.elim
      | _ => exact settles.elim

theorem takes_detach_owed {client : EndpointId} {h : DeviceHandle}
    (live : h ∈ s.manager.attached) (takes : s.TakesDetach a client h)
    (step : s.step engine a = some (t, out)) : t.Owed h := by
  obtain ⟨env, q, rest, c, rfl, head, detach, found, -, at'⟩ := takes
  have conns := command_delivers head step
  have granted : (s.manager.handleCommandInner { env with now := s.clock.instant } q.cmd).1 =
      .detached (.ok ()) := by
    rw [detach]
    rcases s.manager.detach_device_cases h with ⟨free, -⟩ | ⟨_, _, -, done⟩
    · exact absurd live (AList.lookup_eq_none.mp free)
    · simp only [DeviceManager.handleCommandInner, Prod.map_fst, done]
  refine .handler q.conn (c.receive q.token (.detached (.ok ()))) ?_ ?_
  · rw [conns, s.lookup_deliver, found, granted, Option.map_some, if_pos rfl]
  · rcases c.receive_cases q.token (.detached (.ok ())) with ⟨-, idle⟩ | ⟨next, waits, here⟩
    · exact absurd at' (idle _)
    · rw [at'] at waits
      obtain ⟨-, rfl, -⟩ := Phase.awaiting.inj waits
      rw [here]
      rfl

/-- Every session is backed by a grant, and its handle is attached for as long as
no removal is under way. -/
structure SessionsBacked (engine : PolicyEngine) (tr : List Effect) (s : Server) : Prop where
  authority : Authority engine tr s
  granted : ∀ h session, s.sessions.lookup h = some session →
    ∃ g, (h, g) ∈ grants tr ∧ g.view = (session.deviceId, session.clientId.text)
  live : ∀ h ∈ s.sessions, h ∈ s.manager.attached ∨ s.Owed h

theorem SessionsBacked.next (hs : SessionsBacked engine tr s)
    (step : s.step engine a = some (t, out)) (ends : s.EndsWithSession a) :
    SessionsBacked engine (tr ++ out) t := by
  have change := session_change step
  refine ⟨hs.authority.next (step_cases step), ?_, ?_⟩
  · intro h session there
    have issued : ∃ g, (h, g) ∈ grants tr ∧
        g.view = (session.deviceId, session.clientId.text) := by
      rcases session_origin change there with old |
        ⟨i, c, token, id, info, -, found, at', -, rfl, client⟩
      · exact hs.granted h session old
      · have phase := (hs.authority.conns i c found).phase
        rw [at'] at phase
        obtain ⟨g, mem, rfl, device⟩ := phase.2 _ rfl h rfl
        obtain ⟨-, c', found', text⟩ := hs.authority.justified h g mem
        rw [found] at found'
        obtain rfl := Option.some.inj found'
        exact ⟨g, mem, Prod.ext device (text.trans (congrArg EndpointId.text client.symm))⟩
    obtain ⟨g, mem, shown⟩ := issued
    refine ⟨g, ?_, shown⟩
    rw [grants_append]
    exact List.mem_append_left _ mem
  · intro h present
    by_cases live : h ∈ t.manager.attached
    · exact .inl live
    right
    obtain ⟨session, there⟩ := AList.mem_iff.mp present
    rcases session_origin change there with
      old | ⟨i, c, token, id, info, rfl, found, at', manager, -⟩
    · rcases hs.live h (AList.mem_of_lookup old) with before | owed
      · rcases ends.ends h (AList.mem_of_lookup old) before
            (attachment_ends change before live) with owed | ⟨client, takes⟩
        · exact owed.next change present
        · exact takes_detach_owed before takes step
      · exact owed.next change present
    · rcases ends.begins i rfl c token id info h found at' with before | owed
      · exact absurd (manager ▸ before) live
      · exact owed.next change present

theorem Settled.not_owed (settled : s.Settled) (h : DeviceHandle) : ¬ s.Owed h := by
  intro owed
  cases owed with
  | monitor event waiting =>
      rw [settled.monitor] at waiting
      exact absurd waiting List.not_mem_nil
  | handler i c found settles =>
      rcases settled.handlers i c found with at' | at' | at' <;>
        · rw [at'] at settles
          exact settles.elim

theorem sessions_attached
    (run : (server engine).Exec EndsWithSession (new filters config devices clock) tr s)
    (settled : s.Settled) : s.SessionsAttached := by
  have backed : SessionsBacked engine tr s := by
    refine run.invariant (I := fun tr s => SessionsBacked engine tr s) ?_ ?_
    · exact ⟨.new filters config devices clock, fun h session wrong => (nomatch wrong),
        fun h wrong => absurd wrong (AList.notMem_empty h)⟩
    · exact fun _ _ _ _ _ hs ends step => hs.next step ends
  intro h session there
  rcases backed.live h (AList.mem_of_lookup there) with live | owed
  · obtain ⟨g, mem, shown⟩ := backed.granted h session there
    obtain ⟨entry, held⟩ := AList.mem_iff.mp live
    rw [held, backed.authority.ledgered.valid.live_view mem held, shown]
  · exact absurd owed (settled.not_owed h)

theorem EndsWithSession.idle (none : s.sessions = ∅) (other : ∀ i, a ≠ .connection i .resume) :
    s.EndsWithSession a where
  ends h wrong := absurd (none ▸ wrong) (AList.notMem_empty h)
  begins i resumes := absurd resumes (other i)

theorem EndsWithSession.resume (none : s.sessions = ∅) {i : ConnId} {c : ClientConnection}
    {token : Nat} {next : Continuation} {reply : UsbReply} (found : s.conns.lookup i = some c)
    (at' : c.phase = .awaiting token next (some reply))
    (live : ∀ h, reply = .attached (.ok h) → h ∈ s.manager.attached) :
    s.EndsWithSession (.connection i .resume) where
  ends h wrong := absurd (none ▸ wrong) (AList.notMem_empty h)
  begins j resumes c' token' id info h found' granted := by
    cases resumes
    rw [found] at found'
    obtain rfl := Option.some.inj found'
    rw [at'] at granted
    exact .inl (live h (Option.some.inj (Phase.awaiting.inj granted).2.2))

theorem sessions_attached_attach : ∃ tr s,
    (server ⟨[], 0⟩).Exec EndsWithSession (oneDevice .exclusive) tr s ∧
      (⟨1⟩ : DeviceHandle) ∈ s.sessions ∧ s.SessionsAttached := by
  have sent : (server ⟨[], 0⟩).Exec EndsWithSession (oneDevice .exclusive) _ _ :=
    .next (.next (.next (.next (.next (.next .start
      (a := .connect 0 ⟨"a"⟩) (.idle rfl nofun) rfl)
      (a := .connection 0 .accept) (.idle rfl nofun) rfl)
      (a := .connection 0 (.message (.attachDeviceRequest ⟨1⟩))) (.idle rfl nofun) rfl)
      (a := .connection 0 .enqueue) (.idle rfl nofun) rfl)
      (a := .command (DeviceManager.exampleEnv 0 [])) (.idle rfl nofun) rfl)
      (a := .collect []) (.idle rfl nofun) rfl
  have allowed := sent.next (a := .connection 0 .resume) (.resume rfl rfl rfl
    fun h => UsbReply.noConfusion) rfl
  have granted : (server ⟨[], 0⟩).Exec EndsWithSession (oneDevice .exclusive) _ _ :=
    .next (.next (.next allowed
      (a := .connection 0 .enqueue) (.idle rfl nofun) rfl)
      (a := .command (DeviceManager.exampleEnv 0 [])) (.idle rfl nofun) rfl)
      (a := .collect []) (.idle rfl nofun) rfl
  have run := granted.next (a := .connection 0 .resume) (.resume rfl rfl rfl (by
    rintro h ⟨⟩
    exact AList.mem_iff.mpr ⟨_, rfl⟩)) rfl
  refine ⟨_, _, run, AList.mem_iff.mpr ⟨_, rfl⟩, sessions_attached run ⟨fun i c found => ?_, rfl⟩⟩
  cases i with
  | zero =>
      obtain rfl := Option.some.inj found
      exact .inl rfl
  | succ i => cases found

/-- A client attaches a device and disconnects: the session stays. -/
theorem cleanup_keeps_session : ∃ (as : List Action) (s : Server) (tr : List Effect),
    (server ⟨[], 0⟩).run (oneDevice .exclusive) as = some (s, tr) ∧ s.Settled ∧
      s.commands = [] ∧ s.events = [] ∧ s.worker = .receive ∧ ¬ s.SessionsAttached := by
  refine ⟨attachRun 0 "a" ++ [.connection 0 (.disconnect [⟨1⟩]), .connection 0 .enqueue] ++ serve ++
    [.connection 0 .resume], _, _, rfl, ⟨fun i c found => ?_, rfl⟩, rfl, rfl, rfl, fun wrong => ?_⟩
  · cases i with
    | zero =>
        obtain rfl := Option.some.inj found
        exact .inr (.inr rfl)
    | succ i => cases found
  · have held := wrong ⟨1⟩ _ rfl
    cases held

end Server
end P2pUsb
