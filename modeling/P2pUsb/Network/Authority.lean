import P2pUsb.Network.Grants

/-! What a connection knows is what the worker has granted: the invariant that
ties the handlers' own maps and the commands in flight to the grants of the run,
whatever the order of messages, events and commands. -/
namespace P2pUsb

/-- The handler that goes on so has sent this command. -/
inductive Continuation.Sent : Continuation → UsbCommand → Prop
  | listDevices : Sent .listDevices .listDevices
  | attachInfo (id : DeviceId) : Sent (.attachInfo id) .listDevices
  | attach (id : DeviceId) (info : DeviceInfo) (client : String) :
      Sent (.attach id info) (.attachDevice id client)
  | detach (h : DeviceHandle) : Sent (.detach h) (.detachDevice h)
  | submit (h : DeviceHandle) (request : UsbRequest) : Sent .submit (.submitTransfer h request)
  | sharingStatus (id : DeviceId) (h : Option DeviceHandle) :
      Sent .sharingStatus (.getSharingStatus id h)
  | lock (h : DeviceHandle) (w : Bool) : Sent .lock (.lockDevice h w)
  | unlock (h : DeviceHandle) : Sent .unlock (.unlockDevice h)
  | expire (event : SessionExpiredEvent) (rest : List SessionExpiredEvent) :
      Sent (.expire event rest) (.detachDevice event.handle)
  | cleanup (h : DeviceHandle) (rest : List DeviceHandle) :
      Sent (.cleanup rest) (.detachDevice h)

theorem Continuation.Sent.of_expire {event : SessionExpiredEvent}
    {rest : List SessionExpiredEvent} {cmd : UsbCommand} (sent : Sent (.expire event rest) cmd) :
    cmd = .detachDevice event.handle := by
  cases sent
  rfl

theorem Continuation.Sent.to_attach {next : Continuation} {id : DeviceId} {client : String}
    (sent : next.Sent (.attachDevice id client)) : ∃ info, next = .attach id info := by
  cases sent with
  | attach id info client => exact ⟨info, rfl⟩

/-- What the handler has made sure of before it sends the command. -/
def CommandOk (tr : List Effect) (i : ConnId) (endpointId : EndpointId) (token : Nat) :
    UsbCommand → Prop
  | .attachDevice id client => client = endpointId.text ∧
      ∃ wall info, Effect.connection i (.checked token id wall info .allow) ∈ tr
  | .submitTransfer h _ | .lockDevice h _ | .unlockDevice h => ∃ id, Granted tr i h id
  | _ => True

/-- The reply is of the command's kind and says what is so. -/
def ReplyOk (tr : List Effect) (m : DeviceManager) (i : ConnId) : Continuation → UsbReply → Prop
  | .listDevices, .devices _ => True
  | .attachInfo _, .devices devices => ∀ info ∈ devices, m.InfoOk info
  | .attach id _, .attached result => ∀ h, result = .ok h → Granted tr i h id
  | .detach h, .detached result => result = .ok () → m.Dead h
  | .submit, .transferred _ => True
  | .sharingStatus, .sharingStatus _ => True
  | .lock, .locked _ => True
  | .unlock, .unlocked _ => True
  | .expire _ _, .detached _ => True
  | .cleanup _, .detached _ => True
  | _, _ => False

def PhaseOk (tr : List Effect) (m : DeviceManager) (i : ConnId) (c : ClientConnection) :
    Phase → Prop
  | .throttled request => ∃ id, Granted tr i request.handle id
  | .sending cmd next => CommandOk tr i c.endpointId c.sent cmd ∧ next.Sent cmd
  | .awaiting token next reply => token < c.sent ∧ ∀ r, reply = some r → ReplyOk tr m i next r
  | .selecting | .reading | .stopped => True

/-- The maps that a handler keeps for itself. -/
structure BooksOk (tr : List Effect) (m : DeviceManager) (i : ConnId) (c : ClientConnection) :
    Prop where
  attached : ∀ h id, c.attachedDevices.lookup h = some id → Granted tr i h id
  cache : ∀ id info, c.deviceInfoCache.lookup id = some info → info.id = id ∧ m.InfoOk info

structure ConnOk (tr : List Effect) (m : DeviceManager) (i : ConnId) (c : ClientConnection) :
    Prop where
  books : BooksOk tr m i c
  phase : PhaseOk tr m i c c.phase

section
variable {tr : List Effect} {m m' : DeviceManager} {i : ConnId} {c : ClientConnection}

theorem CommandOk.mono {e : EndpointId} {token : Nat} {cmd : UsbCommand}
    (ok : CommandOk tr i e token cmd) (out : List Effect) :
    CommandOk (tr ++ out) i e token cmd := by
  cases cmd with
  | attachDevice id client =>
      obtain ⟨same, wall, info, checked⟩ := ok
      exact ⟨same, wall, info, List.mem_append_left out checked⟩
  | submitTransfer | lockDevice | unlockDevice =>
      obtain ⟨id, granted⟩ := ok
      exact ⟨id, granted.mono out⟩
  | listDevices | detachDevice | resetDevice | getSharingStatus => trivial

theorem ReplyOk.mono {next : Continuation} {reply : UsbReply} (ok : ReplyOk tr m i next reply)
    (out : List Effect) (update : m.Update m') : ReplyOk (tr ++ out) m' i next reply := by
  unfold ReplyOk at ok ⊢
  split at ok
  case h_2 => exact fun info listed => (ok info listed).update update
  case h_3 => exact fun h granted => (ok h granted).mono out
  case h_4 => exact fun done => (ok done).update update
  all_goals trivial

theorem BooksOk.mono (ok : BooksOk tr m i c) (out : List Effect) (update : m.Update m') :
    BooksOk (tr ++ out) m' i c where
  attached h id there := (ok.attached h id there).mono out
  cache id info there := ⟨(ok.cache id info there).1, (ok.cache id info there).2.update update⟩

theorem BooksOk.moved (ok : BooksOk tr m i c) {c' : ClientConnection} (out : List Effect)
    (attached : c'.attachedDevices = c.attachedDevices)
    (cache : c'.deviceInfoCache = c.deviceInfoCache) : BooksOk (tr ++ out) m i c' := by
  have moved : BooksOk tr m i c' := ⟨attached ▸ ok.attached, cache ▸ ok.cache⟩
  exact moved.mono out .refl

theorem ConnOk.mono (ok : ConnOk tr m i c) (out : List Effect) (update : m.Update m') :
    ConnOk (tr ++ out) m' i c := by
  refine ⟨ok.books.mono out update, ?_⟩
  have phase := ok.phase
  cases at' : c.phase with
  | selecting | reading | stopped => trivial
  | throttled request =>
      rw [at'] at phase
      obtain ⟨id, granted⟩ := phase
      exact ⟨id, granted.mono out⟩
  | sending cmd next =>
      rw [at'] at phase
      exact ⟨phase.1.mono out, phase.2⟩
  | awaiting token next reply =>
      rw [at'] at phase
      exact ⟨phase.1, fun r there => (phase.2 r there).mono out update⟩

/-- Everything that is known of a handler after a step of its own. -/
structure HandlerOk (engine : PolicyEngine) (tr : List Effect) (m : DeviceManager) (i : ConnId)
    (client : EndpointId) (count : Nat) (r : ClientConnection × List ConnectionEffect) :
    Prop where
  conn : ConnOk (tr ++ r.2.map (.connection i)) m i r.1
  endpointId : r.1.endpointId = client
  sent : r.1.sent = count
  runs : ∀ token next reply, r.1.phase ≠ .awaiting token next reply
  checks : ∀ token id wall info decision, .checked token id wall info decision ∈ r.2 →
    decision = engine.checkAccess wall client info ∧ info.id = id ∧ m.InfoOk info

namespace HandlerOk
variable {engine : PolicyEngine}

/-- A step that only changes the phase, and checks nothing. -/
theorem idle (books : BooksOk tr m i c) (phase : PhaseOk tr m i c c.phase)
    (runs : ∀ token next reply, c.phase ≠ .awaiting token next reply) :
    HandlerOk engine tr m i c.endpointId c.sent (c, []) where
  conn := ConnOk.mono ⟨books, phase⟩ [] .refl
  endpointId := rfl
  sent := rfl
  runs := runs
  checks _ _ _ _ _ wrong := absurd wrong List.not_mem_nil

theorem respond (books : BooksOk tr m i c) (payload : MessagePayload) :
    HandlerOk engine tr m i c.endpointId c.sent (c.respond payload) where
  conn := ⟨books.moved _ rfl rfl, trivial⟩
  endpointId := rfl
  sent := rfl
  runs _ _ _ := Phase.noConfusion
  checks _ _ _ _ _ wrong := ConnectionEffect.noConfusion (List.mem_singleton.mp wrong)

theorem send (books : BooksOk tr m i c) {cmd : UsbCommand} {next : Continuation}
    (ok : CommandOk tr i c.endpointId c.sent cmd) (sent : next.Sent cmd) :
    HandlerOk engine tr m i c.endpointId c.sent (c.sendCommand cmd next) :=
  idle (c := { c with phase := .sending cmd next }) ⟨books.attached, books.cache⟩ ⟨ok, sent⟩
    fun _ _ _ => Phase.noConfusion

theorem attach (books : BooksOk tr m i c) {id : DeviceId} {info : DeviceInfo}
    (same : info.id = id) (ok : m.InfoOk info) (wall : Nat) :
    HandlerOk engine tr m i c.endpointId c.sent (c.attachWithInfo engine wall id info) := by
  have checks : ∀ {effects : List ConnectionEffect}
      (_ : ∀ token id wall info decision, .checked token id wall info decision ∉ effects)
      (token : Nat) (id' : DeviceId) (wall' : Nat) (info' : DeviceInfo) (decision : PolicyDecision),
      .checked token id' wall' info' decision ∈
        .checked c.sent id wall info (engine.checkAccess wall c.endpointId info) :: effects →
      decision = engine.checkAccess wall' c.endpointId info' ∧ info'.id = id' ∧ m.InfoOk info' := by
    intro effects none token id' wall' info' decision mem
    rcases List.mem_cons.mp mem with here | there
    · obtain ⟨rfl, rfl, rfl, rfl, rfl⟩ := ConnectionEffect.checked.inj here
      exact ⟨rfl, same, ok⟩
    · exact absurd there (none _ _ _ _ _)
  unfold ClientConnection.attachWithInfo
  cases decided : engine.checkAccess wall c.endpointId info with
  | allow =>
      rw [decided] at checks
      refine ⟨⟨books.moved _ rfl rfl, ⟨rfl, wall, info, ?_⟩, .attach ..⟩,
        rfl, rfl, fun _ _ _ => Phase.noConfusion, checks fun _ _ _ _ _ => List.not_mem_nil⟩
      exact List.mem_append_right tr List.mem_cons_self
  | deny reason =>
      rw [decided] at checks
      refine ⟨⟨books.moved _ rfl rfl, trivial⟩, rfl, rfl,
        fun _ _ _ => Phase.noConfusion, checks fun _ _ _ _ _ wrong => ?_⟩
      exact ConnectionEffect.noConfusion (List.mem_singleton.mp wrong)

theorem expired (books : BooksOk tr m i c) (events : List SessionExpiredEvent) :
    HandlerOk engine tr m i c.endpointId c.sent (c.handleExpiredSessions events, []) := by
  induction events with
  | nil =>
      exact idle (c := { c with phase := .selecting }) ⟨books.attached, books.cache⟩ trivial
        fun _ _ _ => Phase.noConfusion
  | cons event rest ih =>
      unfold ClientConnection.handleExpiredSessions
      split
      · refine idle (c := { c with
            attachedDevices := c.attachedDevices.erase event.handle
            phase := .sending (.detachDevice event.handle) (.expire event rest) })
          ⟨fun h id there => ?_, books.cache⟩ ⟨trivial, .expire event rest⟩
          fun _ _ _ => Phase.noConfusion
        exact books.attached h id (AList.lookup_erase_eq_some.mp there).2
      · exact ih

theorem cleanup (books : BooksOk tr m i c) (order : List DeviceHandle) :
    HandlerOk engine tr m i c.endpointId c.sent (c.cleanup order, []) := by
  cases order with
  | nil =>
      exact idle (c := { c with attachedDevices := ∅, phase := .stopped })
        ⟨fun h id wrong => (nomatch wrong), books.cache⟩ trivial fun _ _ _ => Phase.noConfusion
  | cons h rest =>
      exact idle (c := { c with phase := .sending (.detachDevice h) (.cleanup rest) })
        ⟨books.attached, books.cache⟩ ⟨trivial, .cleanup h rest⟩ fun _ _ _ => Phase.noConfusion

theorem granted_handle (books : BooksOk tr m i c) {h : DeviceHandle}
    (mine : ¬ h ∉ c.attachedDevices) :
    ∃ id, Granted tr i h id := by
  obtain ⟨id, there⟩ := AList.mem_iff.mp (not_not.mp mine)
  exact ⟨id, books.attached h id there⟩

theorem message (books : BooksOk tr m i c) (now : ClockReading) (payload : MessagePayload) :
    HandlerOk engine tr m i c.endpointId c.sent (c.handleMessage engine now payload) := by
  unfold ClientConnection.handleMessage
  split
  case h_1 => exact send books trivial .listDevices
  case h_2 id =>
    unfold ClientConnection.handleAttachDevice
    split
    case h_1 info cached =>
      obtain ⟨same, ok⟩ := books.cache id info cached
      exact attach books same ok _
    case h_2 => exact send books trivial (.attachInfo id)
  case h_3 h => exact send books trivial (.detach h)
  case h_4 request =>
    unfold ClientConnection.handleSubmitTransfer
    split
    · exact respond books _
    case isFalse mine =>
      exact idle (c := { c with phase := .throttled request }) ⟨books.attached, books.cache⟩
        (granted_handle books mine) fun _ _ _ => Phase.noConfusion
  case h_6 =>
    exact respond (c := { c with lastActivity := now.instant }) ⟨books.attached, books.cache⟩ _
  case h_7 id => exact send books trivial (.sharingStatus ..)
  case h_8 h w timeout =>
    unfold ClientConnection.handleLockDevice
    split
    · exact respond books _
    case isFalse mine => exact send books (granted_handle books mine) (.lock h w)
  case h_9 h =>
    unfold ClientConnection.handleUnlockDevice
    split
    · exact respond books _
    case isFalse mine => exact send books (granted_handle books mine) (.unlock h)
  all_goals exact respond books _

theorem cached (books : BooksOk tr m i c) {devices : List DeviceInfo}
    (ok : ∀ info ∈ devices, m.InfoOk info) : BooksOk tr m i (c.cacheDevices devices) := by
  refine ⟨books.attached, ?_⟩
  have cache := books.cache
  show ∀ id info, (devices.foldl (fun cache info => cache.insert info.id info)
    c.deviceInfoCache).lookup id = some info → info.id = id ∧ m.InfoOk info
  generalize c.deviceInfoCache = known at cache
  induction devices generalizing known with
  | nil => exact cache
  | cons device rest ih =>
      refine ih (fun info listed => ok info (List.mem_cons_of_mem device listed)) _ ?_
      intro id info there
      rw [AList.lookup_insert_eq] at there
      split at there
      case isTrue same =>
        obtain rfl := Option.some.inj there
        exact ⟨same.symm, ok device List.mem_cons_self⟩
      case isFalse => exact cache id info there

theorem resume (books : BooksOk tr m i c) (now : ClockReading) (sessions : ActiveSessions)
    {next : Continuation} {reply : UsbReply} (ok : ReplyOk tr m i next reply) :
    HandlerOk engine tr m i c.endpointId c.sent (c.resume engine now sessions next reply).1 := by
  unfold ClientConnection.resume
  split
  case h_1 => exact respond books _
  case h_2 id devices =>
    have books' := cached books ok
    dsimp only
    split
    case h_1 info found =>
      have same := List.find?_some found
      exact attach books' (beq_iff_eq.mp same) (ok info (List.mem_of_find?_eq_some found)) _
    case h_2 => exact respond books' _
  case h_3 id info h =>
    refine respond (c := { c with attachedDevices := c.attachedDevices.insert h id })
      ⟨fun j id' there => ?_, books.cache⟩ _
    simp only [AList.lookup_insert_eq] at there
    split at there
    case isTrue same =>
      obtain rfl := Option.some.inj there
      exact same ▸ ok h rfl
    case isFalse => exact books.attached j id' there
  case h_5 h =>
    refine respond (c := { c with attachedDevices := c.attachedDevices.erase h })
      ⟨fun j id there => ?_, books.cache⟩ _
    exact books.attached j id (AList.lookup_erase_eq_some.mp there).2
  case h_11 event rest => exact expired books rest
  case h_12 rest => exact cleanup books rest
  case h_13 =>
    exact idle (c := { c with phase := .selecting }) ⟨books.attached, books.cache⟩ trivial
      fun _ _ _ => Phase.noConfusion
  all_goals exact respond books _

theorem step {s : Server} {r : ClientConnection × List ConnectionEffect}
    (ok : ConnOk tr s.manager i c) (step : HandlerStep engine s c r) :
    HandlerOk engine tr s.manager i c.endpointId c.sent r := by
  have books := ok.books
  have phase := ok.phase
  cases step with
  | accept =>
      exact idle (c := { c with phase := .reading, lastActivity := s.clock.instant })
        ⟨books.attached, books.cache⟩ trivial fun _ _ _ => Phase.noConfusion
  | event event at' =>
      cases event with
      | deviceArrived => exact idle books phase fun _ _ _ => by rw [at']; exact Phase.noConfusion
      | deviceLeft id handles clients =>
          refine idle (c := c.handleUsbEvent (.deviceLeft id handles clients))
            ⟨fun h id' there => ?_, books.cache⟩ ?_ fun _ _ _ => ?_
          · simp only [ClientConnection.handleUsbEvent, AList.lookup_retain,
              Option.filter_eq_some_iff] at there
            exact books.attached h id' there.1
          · rw [at'] at phase
            show PhaseOk tr s.manager i _ c.phase
            rw [at']
            trivial
          · show c.phase ≠ _
            rw [at']
            exact Phase.noConfusion
  | expiry events => exact expired books events
  | leave order => exact cleanup books order
  | readError =>
      exact idle (c := { c with phase := .selecting }) ⟨books.attached, books.cache⟩ trivial
        fun _ _ _ => Phase.noConfusion
  | message payload => exact message books s.clock payload
  | release request at' =>
      rw [at'] at phase
      exact idle (c := { c with
          phase := .sending (.submitTransfer request.handle request) .submit })
        ⟨books.attached, books.cache⟩ ⟨phase, .submit ..⟩ fun _ _ _ => Phase.noConfusion
  | resume token next reply at' =>
      rw [at'] at phase
      exact resume books s.clock s.sessions (phase.2 reply rfl)
  | giveUp token event rest => exact expired books rest

end HandlerOk
end

/-- A command in the channel: its sender waits for it, or has given it up. -/
structure QueuedOk (tr : List Effect) (q : QueuedCommand) (c : ClientConnection) : Prop where
  old : q.token < c.sent
  ok : CommandOk tr q.conn c.endpointId q.token q.cmd
  waits : (∃ next, c.phase = .awaiting q.token next none ∧ next.Sent q.cmd) ∨
    (∃ h, q.cmd = .detachDevice h) ∧ ∀ next reply, c.phase ≠ .awaiting q.token next reply

/-- The policy allowed the request that led to the grant, and allowed it before. -/
def Justified (tr : List Effect) (h : DeviceHandle) (g : Grant) : Prop :=
  ∃ before after wall info,
    tr = before ++
      .answered g.conn g.token (.attachDevice g.deviceId g.client) (.attached (.ok h)) :: after ∧
    Effect.connection g.conn (.checked g.token g.deviceId wall info .allow) ∈ before

theorem Justified.mono {tr : List Effect} {h : DeviceHandle} {g : Grant} (ok : Justified tr h g)
    (out : List Effect) : Justified (tr ++ out) h g := by
  obtain ⟨before, after, wall, info, rfl, checked⟩ := ok
  refine ⟨before, after ++ out, wall, info, ?_, checked⟩
  rw [List.append_assoc, List.cons_append]

structure Authority (engine : PolicyEngine) (tr : List Effect) (s : Server) : Prop where
  ledgered : Ledgered tr s
  conns : ∀ i c, s.conns.lookup i = some c → ConnOk tr s.manager i c
  queue : ∀ q ∈ s.commands, ∃ c, s.conns.lookup q.conn = some c ∧ QueuedOk tr q c
  order : s.commands.Pairwise fun p q => p.conn = q.conn → p.token ≠ q.token
  checks : ∀ i token id wall info decision,
    Effect.connection i (.checked token id wall info decision) ∈ tr →
    ∃ c, s.conns.lookup i = some c ∧ decision = engine.checkAccess wall c.endpointId info ∧
      info.id = id ∧ s.manager.InfoOk info
  justified : ∀ h g, (h, g) ∈ grants tr → Justified tr h g ∧
    ∃ c, s.conns.lookup g.conn = some c ∧ g.client = c.endpointId.text

theorem ClientConnection.receive_cases (c : ClientConnection) (token : Nat) (reply : UsbReply) :
    (c.receive token reply = c ∧ ∀ next, c.phase ≠ .awaiting token next none) ∨
      ∃ next, c.phase = .awaiting token next none ∧
        c.receive token reply = { c with phase := .awaiting token next (some reply) } := by
  unfold ClientConnection.receive
  split
  case h_1 waiting next at' =>
    split
    case isTrue same =>
      subst same
      exact .inr ⟨next, at', rfl⟩
    case isFalse other =>
      refine .inl ⟨rfl, fun next' wrong => ?_⟩
      rw [at'] at wrong
      exact other (Phase.awaiting.inj wrong).1
  case h_2 others => exact .inl ⟨rfl, fun next wrong => others token next wrong⟩

theorem ClientConnection.receive_frame (c : ClientConnection) (token : Nat) (reply : UsbReply) :
    (c.receive token reply).endpointId = c.endpointId ∧ (c.receive token reply).sent = c.sent := by
  rcases c.receive_cases token reply with ⟨same, -⟩ | ⟨next, -, here⟩
  · rw [same]
    exact ⟨rfl, rfl⟩
  · rw [here]
    exact ⟨rfl, rfl⟩

theorem Server.lookup_deliver (s : Server) (q : QueuedCommand) (reply : UsbReply) (j : ConnId) :
    (s.deliver q reply).lookup j = (s.conns.lookup j).map fun d =>
      if j = q.conn then d.receive q.token reply else d := by
  rw [deliver, AList.lookup_modify_eq]
  split
  case isTrue same => rw [same]
  case isFalse => exact Option.map_id'.symm

/-- What one step can do to the handler of one connection. -/
inductive ConnChange (engine : PolicyEngine) (s : Server) (j : ConnId) (t : Server) :
    ClientConnection → Prop
  | kept (d : ClientConnection) (found : s.conns.lookup j = some d) : ConnChange engine s j t d
  | connected (endpointId : EndpointId) :
      ConnChange engine s j t (.new endpointId s.clock.instant)
  | handled (c d : ClientConnection) (effects : List ConnectionEffect)
      (found : s.conns.lookup j = some c) (step : HandlerStep engine s c (d, effects)) :
      ConnChange engine s j t d
  | enqueued (c : ClientConnection) (cmd : UsbCommand) (next : Continuation)
      (found : s.conns.lookup j = some c) (at' : c.phase = .sending cmd next) :
      ConnChange engine s j t { c with phase := .awaiting c.sent next none, sent := c.sent + 1 }
  | received (env : UsbEnv) (q : QueuedCommand) (c : ClientConnection) (queued : q ∈ s.commands)
      (conn : q.conn = j) (found : s.conns.lookup j = some c)
      (manager : t.manager = (s.manager.handleCommandInner env q.cmd).2) :
      ConnChange engine s j t (c.receive q.token (s.manager.handleCommandInner env q.cmd).1)

theorem Transition.conn_change {engine : PolicyEngine} {s t : Server} {a : Action}
    {out : List Effect} (step : Transition engine s a t out) {j : ConnId} {d : ClientConnection}
    (there : t.conns.lookup j = some d) : ConnChange engine s j t d := by
  cases step with
  | monitor | worker | fire | emit => exact .kept d there
  | connect i endpointId =>
      simp only [Server.setConn, AList.lookup_insert_eq] at there
      split at there
      · obtain rfl := Option.some.inj there
        exact .connected endpointId
      · exact .kept d there
  | handler i action c c' effects events sessions found step =>
      simp only [Server.setConn, AList.lookup_insert_eq] at there
      split at there
      case isTrue same =>
        obtain rfl := Option.some.inj there
        exact .handled c c' effects (same ▸ found) step
      case isFalse => exact .kept d there
  | enqueue i action c cmd next found at' =>
      simp only [Server.setConn, AList.lookup_insert_eq] at there
      split at there
      case isTrue same =>
        obtain rfl := Option.some.inj there
        exact .enqueued c cmd next (same ▸ found) at'
      case isFalse => exact .kept d there
  | command env q rest head =>
      rw [s.lookup_deliver] at there
      obtain ⟨c, found, rfl⟩ := Option.map_eq_some_iff.mp there
      split
      case isTrue same =>
        exact .received _ q c (head ▸ List.mem_cons_self) same.symm found rfl
      case isFalse => exact .kept c found

theorem ConnOk.receive {tr : List Effect} {m : DeviceManager} {i : ConnId} {c : ClientConnection}
    {token : Nat} {reply : UsbReply} (ok : ConnOk tr m i c)
    (answers : ∀ next, c.phase = .awaiting token next none → ReplyOk tr m i next reply) :
    ConnOk tr m i (c.receive token reply) := by
  rcases c.receive_cases token reply with ⟨idle, -⟩ | ⟨next, at', here⟩
  · rwa [idle]
  · have phase := ok.phase
    rw [at'] at phase
    rw [here]
    refine ⟨⟨ok.books.attached, ok.books.cache⟩, phase.1, fun r delivered => ?_⟩
    obtain rfl := Option.some.inj delivered
    exact answers next at'

/-- The reply to one command leaves the later ones waiting. -/
theorem QueuedOk.receive {tr : List Effect} {q : QueuedCommand} {c : ClientConnection}
    (ok : QueuedOk tr q c) {token : Nat} (differ : token ≠ q.token) (reply : UsbReply) :
    QueuedOk tr q (c.receive token reply) := by
  rcases c.receive_cases token reply with ⟨idle, -⟩ | ⟨next, at', here⟩
  · rwa [idle]
  · rw [here]
    refine ⟨ok.old, ok.ok, ?_⟩
    rcases ok.waits with ⟨next', waits, -⟩ | ⟨detach, -⟩
    · rw [at'] at waits
      exact absurd (Phase.awaiting.inj waits).1 differ
    · refine .inr ⟨detach, fun next' reply' wrong => ?_⟩
      exact differ (Phase.awaiting.inj wrong).1

/-- Only the wait for a forced detach can be left without a reply. -/
theorem HandlerStep.from_waiting {engine : PolicyEngine} {s : Server} {c : ClientConnection}
    {r : ClientConnection × List ConnectionEffect} (step : HandlerStep engine s c r) {token : Nat}
    {next : Continuation} (at' : c.phase = .awaiting token next none) :
    ∃ event rest, next = .expire event rest := by
  cases step with
  | giveUp token' event rest here =>
      rw [at'] at here
      exact ⟨event, rest, (Phase.awaiting.inj here).2.1⟩
  | resume token' next' reply here =>
      rw [at'] at here
      cases (Phase.awaiting.inj here).2.2
  | accept here | event _ here | expiry _ here | leave _ here | readError here | message _ here
  | release _ here =>
      rw [at'] at here
      cases here

theorem reply_ok {m : DeviceManager} (hm : m.RegistryInv) (env : UsbEnv) {i : ConnId} {token : Nat}
    {next : Continuation} {cmd : UsbCommand} (sent : next.Sent cmd) (tr rest : List Effect) :
    ReplyOk (tr ++ .answered i token cmd (m.handleCommandInner env cmd).1 :: rest)
      (m.handleCommandInner env cmd).2 i next (m.handleCommandInner env cmd).1 := by
  cases sent with
  | attachInfo id => exact hm.list_devices_ok env
  | attach id info client =>
      intro h granted
      have granted : (m.attachDevice env id client).1 = .ok h := granted
      refine ⟨⟨i, token, id, client⟩, mem_grants.mpr ?_, rfl, rfl⟩
      refine List.mem_append_right tr (List.mem_cons.mpr (.inl ?_))
      show Effect.answered i token (.attachDevice id client) (.attached (.ok h)) =
        .answered i token (.attachDevice id client) (.attached (m.attachDevice env id client).1)
      rw [granted]
  | detach h =>
      intro done
      have done : (m.detachDevice h).1 = .ok () := done
      rcases m.detach_device_cases h with ⟨-, refused⟩ | ⟨id, client, held, -⟩
      · rw [refused] at done
        cases done
      · obtain ⟨key, registered⟩ := AList.mem_iff.mp (hm.attached_registered held)
        have erased := DeviceManager.detach_device_eq held registered
        show (m.detachDevice h).2.Dead h
        rw [erased]
        refine ⟨fun present => (AList.mem_erase.mp present).1 rfl, ?_⟩
        exact hm.handles_below h (AList.mem_of_lookup held)
  | listDevices | submit | sharingStatus | lock | unlock | expire | cleanup => trivial

namespace Authority
variable {engine : PolicyEngine} {tr out : List Effect} {s t : Server} {a : Action}

theorem new (filters : List String) (config : SharingConfig) (devices : List RusbDevice)
    (clock : ClockReading) : Authority engine [] (Server.new filters config devices clock) where
  ledgered := .new filters config devices clock
  conns _ _ wrong := nomatch wrong
  queue _ wrong := absurd wrong List.not_mem_nil
  order := .nil
  checks _ _ _ _ _ _ wrong := absurd wrong List.not_mem_nil
  justified _ _ wrong := absurd wrong List.not_mem_nil

/-- A step that sends and answers no command and runs no handler. -/
theorem quiet (hs : Authority engine tr s) (ledgered : Ledgered tr t)
    (update : s.manager.Update t.manager) (conns : t.conns = s.conns)
    (commands : t.commands = s.commands) : Authority engine tr t where
  ledgered := ledgered
  conns := by
    intro i c found
    rw [conns] at found
    simpa only [List.append_nil] using (hs.conns i c found).mono [] update
  queue := by
    rw [conns, commands]
    exact hs.queue
  order := by
    rw [commands]
    exact hs.order
  checks := by
    intro i token id wall info decision mem
    obtain ⟨c, found, decided, same, ok⟩ := hs.checks i token id wall info decision mem
    exact ⟨c, by rw [conns, found], decided, same, ok.update update⟩
  justified := by
    rw [conns]
    exact hs.justified

/-- A step of one connection that leaves its name and its tokens alone. -/
theorem conn_kept {i : ConnId} {c c' : ClientConnection} (found : s.conns.lookup i = some c)
    (endpointId : c'.endpointId = c.endpointId) {j : ConnId} {d : ClientConnection}
    (there : s.conns.lookup j = some d) :
    ∃ d', (s.conns.insert i c').lookup j = some d' ∧ d'.endpointId = d.endpointId := by
  rw [AList.lookup_insert_eq]
  split
  case isTrue same =>
    rw [same, found] at there
    obtain rfl := Option.some.inj there
    exact ⟨c', rfl, endpointId⟩
  case isFalse => exact ⟨d, there, rfl⟩

theorem checks_kept {conns : AList fun _ : ConnId => ClientConnection}
    (hs : Authority engine tr s) {m : DeviceManager} (update : s.manager.Update m)
    (kept : ∀ j d, s.conns.lookup j = some d →
      ∃ d', conns.lookup j = some d' ∧ d'.endpointId = d.endpointId)
    {i : ConnId} {token wall : Nat} {id : DeviceId} {info : DeviceInfo} {decision : PolicyDecision}
    (mem : Effect.connection i (.checked token id wall info decision) ∈ tr) :
    ∃ c, conns.lookup i = some c ∧ decision = engine.checkAccess wall c.endpointId info ∧
      info.id = id ∧ m.InfoOk info := by
  obtain ⟨d, there, decided, same, ok⟩ := hs.checks i token id wall info decision mem
  obtain ⟨d', found, endpointId⟩ := kept i d there
  exact ⟨d', found, endpointId ▸ decided, same, ok.update update⟩

theorem justified_kept {conns : AList fun _ : ConnId => ClientConnection}
    (hs : Authority engine tr s)
    (kept : ∀ j d, s.conns.lookup j = some d →
      ∃ d', conns.lookup j = some d' ∧ d'.endpointId = d.endpointId)
    {h : DeviceHandle} {g : Grant} (mem : (h, g) ∈ grants tr) (out : List Effect) :
    Justified (tr ++ out) h g ∧
      ∃ c, conns.lookup g.conn = some c ∧ g.client = c.endpointId.text := by
  obtain ⟨ok, d, there, client⟩ := hs.justified h g mem
  obtain ⟨d', found, endpointId⟩ := kept g.conn d there
  exact ⟨ok.mono out, d', found, endpointId ▸ client⟩

theorem connect (hs : Authority engine tr s) {i : ConnId} (endpointId : EndpointId)
    (free : i ∉ s.conns) :
    Authority engine tr (s.setConn i (.new endpointId s.clock.instant)) := by
  have kept : ∀ j d, s.conns.lookup j = some d →
      (s.conns.insert i (.new endpointId s.clock.instant)).lookup j = some d := by
    intro j d there
    rw [AList.lookup_insert_ne, there]
    rintro rfl
    exact free (AList.mem_of_lookup there)
  have names : ∀ j d, s.conns.lookup j = some d → ∃ d',
      (s.conns.insert i (.new endpointId s.clock.instant)).lookup j = some d' ∧
        d'.endpointId = d.endpointId := fun j d there => ⟨d, kept j d there, rfl⟩
  constructor
  · exact ⟨hs.ledgered.registry, hs.ledgered.valid, hs.ledgered.below⟩
  · intro j d there
    simp only [Server.setConn, AList.lookup_insert_eq] at there
    split at there
    · obtain rfl := Option.some.inj there
      refine ⟨⟨fun h id wrong => ?_, fun id info wrong => ?_⟩, trivial⟩
      · cases wrong
      · cases wrong
    · exact hs.conns j d there
  · intro q queued
    obtain ⟨c, there, ok⟩ := hs.queue q queued
    exact ⟨c, kept q.conn c there, ok⟩
  · exact hs.order
  · exact fun j token id wall info decision mem => hs.checks_kept .refl names mem
  · intro h g mem
    have both := hs.justified_kept names mem []
    rwa [List.append_nil] at both

theorem handler (hs : Authority engine tr s) {i : ConnId} {c c' : ClientConnection}
    {effects : List ConnectionEffect} (events : List UsbEvent) (sessions : ActiveSessions)
    (found : s.conns.lookup i = some c) (step : HandlerStep engine s c (c', effects)) :
    Authority engine (tr ++ effects.map (.connection i))
      (Server.setConn { s with events := events, sessions := sessions } i c') := by
  have ok := HandlerOk.step (hs.conns i c found) step
  have names : ∀ j d, s.conns.lookup j = some d → ∃ d', (s.conns.insert i c').lookup j = some d' ∧
      d'.endpointId = d.endpointId := fun j d there => conn_kept found ok.endpointId there
  constructor
  · exact hs.ledgered.quiet (grants_connection i effects) .refl (.refl _)
  · intro j d there
    simp only [Server.setConn, AList.lookup_insert_eq] at there
    split at there
    case isTrue same =>
      obtain rfl := Option.some.inj there
      exact same ▸ ok.conn
    case isFalse => exact (hs.conns j d there).mono _ .refl
  · intro q queued
    obtain ⟨d, there, queuedOk⟩ := hs.queue q queued
    simp only [Server.setConn, AList.lookup_insert_eq]
    split
    case isTrue same =>
      rw [same, found] at there
      obtain rfl := Option.some.inj there
      refine ⟨c', rfl, ok.sent ▸ queuedOk.old, ?_, .inr ⟨?_, fun _ _ => ok.runs _ _ _⟩⟩
      · have cmd := queuedOk.ok.mono (effects.map (.connection i))
        rwa [← ok.endpointId] at cmd
      · rcases queuedOk.waits with ⟨next, at', sent⟩ | ⟨detach, -⟩
        · obtain ⟨event, rest, rfl⟩ := step.from_waiting at'
          exact ⟨event.handle, sent.of_expire⟩
        · exact detach
    case isFalse => exact ⟨d, there, queuedOk.old, queuedOk.ok.mono _, queuedOk.waits⟩
  · exact hs.order
  · intro j token id wall info decision mem
    rcases List.mem_append.mp mem with old | new
    · exact hs.checks_kept .refl names old
    · obtain ⟨effect, there, same⟩ := List.mem_map.mp new
      obtain ⟨rfl, rfl⟩ := Effect.connection.inj same
      refine ⟨c', AList.lookup_insert _, ?_⟩
      rw [ok.endpointId]
      exact ok.checks token id wall info decision there
  · intro h g mem
    rw [grants_append, grants_connection, List.append_nil] at mem
    exact hs.justified_kept names mem _

theorem enqueue (hs : Authority engine tr s) {i : ConnId} {c : ClientConnection} {cmd : UsbCommand}
    {next : Continuation} (found : s.conns.lookup i = some c) (at' : c.phase = .sending cmd next) :
    Authority engine tr (Server.setConn { s with commands := s.commands ++ [⟨i, c.sent, cmd⟩] } i
      { c with phase := .awaiting c.sent next none, sent := c.sent + 1 }) := by
  have ok := hs.conns i c found
  have phase := ok.phase
  rw [at'] at phase
  have names : ∀ j d, s.conns.lookup j = some d → ∃ d', (s.conns.insert i
        { c with phase := .awaiting c.sent next none, sent := c.sent + 1 }).lookup j = some d' ∧
      d'.endpointId = d.endpointId := fun j d there => conn_kept found (by rfl) there
  have older : ∀ q ∈ s.commands, q.conn = i → q.token < c.sent := by
    intro q queued same
    obtain ⟨d, there, queuedOk⟩ := hs.queue q queued
    rw [same, found] at there
    obtain rfl := Option.some.inj there
    exact queuedOk.old
  constructor
  · exact ⟨hs.ledgered.registry, hs.ledgered.valid, hs.ledgered.below⟩
  · intro j d there
    simp only [Server.setConn, AList.lookup_insert_eq] at there
    split at there
    case isTrue same =>
      obtain rfl := Option.some.inj there
      subst same
      refine ⟨⟨ok.books.attached, ok.books.cache⟩, Nat.lt_succ_self _, fun r wrong => ?_⟩
      cases wrong
    case isFalse => exact hs.conns j d there
  · intro q queued
    simp only [Server.setConn, AList.lookup_insert_eq]
    rcases List.mem_append.mp queued with old | new
    · obtain ⟨d, there, queuedOk⟩ := hs.queue q old
      split
      case isTrue same =>
        rw [same, found] at there
        obtain rfl := Option.some.inj there
        refine ⟨_, rfl, Nat.lt_succ_of_lt queuedOk.old, queuedOk.ok, .inr ⟨?_, ?_⟩⟩
        · rcases queuedOk.waits with ⟨next', wrong, -⟩ | ⟨detach, -⟩
          · rw [at'] at wrong
            cases wrong
          · exact detach
        · intro next' reply wrong
          obtain ⟨tokens, -⟩ := Phase.awaiting.inj wrong
          exact absurd queuedOk.old (tokens ▸ lt_irrefl _)
      case isFalse => exact ⟨d, there, queuedOk⟩
    · obtain rfl := List.mem_singleton.mp new
      refine ⟨_, if_pos rfl, Nat.lt_succ_self _, phase.1, .inl ⟨next, rfl, phase.2⟩⟩
  · refine List.pairwise_append.mpr ⟨hs.order, List.pairwise_singleton _ _, ?_⟩
    intro p old q new same
    obtain rfl := List.mem_singleton.mp new
    exact Nat.ne_of_lt (older p old same)
  · exact fun j token id wall info decision mem => hs.checks_kept .refl names mem
  · intro h g mem
    have both := hs.justified_kept names mem []
    rwa [List.append_nil] at both

theorem command (hs : Authority engine tr s) {env : UsbEnv} {q : QueuedCommand}
    {rest : List QueuedCommand} (head : s.commands = q :: rest) {t : Server}
    (manager : t.manager = (s.manager.handleCommandInner env q.cmd).2)
    (conns : t.conns = s.deliver q (s.manager.handleCommandInner env q.cmd).1)
    (commands : t.commands = rest)
    (ledgered : Ledgered (tr ++ .answered q.conn q.token q.cmd
      (s.manager.handleCommandInner env q.cmd).1 :: Server.executions s.manager q) t) :
    Authority engine (tr ++ .answered q.conn q.token q.cmd
      (s.manager.handleCommandInner env q.cmd).1 :: Server.executions s.manager q) t := by
  have update := s.manager.handle_command_update env q.cmd
  rw [← manager] at update
  have queued : q ∈ s.commands := head ▸ List.mem_cons_self
  obtain ⟨c, found, queuedOk⟩ := hs.queue q queued
  have order := hs.order
  rw [head, List.pairwise_cons] at order
  -- every connection is as before, but for the reply
  have read : ∀ j, t.conns.lookup j = (s.conns.lookup j).map fun d =>
      if j = q.conn then d.receive q.token (s.manager.handleCommandInner env q.cmd).1 else d := by
    intro j
    rw [conns, s.lookup_deliver]
  have names : ∀ j d, s.conns.lookup j = some d → ∃ d', t.conns.lookup j = some d' ∧
      d'.endpointId = d.endpointId := by
    intro j d there
    rw [read, there]
    refine ⟨_, rfl, ?_⟩
    split
    · exact (d.receive_frame q.token _).1
    · rfl
  refine ⟨ledgered, ?_, ?_, commands ▸ order.2, ?_, ?_⟩
  · intro j d' there'
    rw [read] at there'
    obtain ⟨d, there, rfl⟩ := Option.map_eq_some_iff.mp there'
    have kept := (hs.conns j d there).mono (.answered q.conn q.token q.cmd
      (s.manager.handleCommandInner env q.cmd).1 :: Server.executions s.manager q) update
    split
    case isFalse => exact kept
    case isTrue same =>
      subst same
      rw [found] at there
      obtain rfl := Option.some.inj there
      apply kept.receive
      intro next at'
      rcases queuedOk.waits with ⟨next', waits, sent⟩ | ⟨-, gone⟩
      · rw [at'] at waits
        obtain ⟨-, rfl, -⟩ := Phase.awaiting.inj waits
        rw [manager]
        exact reply_ok hs.ledgered.registry env sent tr _
      · exact absurd at' (gone next none)
  · intro p mem
    rw [commands] at mem
    obtain ⟨d, there, ok⟩ := hs.queue p (head ▸ List.mem_cons_of_mem q mem)
    rw [read, there]
    refine ⟨_, rfl, ?_⟩
    have ok' : QueuedOk (tr ++ .answered q.conn q.token q.cmd
        (s.manager.handleCommandInner env q.cmd).1 :: Server.executions s.manager q) p d :=
      ⟨ok.old, ok.ok.mono _, ok.waits⟩
    split
    case isFalse => exact ok'
    case isTrue same => exact ok'.receive (order.1 p mem same.symm) _
  · intro i token id wall info decision mem
    rcases List.mem_append.mp mem with old | new
    · exact hs.checks_kept update names old
    · rcases List.mem_cons.mp new with wrong | wrong
      · cases wrong
      · obtain ⟨_, _, _, wrong⟩ := executed_of_mem wrong
        cases wrong
  · intro h g mem
    rw [grants_append] at mem
    rcases List.mem_append.mp mem with old | new
    · exact hs.justified_kept names old _
    · have shown := mem_grants.mp new
      rcases List.mem_cons.mp shown with here | wrong
      · obtain ⟨conn, token, attach, granted⟩ := Effect.answered.inj here
        have ok := queuedOk.ok
        rw [← attach] at ok
        obtain ⟨client, wall, info, checked⟩ := ok
        refine ⟨⟨tr, Server.executions s.manager q, wall, info, ?_, ?_⟩, ?_⟩
        · rw [here]
        · rw [conn, token]
          exact checked
        · obtain ⟨c', there, endpointId⟩ := names q.conn c found
          refine ⟨c', conn ▸ there, ?_⟩
          rw [endpointId, client]
      · obtain ⟨_, _, _, wrong⟩ := executed_of_mem wrong
        cases wrong

theorem next (hs : Authority engine tr s) (step : Transition engine s a t out) :
    Authority engine (tr ++ out) t := by
  have ledgered := hs.ledgered.next step
  cases step with
  | monitor | emit =>
      rw [List.append_nil] at ledgered ⊢
      exact hs.quiet ledgered .refl rfl rfl
  | worker a manager worker update =>
      rw [List.append_nil] at ledgered ⊢
      exact hs.quiet ledgered update rfl rfl
  | fire env ready event manager todo at' fired =>
      have update := s.manager.process_ready_event_update { env with now := s.clock.instant } ready
      rw [fired] at update
      rw [List.append_nil] at ledgered ⊢
      exact hs.quiet ledgered update rfl rfl
  | connect i endpointId free =>
      rw [List.append_nil]
      exact hs.connect endpointId free
  | handler i action c c' effects events sessions found step =>
        exact hs.handler events sessions found step
  | enqueue i action c cmd next found at' =>
      rw [List.append_nil]
      exact hs.enqueue found at'
  | command env q rest head => exact hs.command head rfl rfl rfl ledgered

theorem reach {filters : List String} {config : SharingConfig} {devices : List RusbDevice}
    {clock : ClockReading}
    (run : (server engine).Reach (Server.new filters config devices clock) tr s) :
    Authority engine tr s :=
  run.invariant (I := fun tr s => Authority engine tr s) (.new filters config devices clock)
    fun _ _ _ _ _ hs _ step => hs.next (Server.step_cases step)

end Authority
end P2pUsb
