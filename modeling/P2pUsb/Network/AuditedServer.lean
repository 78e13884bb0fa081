import P2pUsb.Audit.Trail
import P2pUsb.Network.Authority

/-! What the handlers write to the audit log, and how it accounts for the attachments. -/
namespace P2pUsb

/-- The texts in an entry: `time_to_iso8601` of the clock, and the `Debug` of the errors. -/
structure AuditTexts where
  time : Nat → String
  attachError : AttachError → String
  detachError : DetachError → String

def PolicyDenialReason.text : PolicyDenialReason → String
  | .clientNotAllowed => "Client not in allowed list"
  | .outsideTimeWindow currentTime allowedWindows => "Current time " ++ currentTime ++
      " outside allowed windows: " ++ ", ".intercalate allowedWindows
  | .deviceClassRestricted deviceClass =>
      "Device class " ++ toString deviceClass ++ " restricted for this client"
  | .noMatchingPolicy => "No matching policy found"

def SessionExpiredReason.text : SessionExpiredReason → String
  | .durationLimitReached => "DurationLimitReached"
  | .timeWindowExpired => "TimeWindowExpired"

namespace AuditTexts
variable (texts : AuditTexts) (now : ClockReading)

def entry (eventType : AuditEventType) (result : AuditResult) : AuditEntry where
  timestamp := texts.time now.wall
  eventType := eventType
  endpointId := none
  deviceId := none
  result := result
  details := none

def logClientConnected (endpointId : String) (remoteAddr : Option String) : AuditEntry :=
  { texts.entry now .clientConnected .success with
    endpointId := some endpointId
    details := some (.connection remoteAddr none) }

def logClientDisconnected (endpointId : String) (reason : Option String) : AuditEntry :=
  { texts.entry now .clientDisconnected .success with
    endpointId := some endpointId
    details := some (.connection none reason) }

def logDeviceAttach (endpointId : String) (deviceId : DeviceId) (handle : Option DeviceHandle)
    (deviceInfo : Option DeviceInfo) (result : AuditResult) (error : Option String) : AuditEntry :=
  { texts.entry now .deviceAttach result with
    endpointId := some endpointId
    deviceId := some deviceId.val
    details := some (.device deviceId.val (handle.map DeviceHandle.val)
      (deviceInfo.map fun d => d.vendorId.toNat) (deviceInfo.map fun d => d.productId.toNat)
      error) }

def logDeviceDetach (endpointId : String) (handle : DeviceHandle) (deviceId : Option DeviceId)
    (result : AuditResult) (error : Option String) : AuditEntry :=
  { texts.entry now .deviceDetach result with
    endpointId := some endpointId
    deviceId := deviceId.map DeviceId.val
    details := some (.device ((deviceId.map DeviceId.val).getD 0) (some handle.val) none none
      error) }

end AuditTexts

namespace ClientConnection

/-- What `handle_attach_device` logs of its policy check. -/
def checkAudit (c : ClientConnection) (texts : AuditTexts) (engine : PolicyEngine)
    (now : ClockReading) (deviceId : DeviceId) (info : DeviceInfo) : List AuditEntry :=
  match engine.checkAccess now.wall c.endpointId info with
  | .allow => []
  | .deny reason => [texts.logDeviceAttach now c.endpointId.text deviceId none none .failure
      (some ("Policy denied: " ++ reason.text))]

def messageAudit (c : ClientConnection) (texts : AuditTexts) (engine : PolicyEngine)
    (now : ClockReading) : MessagePayload → List AuditEntry
  | .attachDeviceRequest deviceId =>
      match c.deviceInfoCache.lookup deviceId with
      | some info => c.checkAudit texts engine now deviceId info
      | none => []
  | _ => []

/-- The end of the loop body in `handle_expired_sessions`, whatever has become of the detach. -/
def expiredAudit (c : ClientConnection) (texts : AuditTexts) (now : ClockReading)
    (deviceId : Option DeviceId) (event : SessionExpiredEvent) : List AuditEntry :=
  [texts.logDeviceDetach now c.endpointId.text event.handle deviceId .success
    (some ("Session expired: " ++ event.reason.text))]

/-- `removed` is the device whose handle `handle_expired_sessions` has just taken out of the map. -/
def resumeAudit (c : ClientConnection) (texts : AuditTexts) (engine : PolicyEngine)
    (now : ClockReading) (removed : Option DeviceId) (next : Continuation) (reply : UsbReply) :
    List AuditEntry :=
  match next, reply with
  | .attachInfo deviceId, .devices devices =>
      match devices.find? fun info => info.id == deviceId with
      | some info => c.checkAudit texts engine now deviceId info
      | none => []
  | .attach deviceId _, .attached (.ok handle) =>
      [texts.logDeviceAttach now c.endpointId.text deviceId (some handle) none .success none]
  | .attach deviceId _, .attached (.error e) =>
      [texts.logDeviceAttach now c.endpointId.text deviceId none none .failure
        (some (texts.attachError e))]
  | .detach handle, .detached (.ok ()) =>
      [texts.logDeviceDetach now c.endpointId.text handle (c.attachedDevices.lookup handle)
        .success none]
  | .detach handle, .detached (.error e) =>
      [texts.logDeviceDetach now c.endpointId.text handle (c.attachedDevices.lookup handle)
        .failure (some (texts.detachError e))]
  | .expire event _, _ => c.expiredAudit texts now removed event
  | _, _ => []

def audit (c : ClientConnection) (texts : AuditTexts) (engine : PolicyEngine) (now : ClockReading)
    (removed : Option DeviceId) (action : ConnectionAction) : List AuditEntry :=
  match c.phase, action with
  | .reading, .message payload => c.messageAudit texts engine now payload
  | .awaiting _ next (some reply), .resume => c.resumeAudit texts engine now removed next reply
  | .awaiting _ (.expire event _) none, .giveUp => c.expiredAudit texts now removed event
  | _, _ => []

def stopped (c : ClientConnection) : Bool :=
  match c.phase with
  | .stopped => true
  | _ => false

/-- `handle_connection` logs the end of a connection once its handler has returned. -/
def closingAudit (d : ClientConnection) (texts : AuditTexts) (now : ClockReading) :
    List AuditEntry :=
  if d.stopped then [texts.logClientDisconnected now d.endpointId.text none] else []

/-- The loop of `handle_expired_sessions` takes a handle out of the map before it detaches it. -/
def remembers (c d : ClientConnection) (removed : Option DeviceId) : Option DeviceId :=
  match d.phase with
  | .sending _ (.expire event _) => c.attachedDevices.lookup event.handle
  | _ => removed

/-- The handles that a USB event takes out of the map. -/
def autoDetached (c d : ClientConnection) : ConnectionAction → List DeviceHandle
  | .event => c.attachedDevices.keys.filter fun h => h ∉ d.attachedDevices
  | _ => []

end ClientConnection

/-- The server, with what each handler remembers of the session that it ends. -/
structure AuditedServer where
  server : Server
  removed : ConnId → Option DeviceId

inductive AuditReport where
  | shown (effect : Effect)
  | logged (conn : ConnId) (entry : AuditEntry)
  | autoDetached (conn : ConnId) (handle : DeviceHandle)

namespace AuditedServer

def new (server : Server) : AuditedServer := ⟨server, fun _ => none⟩

def remember (x : AuditedServer) (i : ConnId) (t : Server) : ConnId → Option DeviceId :=
  match x.server.conns.lookup i, t.conns.lookup i with
  | some c, some d => Function.update x.removed i (c.remembers d (x.removed i))
  | _, _ => x.removed

def reports (texts : AuditTexts) (engine : PolicyEngine) (x : AuditedServer) (i : ConnId)
    (action : ConnectionAction) (t : Server) : List AuditReport :=
  match x.server.conns.lookup i, t.conns.lookup i with
  | some c, some d =>
      (c.audit texts engine x.server.clock (x.removed i) action ++
        d.closingAudit texts x.server.clock).map (.logged i) ++
      (c.autoDetached d action).map (.autoDetached i)
  | _, _ => []

end AuditedServer

/-- The server with what its handlers log. -/
def auditing (texts : AuditTexts) (engine : PolicyEngine) :
    Machine AuditedServer Action AuditReport where
  step x action := (x.server.step engine action).map fun next =>
    match action with
    | .connect i endpointId => (⟨next.1, x.removed⟩,
        [.logged i (texts.logClientConnected x.server.clock endpointId.text none)])
    | .connection i action => (⟨next.1, x.remember i next.1⟩,
        x.reports texts engine i action next.1 ++ next.2.map .shown)
    | _ => (⟨next.1, x.removed⟩, next.2.map .shown)

/-- The attachment that an entry reports. -/
def AuditEntry.attachment : AuditEntry → Option (DeviceHandle × DeviceId)
  | ⟨_, .deviceAttach, _, _, .success, some (.device deviceId (some handle) _ _ _)⟩ =>
      some (⟨handle⟩, ⟨deviceId⟩)
  | _ => none

/-- The handle whose end an entry reports. -/
def AuditEntry.detachment : AuditEntry → Option DeviceHandle
  | ⟨_, .deviceDetach, _, _, .success, some (.device _ (some handle) _ _ _)⟩ => some ⟨handle⟩
  | _ => none

namespace ClientConnection

/-- The grant that the handler has still to read. -/
def inFlight (c : ClientConnection) : List (DeviceHandle × DeviceId) :=
  match c.phase with
  | .awaiting _ (.attach deviceId _) (some (.attached (.ok handle))) => [(handle, deviceId)]
  | _ => []

/-- The handle whose session the handler is ending. -/
def expiring (c : ClientConnection) : Option DeviceHandle :=
  match c.phase with
  | .sending _ (.expire event _) | .awaiting _ (.expire event _) _ => some event.handle
  | _ => none

end ClientConnection

/-! ### One step of a handler -/

/-- The log gains nothing that begins or ends an attachment. -/
def Neutral (entries : List AuditEntry) : Prop :=
  ∀ e ∈ entries, e.attachment = none ∧ e.detachment = none

/-- All that a step of a handler can do to its map, to its log, and to the grant or the session
that it is busy with. -/
structure Books (m : DeviceManager) (c d : ClientConnection) (removed removed' : Option DeviceId)
    (entries : List AuditEntry) (lost : List DeviceHandle) : Prop where
  flight : c.inFlight = entries.filterMap AuditEntry.attachment ++ d.inFlight
  kept : ∀ h id, d.attachedDevices.lookup h = some id →
    (c.attachedDevices.lookup h = some id ∧
      (h ∈ entries.filterMap AuditEntry.detachment → c.expiring = some h)) ∨
    (h, id) ∈ entries.filterMap AuditEntry.attachment ∧
      entries.filterMap AuditEntry.detachment = []
  alone : entries.filterMap AuditEntry.detachment = [] ∨ d.inFlight = []
  added : ∀ p ∈ entries.filterMap AuditEntry.attachment, p.1 ∈ d.attachedDevices
  left : ∀ h ∈ c.attachedDevices, h ∈ d.attachedDevices ∨
    h ∈ entries.filterMap AuditEntry.detachment ∨ h ∈ lost ∨ d.expiring = some h ∨
    d.inLoop = false
  expiring : ∀ h, c.expiring = some h →
    h ∈ entries.filterMap AuditEntry.detachment ∨ d.expiring = some h
  loop : c.inLoop = false → d.inLoop = false
  past : ∀ h ∈ entries.filterMap AuditEntry.detachment, c.expiring = some h ∨ m.Dead h
  named : ∀ e ∈ entries, ∀ h id, e.detachment = some h → e.deviceId = some id →
    c.attachedDevices.lookup h = some ⟨id⟩ ∨ c.expiring = some h ∧ removed = some ⟨id⟩
  taken : ∀ h, d.expiring = some h → h ∉ d.attachedDevices ∧ ∃ id, removed' = some id ∧
    (c.attachedDevices.lookup h = some id ∨ c.expiring = some h ∧ removed = some id)

namespace Books
variable {m : DeviceManager} {c d : ClientConnection} {removed : Option DeviceId}
  {entries : List AuditEntry}

theorem detachments_nil (neutral : Neutral entries) :
    entries.filterMap AuditEntry.detachment = [] :=
  List.filterMap_eq_nil_iff.mpr fun e mem => (neutral e mem).2

theorem attachments_nil (neutral : Neutral entries) :
    entries.filterMap AuditEntry.attachment = [] :=
  List.filterMap_eq_nil_iff.mpr fun e mem => (neutral e mem).1

/-- The handler goes on as it was, or busy with nothing that it has to account for. -/
theorem quiet (neutral : Neutral entries) (same : d.attachedDevices = c.attachedDevices)
    (flight : d.inFlight = c.inFlight) (expiring : d.expiring = c.expiring)
    (loop : d.inLoop = c.inLoop)
    (taken : ∀ h, c.expiring = some h → h ∉ c.attachedDevices ∧ ∃ id, removed = some id) :
    Books m c d removed removed entries [] := by
  have ended := detachments_nil neutral
  constructor
  · rw [attachments_nil neutral, flight, List.nil_append]
  · intro h id there
    rw [ended]
    exact .inl ⟨same ▸ there, fun wrong => absurd wrong List.not_mem_nil⟩
  · exact .inl ended
  · rw [attachments_nil neutral]
    exact List.forall_mem_nil _
  · exact fun h there => .inl (same ▸ there)
  · exact fun h busy => .inr (expiring.trans busy)
  · exact fun off => loop.trans off
  · rw [ended]
    exact List.forall_mem_nil _
  · intro e mem h id wrong
    rw [(neutral e mem).2] at wrong
    cases wrong
  · intro h busy
    rw [expiring] at busy
    obtain ⟨apart, id, was⟩ := taken h busy
    exact ⟨same ▸ apart, id, was, .inr ⟨busy, was⟩⟩

/-- The handler is in its loop and has nothing to account for. -/
structure Idle (c : ClientConnection) : Prop where
  flight : c.inFlight = []
  expiring : c.expiring = none
  loop : c.inLoop = true

theorem Idle.of_phase {phase : Phase} (at' : c.phase = phase)
    (idle : Idle { c with phase := phase }) :
    Idle c := by
  cases at'
  exact idle

theorem remembers_of_idle (idle : Idle d) : c.remembers d removed = removed := by
  have busy := idle.expiring
  unfold ClientConnection.expiring at busy
  unfold ClientConnection.remembers
  split at busy
  · cases busy
  · cases busy
  case h_3 other _ =>
    split
    case h_1 cmd event rest at' => exact absurd at' (other cmd event rest)
    case h_2 => rfl

theorem idle (was : Idle c) (now : Idle d) (neutral : Neutral entries)
    (same : d.attachedDevices = c.attachedDevices) :
    Books m c d removed (c.remembers d removed) entries [] := by
  rw [remembers_of_idle now]
  refine quiet neutral same (now.flight.trans was.flight.symm)
    (now.expiring.trans was.expiring.symm) (now.loop.trans was.loop.symm) fun h busy => ?_
  cases was.expiring.symm.trans busy

theorem message_idle {engine : PolicyEngine} {r : ClientConnection × List ConnectionEffect}
    (step : ClientConnection.MessageStep engine c r) :
    Idle r.1 ∧ r.1.attachedDevices = c.attachedDevices := by
  cases step with
  | answer activity payload => exact ⟨⟨rfl, rfl, rfl⟩, rfl⟩
  | send cmd next fresh loop =>
      refine ⟨⟨rfl, ?_, ?_⟩, rfl⟩
      · change ClientConnection.expiring { c with phase := .sending cmd next } = none
        cases next with
        | expire event rest => exact absurd rfl (fresh event rest)
        | _ => rfl
      · change ClientConnection.inLoop { c with phase := .sending cmd next } = true
        cases next with
        | cleanup rest => exact absurd rfl (loop rest)
        | _ => rfl
  | attach wall id info =>
      rcases c.attach_with_info_cases engine wall id info with sent | ⟨reason, denied⟩
      · rw [sent]
        exact ⟨⟨rfl, rfl, rfl⟩, rfl⟩
      · rw [denied]
        exact ⟨⟨rfl, rfl, rfl⟩, rfl⟩
  | throttle request => exact ⟨⟨rfl, rfl, rfl⟩, rfl⟩

variable {texts : AuditTexts} {engine : PolicyEngine} {now : ClockReading}

theorem check_neutral (c : ClientConnection) (id : DeviceId) (info : DeviceInfo) :
    Neutral (c.checkAudit texts engine now id info) := by
  unfold ClientConnection.checkAudit
  split
  · exact List.forall_mem_nil _
  · exact List.forall_mem_singleton.mpr ⟨rfl, rfl⟩

theorem message_neutral (c : ClientConnection) (payload : MessagePayload) :
    Neutral (c.messageAudit texts engine now payload) := by
  unfold ClientConnection.messageAudit
  split
  · split
    · exact check_neutral c _ _
    · exact List.forall_mem_nil _
  · exact List.forall_mem_nil _

/-- The session that the handler is ending is logged, if there is one. -/
structure Ends (removed : Option DeviceId) (c : ClientConnection) (entries : List AuditEntry) :
    Prop where
  flight : c.inFlight = []
  loop : c.inLoop = true
  none : entries.filterMap AuditEntry.attachment = []
  ended : ∀ h, h ∈ entries.filterMap AuditEntry.detachment ↔ c.expiring = some h
  named : ∀ e ∈ entries, ∀ id, e.deviceId = some id → removed = some ⟨id⟩

theorem Ends.idle (was : Idle c) : Ends removed c [] := by
  refine ⟨was.flight, was.loop, rfl, fun h => ?_, List.forall_mem_nil _⟩
  rw [was.expiring]
  exact iff_of_false List.not_mem_nil fun wrong => Option.some_ne_none h wrong.symm

theorem Ends.expire {token : Nat} {event : SessionExpiredEvent} {rest : List SessionExpiredEvent}
    {reply : Option UsbReply} (at' : c.phase = .awaiting token (.expire event rest) reply) :
    Ends removed c (c.expiredAudit texts now removed event) := by
  have busy : c.expiring = some event.handle := by
    rw [ClientConnection.expiring, at']
  refine ⟨?_, ?_, rfl, fun h => ?_, List.forall_mem_singleton.mpr fun id named => ?_⟩
  · rw [ClientConnection.inFlight, at']
  · rw [ClientConnection.inLoop, at']
  · rw [busy]
    exact List.mem_singleton.trans ⟨fun same => congrArg some same.symm,
      fun same => (Option.some.inj same).symm⟩
  · obtain ⟨d, was, rfl⟩ := Option.map_eq_some_iff.mp named
    exact was

/-- The loop over the expired sessions stops at the next one that is the handler's own. -/
theorem expired {entries : List AuditEntry} (ends : Ends removed c entries)
    (events : List SessionExpiredEvent) :
    Books m c (c.handleExpiredSessions events) removed
      (c.remembers (c.handleExpiredSessions events) removed) entries [] := by
  have named : ∀ e ∈ entries, ∀ h id, e.detachment = some h → e.deviceId = some id →
      c.attachedDevices.lookup h = some ⟨id⟩ ∨ c.expiring = some h ∧ removed = some ⟨id⟩ := by
    intro e mem h id ended device
    have listed : h ∈ entries.filterMap AuditEntry.detachment :=
      List.mem_filterMap.mpr ⟨e, mem, ended⟩
    exact .inr ⟨(ends.ended h).mp listed, ends.named e mem id device⟩
  have off : c.inLoop = false → False := fun off => Bool.noConfusion (off.symm.trans ends.loop)
  have added : ∀ (d : ClientConnection), ∀ p ∈ entries.filterMap AuditEntry.attachment,
      p.1 ∈ d.attachedDevices := by
    rw [ends.none]
    exact fun _ => List.forall_mem_nil _
  induction events with
  | nil =>
      constructor
      · rw [ends.flight, ends.none]
        rfl
      · exact fun h id there => .inl ⟨there, (ends.ended h).mp⟩
      · exact .inr rfl
      · exact added _
      · exact fun h there => .inl there
      · exact fun h busy => .inl ((ends.ended h).mpr busy)
      · exact fun wrong => (off wrong).elim
      · exact fun h listed => .inl ((ends.ended h).mp listed)
      · exact named
      · exact fun h busy => nomatch busy
  | cons event rest ih =>
      unfold ClientConnection.handleExpiredSessions
      split
      case isFalse => exact ih
      case isTrue mine =>
        constructor
        · rw [ends.flight, ends.none]
          rfl
        · exact fun h id there =>
            .inl ⟨(AList.lookup_erase_eq_some.mp there).2, (ends.ended h).mp⟩
        · exact .inr rfl
        · exact added _
        · intro h there
          by_cases same : h = event.handle
          · exact .inr (.inr (.inr (.inl (congrArg some same.symm))))
          · exact .inl (AList.mem_erase.mpr ⟨same, there⟩)
        · exact fun h busy => .inl ((ends.ended h).mpr busy)
        · exact fun wrong => (off wrong).elim
        · exact fun h listed => .inl ((ends.ended h).mp listed)
        · exact named
        · intro h busy
          obtain rfl : event.handle = h := Option.some.inj busy
          obtain ⟨id, was⟩ := AList.mem_iff.mp mine.2
          exact ⟨fun wrong => (AList.mem_erase.mp wrong).1 rfl, id, was, .inl was⟩

/-- Once it has left its loop a handler has nothing more to account for. -/
theorem leaves (flight : c.inFlight = []) (idle : c.expiring = none)
    (neutral : Neutral entries) (order : List DeviceHandle) :
    Books m c (c.cleanup order) removed (c.remembers (c.cleanup order) removed) entries [] := by
  have ended := detachments_nil neutral
  have off : (c.cleanup order).inLoop = false := by cases order <;> rfl
  have busy : (c.cleanup order).expiring = none := by cases order <;> rfl
  constructor
  · rw [flight, attachments_nil neutral]
    cases order <;> rfl
  · intro h id there
    rw [ended]
    refine .inl ⟨?_, fun wrong => absurd wrong List.not_mem_nil⟩
    cases order with
    | nil => cases there
    | cons => exact there
  · exact .inl ended
  · rw [attachments_nil neutral]
    exact List.forall_mem_nil _
  · exact fun h _ => .inr (.inr (.inr (.inr off)))
  · exact fun h wrong => nomatch idle.symm.trans wrong
  · exact fun _ => off
  · rw [ended]
    exact List.forall_mem_nil _
  · intro e mem h id wrong
    rw [(neutral e mem).2] at wrong
    cases wrong
  · exact fun h wrong => nomatch busy.symm.trans wrong

theorem attach {token : Nat} {id : DeviceId} {info : DeviceInfo} {h : DeviceHandle}
    (at' : c.phase = .awaiting token (.attach id info) (some (.attached (.ok h))))
    (same : d.attachedDevices = c.attachedDevices.insert h id) (now' : Idle d) :
    Books m c d removed (c.remembers d removed)
      [texts.logDeviceAttach now c.endpointId.text id (some h) none .success none] [] := by
  have flight : c.inFlight = [(h, id)] := by rw [ClientConnection.inFlight, at']
  have busy : c.expiring = none := by rw [ClientConnection.expiring, at']
  rw [remembers_of_idle now']
  constructor
  · rw [flight, now'.flight]
    rfl
  · intro j id' there
    rw [same, AList.lookup_insert_eq] at there
    split at there
    case isTrue own =>
      obtain rfl := Option.some.inj there
      rw [own]
      exact .inr ⟨List.mem_cons_self, rfl⟩
    case isFalse => exact .inl ⟨there, fun wrong => absurd wrong List.not_mem_nil⟩
  · exact .inl rfl
  · refine List.forall_mem_singleton.mpr ?_
    rw [same]
    exact (AList.mem_insert _).mpr (.inl rfl)
  · intro j there
    rw [same]
    exact .inl ((AList.mem_insert _).mpr (.inr there))
  · exact fun j wrong => nomatch busy.symm.trans wrong
  · intro wrong
    rw [ClientConnection.inLoop, at'] at wrong
    cases wrong
  · exact List.forall_mem_nil _
  · exact List.forall_mem_singleton.mpr fun j _ wrong => nomatch wrong
  · exact fun j wrong => nomatch now'.expiring.symm.trans wrong

theorem detach {token : Nat} {h : DeviceHandle}
    (at' : c.phase = .awaiting token (.detach h) (some (.detached (.ok ())))) (dead : m.Dead h)
    (same : d.attachedDevices = c.attachedDevices.erase h) (now' : Idle d) :
    Books m c d removed (c.remembers d removed)
      [texts.logDeviceDetach now c.endpointId.text h (c.attachedDevices.lookup h) .success none]
      [] := by
  have flight : c.inFlight = [] := by rw [ClientConnection.inFlight, at']
  have busy : c.expiring = none := by rw [ClientConnection.expiring, at']
  rw [remembers_of_idle now']
  constructor
  · rw [flight, now'.flight]
    rfl
  · intro j id there
    rw [same] at there
    obtain ⟨other, there⟩ := AList.lookup_erase_eq_some.mp there
    exact .inl ⟨there, fun wrong => absurd (List.mem_singleton.mp wrong) other⟩
  · exact .inr now'.flight
  · exact List.forall_mem_nil _
  · intro j there
    rw [same]
    by_cases own : j = h
    · exact .inr (.inl (List.mem_singleton.mpr own))
    · exact .inl (AList.mem_erase.mpr ⟨own, there⟩)
  · exact fun j wrong => nomatch busy.symm.trans wrong
  · intro wrong
    rw [ClientConnection.inLoop, at'] at wrong
    cases wrong
  · exact List.forall_mem_singleton.mpr (.inr dead)
  · refine List.forall_mem_singleton.mpr fun j id own device => .inl ?_
    obtain rfl := Option.some.inj own
    obtain ⟨known, there, rfl⟩ := Option.map_eq_some_iff.mp device
    exact there
  · exact fun j wrong => nomatch now'.expiring.symm.trans wrong

theorem resume {tr : List Effect} {i : ConnId} {token : Nat} {next : Continuation}
    {reply : UsbReply} (at' : c.phase = .awaiting token next (some reply))
    (ok : ReplyOk tr m i next reply) (sessions : ActiveSessions) :
    Books m c (c.resume engine now sessions next reply).1.1 removed
      (c.remembers (c.resume engine now sessions next reply).1.1 removed)
      (c.resumeAudit texts engine now removed next reply) [] := by
  have was : Idle { c with phase := .awaiting token next (some reply) } → Idle c := .of_phase at'
  unfold ReplyOk at ok
  split at ok
  case h_2 id devices =>
    have before : Idle c := was ⟨rfl, rfl, rfl⟩
    dsimp only [ClientConnection.resume, ClientConnection.resumeAudit]
    cases devices.find? fun info => info.id == id with
    | some info =>
        have goes : ClientConnection.MessageStep engine (c.cacheDevices devices) _ :=
          .attach now.wall id info
        exact idle before (message_idle goes).1 (check_neutral c id info) (message_idle goes).2
    | none => exact idle before ⟨rfl, rfl, rfl⟩ (List.forall_mem_nil _) rfl
  case h_3 id info result =>
    cases result with
    | ok h => exact attach at' rfl ⟨rfl, rfl, rfl⟩
    | error e =>
        exact idle (was ⟨rfl, rfl, rfl⟩) ⟨rfl, rfl, rfl⟩
          (List.forall_mem_singleton.mpr ⟨rfl, rfl⟩) rfl
  case h_4 h result =>
    cases result with
    | ok => exact detach at' (ok rfl) rfl ⟨rfl, rfl, rfl⟩
    | error e =>
        exact idle (was ⟨rfl, rfl, rfl⟩) ⟨rfl, rfl, rfl⟩
          (List.forall_mem_singleton.mpr ⟨rfl, rfl⟩) rfl
  case h_9 event rest _ => exact expired (.expire at') rest
  case h_10 rest _ =>
    refine leaves ?_ ?_ (List.forall_mem_nil _) rest
    · rw [ClientConnection.inFlight, at']
    · rw [ClientConnection.expiring, at']
  case h_11 => exact ok.elim
  all_goals exact idle (was ⟨rfl, rfl, rfl⟩) ⟨rfl, rfl, rfl⟩ (List.forall_mem_nil _) rfl

theorem event (at' : c.phase = .selecting) (event : UsbEvent) :
    Books m c (c.handleUsbEvent event) removed (c.remembers (c.handleUsbEvent event) removed) []
      (c.autoDetached (c.handleUsbEvent event) .event) := by
  have was : Idle c := .of_phase at' ⟨rfl, rfl, rfl⟩
  have same : (c.handleUsbEvent event).phase = c.phase := by cases event <;> rfl
  have now : Idle (c.handleUsbEvent event) := .of_phase (same.trans at') ⟨rfl, rfl, rfl⟩
  rw [remembers_of_idle now]
  constructor
  · rw [was.flight, now.flight]
    rfl
  · refine fun h id there => .inl ⟨?_, fun wrong => absurd wrong List.not_mem_nil⟩
    cases event with
    | deviceArrived => exact there
    | deviceLeft =>
        simp only [ClientConnection.handleUsbEvent, AList.lookup_retain,
          Option.filter_eq_some_iff] at there
        exact there.1
  · exact .inl rfl
  · exact List.forall_mem_nil _
  · intro h there
    by_cases stays : h ∈ (c.handleUsbEvent event).attachedDevices
    · exact .inl stays
    · refine .inr (.inr (.inl (List.mem_filter.mpr ⟨there, ?_⟩)))
      exact decide_eq_true stays
  · exact fun h wrong => absurd (wrong.symm.trans was.expiring) (Option.some_ne_none h)
  · exact fun off => Bool.noConfusion (off.symm.trans was.loop)
  · exact List.forall_mem_nil _
  · exact List.forall_mem_nil _
  · exact fun h wrong => absurd (wrong.symm.trans now.expiring) (Option.some_ne_none h)

/-- The entry of the end of a connection says nothing of a device. -/
theorem closing {removed' : Option DeviceId} {lost : List DeviceHandle}
    (books : Books m c d removed removed' entries lost) :
    Books m c d removed removed' (entries ++ d.closingAudit texts now) lost := by
  have neutral : Neutral (d.closingAudit texts now) := by
    unfold ClientConnection.closingAudit
    split
    · exact List.forall_mem_singleton.mpr ⟨rfl, rfl⟩
    · exact List.forall_mem_nil _
  have attached : (entries ++ d.closingAudit texts now).filterMap AuditEntry.attachment =
      entries.filterMap AuditEntry.attachment := by
    rw [List.filterMap_append, attachments_nil neutral, List.append_nil]
  have ended : (entries ++ d.closingAudit texts now).filterMap AuditEntry.detachment =
      entries.filterMap AuditEntry.detachment := by
    rw [List.filterMap_append, detachments_nil neutral, List.append_nil]
  constructor
  · exact attached ▸ books.flight
  · rw [attached, ended]
    exact books.kept
  · exact ended ▸ books.alone
  · exact attached ▸ books.added
  · exact ended ▸ books.left
  · exact ended ▸ books.expiring
  · exact books.loop
  · exact ended ▸ books.past
  · intro e mem h id own
    rcases List.mem_append.mp mem with old | new
    · exact books.named e old h id own
    · rw [(neutral e new).2] at own
      cases own
  · exact books.taken

end Books

/-- A step of the handler of one connection, and what becomes of its books. -/
structure Handled (texts : AuditTexts) (s : Server) (i : ConnId) (c : ClientConnection)
    (removed : Option DeviceId) (entries : List AuditEntry)
      (lost : ClientConnection → List DeviceHandle)
    (t : Server) (out : List Effect) (d : ClientConnection) : Prop where
  conns : t.conns = s.conns.insert i d
  manager : t.manager = s.manager
  granted : grants out = []
  running : c.stopped = false
  client : d.endpointId = c.endpointId
  books : Books s.manager c d removed (c.remembers d removed)
    (entries ++ d.closingAudit texts s.clock) (lost d)

section
variable {texts : AuditTexts} {engine : PolicyEngine} {s t : Server} {i : ConnId}
  {c : ClientConnection} {removed : Option DeviceId} {tr out : List Effect}

theorem leave_loop_handled {order : List DeviceHandle} {action : ConnectionAction}
    (ok : ConnOk tr s.manager i c) (at' : c.phase = .selecting)
    (silent : c.audit texts engine s.clock removed action = [])
    (kept : ∀ d, c.autoDetached d action = []) (step : s.leaveLoop i c order = some (t, out)) :
    ∃ d, Handled texts s i c removed (c.audit texts engine s.clock removed action)
      (c.autoDetached · action) t out d := by
  obtain ⟨all, rfl, rfl⟩ := Server.leave_loop_eq step
  have handler : HandlerStep engine s c (c.cleanup order, []) := .leave order at' all
  refine ⟨_, rfl, rfl, rfl, ?_, (HandlerOk.step ok handler).endpointId, .closing ?_⟩
  · rw [ClientConnection.stopped, at']
  · rw [silent, kept]
    refine .leaves ?_ ?_ (List.forall_mem_nil _) order
    · rw [ClientConnection.inFlight, at']
    · rw [ClientConnection.expiring, at']

theorem connection_step_handled {action : ConnectionAction} (ok : ConnOk tr s.manager i c)
    (taken : ∀ h, c.expiring = some h → h ∉ c.attachedDevices ∧ ∃ id, removed = some id)
    (step : s.connectionStep engine i c action = some (t, out)) :
    ∃ d, Handled texts s i c removed (c.audit texts engine s.clock removed action)
      (c.autoDetached · action) t out d := by
  have client : ∀ {r : ClientConnection × List ConnectionEffect}, HandlerStep engine s c r →
      r.1.endpointId = c.endpointId := fun step => (HandlerOk.step ok step).endpointId
  have was : ∀ {phase : Phase}, c.phase = phase →
      Books.Idle { c with phase := phase } → Books.Idle c := .of_phase
  have running : ∀ {phase : Phase}, c.phase = phase → phase ≠ .stopped → c.stopped = false := by
    rintro phase rfl goes
    unfold ClientConnection.stopped
    split
    · contradiction
    · rfl
  unfold Server.connectionStep at step
  split at step
  case h_1 at' =>
    obtain ⟨rfl, rfl⟩ := Prod.mk.inj (Option.some.inj step)
    refine ⟨_, rfl, rfl, rfl, running at' Phase.noConfusion, rfl, .closing ?_⟩
    simp only [ClientConnection.audit, at']
    exact .idle (was at' ⟨rfl, rfl, rfl⟩) ⟨rfl, rfl, rfl⟩ (List.forall_mem_nil _) rfl
  case h_2 at' =>
    split at step
    · cases step
    case h_2 event rest waiting =>
      obtain ⟨rfl, rfl⟩ := Prod.mk.inj (Option.some.inj step)
      refine ⟨_, rfl, rfl, rfl, running at' Phase.noConfusion, ?_, .closing ?_⟩
      · exact client (.event event at' (waiting ▸ List.mem_cons_self))
      · simp only [ClientConnection.audit, at']
        exact .event at' event
  case h_3 order at' =>
    have silent : c.audit texts engine s.clock removed (.expiryTick order) = [] := by
      simp only [ClientConnection.audit, at']
    split at step
    · exact leave_loop_handled ok at' silent (fun _ => rfl) step
    · obtain ⟨rfl, rfl⟩ := Prod.mk.inj (Option.some.inj step)
      refine ⟨_, rfl, rfl, rfl, running at' Phase.noConfusion, client (.expiry _ at'), .closing ?_⟩
      rw [silent]
      exact .expired (.idle (was at' ⟨rfl, rfl, rfl⟩)) _
  case h_4 order at' =>
    refine leave_loop_handled ok at' ?_ (fun _ => rfl) step
    simp only [ClientConnection.audit, at']
  case h_5 at' =>
    obtain ⟨rfl, rfl⟩ := Prod.mk.inj (Option.some.inj step)
    refine ⟨_, rfl, rfl, rfl, running at' Phase.noConfusion, rfl, .closing ?_⟩
    simp only [ClientConnection.audit, at']
    exact .idle (was at' ⟨rfl, rfl, rfl⟩) ⟨rfl, rfl, rfl⟩ (List.forall_mem_nil _) rfl
  case h_6 payload at' =>
    obtain ⟨rfl, rfl⟩ := Prod.mk.inj (Option.some.inj step)
    refine ⟨_, rfl, rfl, grants_connection _ _, running at' Phase.noConfusion,
      client (.message payload at'), .closing ?_⟩
    simp only [ClientConnection.audit, at']
    have goes : ClientConnection.MessageStep engine c _ :=
      ClientConnection.message_step s.clock payload
    exact .idle (was at' ⟨rfl, rfl, rfl⟩) (Books.message_idle goes).1
      (Books.message_neutral c payload) (Books.message_idle goes).2
  case h_7 request at' =>
    obtain ⟨rfl, rfl⟩ := Prod.mk.inj (Option.some.inj step)
    refine ⟨_, rfl, rfl, rfl, running at' Phase.noConfusion, rfl, .closing ?_⟩
    simp only [ClientConnection.audit, at']
    exact .idle (was at' ⟨rfl, rfl, rfl⟩) ⟨rfl, rfl, rfl⟩ (List.forall_mem_nil _) rfl
  case h_8 cmd next at' =>
    split at step
    · obtain ⟨rfl, rfl⟩ := Prod.mk.inj (Option.some.inj step)
      refine ⟨_, rfl, rfl, rfl, running at' Phase.noConfusion, rfl, .closing ?_⟩
      simp only [ClientConnection.audit, at']
      refine .quiet (List.forall_mem_nil _) rfl ?_ ?_ ?_ taken
      · rw [ClientConnection.inFlight, ClientConnection.inFlight, at']
        cases next <;> rfl
      · rw [ClientConnection.expiring, ClientConnection.expiring, at']
        cases next <;> rfl
      · rw [ClientConnection.inLoop, ClientConnection.inLoop, at']
        cases next <;> rfl
    · cases step
  case h_9 token next reply at' =>
    obtain ⟨rfl, rfl⟩ := Prod.mk.inj (Option.some.inj step)
    refine ⟨_, rfl, rfl, grants_connection _ _, running at' Phase.noConfusion,
      client (.resume token next reply at'), .closing ?_⟩
    have phase := ok.phase
    rw [at'] at phase
    simp only [ClientConnection.audit, at']
    exact .resume at' (phase.2 reply rfl) s.sessions
  case h_10 token event rest at' =>
    obtain ⟨rfl, rfl⟩ := Prod.mk.inj (Option.some.inj step)
    refine ⟨_, rfl, rfl, rfl, running at' Phase.noConfusion,
      client (.giveUp token event rest at'), .closing ?_⟩
    simp only [ClientConnection.audit, at']
    exact .expired (.expire at') rest
  case h_11 => cases step

end

theorem audit_own (texts : AuditTexts) (engine : PolicyEngine) (now : ClockReading)
    (removed : Option DeviceId) (c : ClientConnection) (action : ConnectionAction) :
    ∀ e ∈ c.audit texts engine now removed action, e.endpointId = some c.endpointId.text ∧
      (e.eventType = .deviceAttach ∨ e.eventType = .deviceDetach) := by
  have checked : ∀ id info, ∀ e ∈ c.checkAudit texts engine now id info,
      e.endpointId = some c.endpointId.text ∧
        (e.eventType = .deviceAttach ∨ e.eventType = .deviceDetach) := by
    intro id info
    unfold ClientConnection.checkAudit
    split
    · exact List.forall_mem_nil _
    · exact List.forall_mem_singleton.mpr ⟨rfl, .inl rfl⟩
  unfold ClientConnection.audit
  split
  case h_1 payload _ =>
    unfold ClientConnection.messageAudit
    split
    · split
      · exact checked _ _
      · exact List.forall_mem_nil _
    · exact List.forall_mem_nil _
  case h_2 next reply _ =>
    unfold ClientConnection.resumeAudit
    split
    case h_1 =>
      split
      · exact checked _ _
      · exact List.forall_mem_nil _
    case h_2 | h_3 => exact List.forall_mem_singleton.mpr ⟨rfl, .inl rfl⟩
    case h_4 | h_5 | h_6 => exact List.forall_mem_singleton.mpr ⟨rfl, .inr rfl⟩
    case h_7 => exact List.forall_mem_nil _
  case h_3 => exact List.forall_mem_singleton.mpr ⟨rfl, .inr rfl⟩
  case h_4 => exact List.forall_mem_nil _

end P2pUsb
