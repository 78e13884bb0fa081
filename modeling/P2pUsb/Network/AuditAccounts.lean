import P2pUsb.Network.AuditedServer
import P2pUsb.Network.Handles

/-! The audit log of a connection accounts for its attachments: each grant of the worker is
logged once, and each end that the connection sees. -/
namespace P2pUsb

namespace AuditReport

def effect : AuditReport → Option Effect
  | .shown effect => some effect
  | _ => none

def entry (i : ConnId) : AuditReport → Option AuditEntry
  | .logged j entry => if j = i then some entry else none
  | _ => none

def lost (i : ConnId) : AuditReport → Option DeviceHandle
  | .autoDetached j handle => if j = i then some handle else none
  | _ => none

end AuditReport

/-- Everything that the handler of one connection has logged. -/
def entriesOf (i : ConnId) (tr : List AuditReport) : List AuditEntry :=
  tr.filterMap (AuditReport.entry i)

def attachments (i : ConnId) (tr : List AuditReport) : List (DeviceHandle × DeviceId) :=
  (entriesOf i tr).filterMap AuditEntry.attachment

def detachments (i : ConnId) (tr : List AuditReport) : List DeviceHandle :=
  (entriesOf i tr).filterMap AuditEntry.detachment

/-- The handles of one connection that went with their device. -/
def lostHandles (i : ConnId) (tr : List AuditReport) : List DeviceHandle :=
  tr.filterMap (AuditReport.lost i)

def effectsOf (tr : List AuditReport) : List Effect := tr.filterMap AuditReport.effect

/-- What the worker has granted to one connection, in order. -/
def grantsOn (i : ConnId) (tr : List Effect) : List (DeviceHandle × DeviceId) :=
  (grants tr).filterMap fun e => if e.2.conn = i then some (e.1, e.2.deviceId) else none

/-- How the log of a connection accounts for its attachments. -/
structure Accounted (texts : AuditTexts) (tr : List AuditReport) (i : ConnId)
    (c : ClientConnection) : Prop where
  bracketed : ∃ (opened closed : ClockReading) (middle : List AuditEntry),
    entriesOf i tr = texts.logClientConnected opened c.endpointId.text none :: (middle ++
      if c.stopped then [texts.logClientDisconnected closed c.endpointId.text none] else []) ∧
    ∀ e ∈ middle, e.endpointId = some c.endpointId.text ∧
      (e.eventType = .deviceAttach ∨ e.eventType = .deviceDetach)
  granted : grantsOn i (effectsOf tr) = attachments i tr ++ c.inFlight
  kept : ∀ h id, c.attachedDevices.lookup h = some id →
    (h, id) ∈ attachments i tr ∧ h ∉ detachments i tr
  ended : ∀ p ∈ attachments i tr, p.1 ∈ c.attachedDevices ∨ p.1 ∈ detachments i tr ∨
    p.1 ∈ lostHandles i tr ∨ c.expiring = some p.1 ∨ c.inLoop = false
  named : ∀ e ∈ entriesOf i tr, ∀ h id, e.detachment = some h → e.deviceId = some id →
    (h, ⟨id⟩) ∈ attachments i tr

section
variable {i j : ConnId} {tr out : List AuditReport} {effects : List Effect}
  {entries : List AuditEntry} {lost : List DeviceHandle}

theorem effects_of_append : effectsOf (tr ++ out) = effectsOf tr ++ effectsOf out :=
  List.filterMap_append

theorem grants_on_append {tr out : List Effect} :
    grantsOn i (tr ++ out) = grantsOn i tr ++ grantsOn i out := by
  rw [grantsOn, grants_append, List.filterMap_append]
  rfl

theorem filter_map_none {α β γ : Type*} {f : α → β} {g : β → Option γ}
    (none : ∀ a, g (f a) = .none) (l : List α) : (l.map f).filterMap g = [] := by
  rw [List.filterMap_map, List.filterMap_eq_nil_iff]
  exact fun a _ => none a

theorem filter_map_some {α β : Type*} {f : α → β} {g : β → Option α}
    (some : ∀ a, g (f a) = .some a) (l : List α) : (l.map f).filterMap g = l := by
  rw [List.filterMap_map]
  exact (List.filterMap_congr fun a _ => some a).trans List.filterMap_some

/-- What the log of a connection shows of a step that says nothing of it. -/
structure Unlogged (i : ConnId) (out : List AuditReport) : Prop where
  entries : entriesOf i out = []
  lost : lostHandles i out = []

theorem Unlogged.append {more : List AuditReport} (one : Unlogged i out) (other : Unlogged i more) :
    Unlogged i (out ++ more) := by
  constructor
  · rw [entriesOf, List.filterMap_append, ← entriesOf, ← entriesOf, one.entries, other.entries,
      List.append_nil]
  · rw [lostHandles, List.filterMap_append, ← lostHandles, ← lostHandles, one.lost, other.lost,
      List.append_nil]

theorem Unlogged.shown : Unlogged i (effects.map .shown) :=
  ⟨filter_map_none (fun _ => rfl) _, filter_map_none (fun _ => rfl) _⟩

theorem Unlogged.other (other : j ≠ i) :
    Unlogged i (entries.map (.logged j) ++ lost.map (.autoDetached j)) := by
  have elsewhere : ∀ e, AuditReport.entry i (.logged j e) = none := fun _ => if_neg other
  have nothing : ∀ h, AuditReport.lost i (.autoDetached j h) = none := fun _ => if_neg other
  exact .append ⟨filter_map_none elsewhere _, filter_map_none (fun _ => rfl) _⟩
    ⟨filter_map_none (fun _ => rfl) _, filter_map_none nothing _⟩

theorem effects_shown : effectsOf (effects.map .shown) = effects := by
  have same : ∀ e, AuditReport.effect (.shown e) = some e := fun _ => rfl
  exact filter_map_some same effects

theorem effects_logged :
    effectsOf (entries.map (.logged j) ++ lost.map (.autoDetached j)) = [] := by
  rw [effectsOf, List.filterMap_append, filter_map_none fun _ => rfl, filter_map_none fun _ => rfl]
  rfl

theorem entries_own :
    entriesOf i (entries.map (.logged i) ++ lost.map (.autoDetached i)) = entries := by
  rw [entriesOf, List.filterMap_append, filter_map_some fun _ => if_pos rfl,
    filter_map_none fun _ => rfl, List.append_nil]

theorem lost_own :
    lostHandles i (entries.map (.logged i) ++ lost.map (.autoDetached i)) = lost := by
  rw [lostHandles, List.filterMap_append, filter_map_none fun _ => rfl,
    filter_map_some fun _ => if_pos rfl, List.nil_append]

theorem entries_of_append : entriesOf i (tr ++ out) = entriesOf i tr ++ entriesOf i out :=
  List.filterMap_append

theorem attachments_append :
    attachments i (tr ++ out) = attachments i tr ++ attachments i out := by
  rw [attachments, entries_of_append, List.filterMap_append]
  rfl

theorem detachments_append :
    detachments i (tr ++ out) = detachments i tr ++ detachments i out := by
  rw [detachments, entries_of_append, List.filterMap_append]
  rfl

theorem lost_handles_append :
    lostHandles i (tr ++ out) = lostHandles i tr ++ lostHandles i out :=
  List.filterMap_append

end

/-- The account of a connection, with what the next step rests on. -/
structure Accounting (texts : AuditTexts) (tr : List AuditReport) (m : DeviceManager)
    (removed : Option DeviceId) (i : ConnId) (c : ClientConnection) : Prop
    extends Accounted texts tr i c where
  past : ∀ h ∈ detachments i tr, h.val < m.nextHandleId
  apart : ∀ p ∈ c.inFlight, p.1 ∉ detachments i tr
  taken : ∀ h, c.expiring = some h → h ∉ c.attachedDevices ∧
    ∃ id, removed = some id ∧ (h, id) ∈ attachments i tr

namespace Accounting
variable {texts : AuditTexts} {tr out : List AuditReport} {s : Server} {m m' : DeviceManager}
  {removed : Option DeviceId} {i : ConnId} {c d : ClientConnection} {h : DeviceHandle}
  {id : DeviceId}

theorem granted_below (ledgered : Ledgered (effectsOf tr) s)
    (granted : (h, id) ∈ grantsOn i (effectsOf tr)) : h.val < s.manager.nextHandleId := by
  obtain ⟨⟨j, g⟩, mem, own⟩ := List.mem_filterMap.mp granted
  split at own
  · obtain ⟨rfl, -⟩ := Prod.mk.inj (Option.some.inj own)
    exact ledgered.below j g mem
  · cases own

/-- The handler is told of what the worker has granted, and of nothing else. -/
theorem receive (hs : Accounting texts tr m removed i c) {more : List (DeviceHandle × DeviceId)}
    (unlogged : Unlogged i out) (granted : grantsOn i (effectsOf out) = more)
    (counted : m.nextHandleId ≤ m'.nextHandleId) (fresh : ∀ p ∈ more, p.1.val = m.nextHandleId)
    (flight : d.inFlight = c.inFlight ++ more) (client : d.endpointId = c.endpointId)
    (same : d.attachedDevices = c.attachedDevices) (expiring : d.expiring = c.expiring)
    (loop : d.inLoop = c.inLoop) (stopped : d.stopped = c.stopped) :
    Accounting texts (tr ++ out) m' removed i d := by
  have entries : entriesOf i (tr ++ out) = entriesOf i tr := by
    rw [entries_of_append, unlogged.entries, List.append_nil]
  have attached : attachments i (tr ++ out) = attachments i tr :=
    congrArg (List.filterMap AuditEntry.attachment) entries
  have ended : detachments i (tr ++ out) = detachments i tr :=
    congrArg (List.filterMap AuditEntry.detachment) entries
  have lost : lostHandles i (tr ++ out) = lostHandles i tr := by
    rw [lost_handles_append, unlogged.lost, List.append_nil]
  refine ⟨⟨?_, ?_, ?_, ?_, ?_⟩, ?_, ?_, ?_⟩
  · rw [entries, client, stopped]
    exact hs.bracketed
  · rw [effects_of_append, grants_on_append, granted, hs.granted, attached, flight,
      List.append_assoc]
  · rw [attached, ended, same]
    exact hs.kept
  · rw [attached, ended, lost, same, expiring, loop]
    exact hs.ended
  · rw [entries, attached]
    exact hs.named
  · rw [ended]
    exact fun h mem => (hs.past h mem).trans_le counted
  · rw [ended, flight]
    intro p mem
    rcases List.mem_append.mp mem with old | new
    · exact hs.apart p old
    · exact fun wrong => absurd (fresh p new) (hs.past p.1 wrong).ne
  · rw [attached, expiring, same]
    exact hs.taken

/-- A step that says nothing of the connection. -/
theorem frame (hs : Accounting texts tr m removed i c) (unlogged : Unlogged i out)
    (granted : grantsOn i (effectsOf out) = []) (counted : m.nextHandleId ≤ m'.nextHandleId) :
    Accounting texts (tr ++ out) m' removed i c :=
  hs.receive unlogged granted counted (List.forall_mem_nil _) (List.append_nil _).symm rfl rfl rfl
    rfl rfl

/-- A connection begins with its first entry. -/
theorem new {engine : PolicyEngine} (stranger : Unlogged i tr) (free : i ∉ s.conns)
    (authority : Authority engine (effectsOf tr) s) (endpointId : EndpointId) :
    Accounting texts (tr ++ [.logged i (texts.logClientConnected s.clock endpointId.text none)])
      s.manager removed i (.new endpointId s.clock.instant) := by
  have entries : entriesOf i
      (tr ++ [.logged i (texts.logClientConnected s.clock endpointId.text none)]) =
        [texts.logClientConnected s.clock endpointId.text none] := by
    rw [entries_of_append, stranger.entries, List.nil_append]
    exact @entries_own i [_] []
  have attached : attachments i
      (tr ++ [.logged i (texts.logClientConnected s.clock endpointId.text none)]) = [] :=
    congrArg (List.filterMap AuditEntry.attachment) entries
  have ended : detachments i
      (tr ++ [.logged i (texts.logClientConnected s.clock endpointId.text none)]) = [] :=
    congrArg (List.filterMap AuditEntry.detachment) entries
  have none : grantsOn i (effectsOf tr) = [] := by
    refine List.filterMap_eq_nil_iff.mpr fun p mem => if_neg fun own => free ?_
    obtain ⟨-, c, found, -⟩ := authority.justified p.1 p.2 mem
    exact own ▸ AList.mem_of_lookup found
  refine ⟨⟨⟨s.clock, s.clock, [], entries, List.forall_mem_nil _⟩, ?_,
    fun h id wrong => ?_, ?_, ?_⟩,
    ?_, List.forall_mem_nil _, fun h wrong => nomatch wrong⟩
  · rw [effects_of_append, grants_on_append, none, attached]
    rfl
  · cases wrong
  · rw [attached]
    exact List.forall_mem_nil _
  · rw [entries]
    exact List.forall_mem_singleton.mpr fun h id wrong => nomatch wrong
  · rw [ended]
    exact List.forall_mem_nil _

section Step
variable {removed' : Option DeviceId} {entries : List AuditEntry} {lost : List DeviceHandle}

theorem attachments_own (own : entriesOf i out = entries) : attachments i (tr ++ out) =
    attachments i tr ++ entries.filterMap AuditEntry.attachment := by
  rw [attachments_append, attachments, attachments, own]

theorem detachments_own (own : entriesOf i out = entries) : detachments i (tr ++ out) =
    detachments i tr ++ entries.filterMap AuditEntry.detachment := by
  rw [detachments_append, detachments, detachments, own]

/-- What the map or the session at its end shows has been logged. -/
theorem known (hs : Accounting texts tr m removed i c)
    (shown : c.attachedDevices.lookup h = some id ∨ c.expiring = some h ∧ removed = some id) :
    (h, id) ∈ attachments i tr := by
  rcases shown with there | ⟨busy, was⟩
  · exact (hs.kept h id there).1
  · obtain ⟨-, id', same, mem⟩ := hs.taken h busy
    obtain rfl := Option.some.inj (was.symm.trans same)
    exact mem

theorem step_kept (hs : Accounting texts tr m removed i c)
    (books : Books m c d removed removed' entries lost) (own : entriesOf i out = entries)
    (there : d.attachedDevices.lookup h = some id) :
    (h, id) ∈ attachments i (tr ++ out) ∧ h ∉ detachments i (tr ++ out) := by
  rw [attachments_own own, detachments_own own]
  rcases books.kept h id there with ⟨old, unended⟩ | ⟨new, none⟩
  · obtain ⟨logged, open'⟩ := hs.kept h id old
    refine ⟨List.mem_append_left _ logged, fun wrong => ?_⟩
    rcases List.mem_append.mp wrong with before | now
    · exact open' before
    · exact (hs.taken h (unended now)).1 (AList.mem_of_lookup old)
  · refine ⟨List.mem_append_right _ new, ?_⟩
    rw [none, List.append_nil]
    refine hs.apart (h, id) ?_
    rw [books.flight]
    exact List.mem_append_left _ new

theorem step_ended (hs : Accounting texts tr m removed i c)
    (books : Books m c d removed removed' entries lost) (own : entriesOf i out = entries)
    (gone : lostHandles i out = lost) {p : DeviceHandle × DeviceId}
    (logged : p ∈ attachments i (tr ++ out)) :
    p.1 ∈ d.attachedDevices ∨ p.1 ∈ detachments i (tr ++ out) ∨
      p.1 ∈ lostHandles i (tr ++ out) ∨ d.expiring = some p.1 ∨ d.inLoop = false := by
  rw [attachments_own own] at logged
  rw [detachments_own own, lost_handles_append, gone]
  rcases List.mem_append.mp logged with old | new
  · rcases hs.ended p old with there | before | before | busy | off
    · rcases books.left p.1 there with stays | now | now | busy | off
      · exact .inl stays
      · exact .inr (.inl (List.mem_append_right _ now))
      · exact .inr (.inr (.inl (List.mem_append_right _ now)))
      · exact .inr (.inr (.inr (.inl busy)))
      · exact .inr (.inr (.inr (.inr off)))
    · exact .inr (.inl (List.mem_append_left _ before))
    · exact .inr (.inr (.inl (List.mem_append_left _ before)))
    · rcases books.expiring p.1 busy with now | still
      · exact .inr (.inl (List.mem_append_right _ now))
      · exact .inr (.inr (.inr (.inl still)))
    · exact .inr (.inr (.inr (.inr (books.loop off))))
  · exact .inl (books.added p new)

theorem step_named (hs : Accounting texts tr m removed i c)
    (books : Books m c d removed removed' entries lost) (own : entriesOf i out = entries)
    {e : AuditEntry} {n : Nat} (logged : e ∈ entriesOf i (tr ++ out))
    (detached : e.detachment = some h) (device : e.deviceId = some n) :
    (h, ⟨n⟩) ∈ attachments i (tr ++ out) := by
  rw [attachments_own own]
  rw [entries_of_append, own] at logged
  rcases List.mem_append.mp logged with old | new
  · exact List.mem_append_left _ (hs.named e old h n detached device)
  · exact List.mem_append_left _ (hs.known (books.named e new h n detached device))

theorem step_past (hs : Accounting texts tr s.manager removed i c)
    (ledgered : Ledgered (effectsOf tr) s)
    (books : Books s.manager c d removed removed' entries lost) (own : entriesOf i out = entries)
    (detached : h ∈ detachments i (tr ++ out)) : h.val < s.manager.nextHandleId := by
  rw [detachments_own own] at detached
  rcases List.mem_append.mp detached with old | new
  · exact hs.past h old
  · rcases books.past h new with busy | dead
    · obtain ⟨-, id, -, logged⟩ := hs.taken h busy
      have granted : (h, id) ∈ grantsOn i (effectsOf tr) := by
        rw [hs.granted]
        exact List.mem_append_left _ logged
      exact granted_below ledgered granted
    · exact dead.2

theorem step_apart (hs : Accounting texts tr m removed i c)
    (books : Books m c d removed removed' entries lost) (own : entriesOf i out = entries)
    {p : DeviceHandle × DeviceId} (flying : p ∈ d.inFlight) :
    p.1 ∉ detachments i (tr ++ out) := by
  intro detached
  rw [detachments_own own] at detached
  have flight : p ∈ c.inFlight := by
    rw [books.flight]
    exact List.mem_append_right _ flying
  rcases List.mem_append.mp detached with old | new
  · exact hs.apart p flight old
  · rcases books.alone with none | idle
    · rw [none] at new
      exact absurd new List.not_mem_nil
    · rw [idle] at flying
      exact absurd flying List.not_mem_nil

/-- The books of one step, added to the account. -/
theorem step (hs : Accounting texts tr s.manager removed i c)
    (ledgered : Ledgered (effectsOf tr) s)
    (books : Books s.manager c d removed removed' entries lost)
    (own : entriesOf i out = entries) (gone : lostHandles i out = lost)
    (granted : grantsOn i (effectsOf out) = [])
    (bracketed : ∃ (opened closed : ClockReading) (middle : List AuditEntry),
      entriesOf i (tr ++ out) = texts.logClientConnected opened d.endpointId.text none :: (middle ++
        if d.stopped then [texts.logClientDisconnected closed d.endpointId.text none] else []) ∧
      ∀ e ∈ middle, e.endpointId = some d.endpointId.text ∧
        (e.eventType = .deviceAttach ∨ e.eventType = .deviceDetach)) :
    Accounting texts (tr ++ out) s.manager removed' i d where
  bracketed := bracketed
  granted := by
    rw [effects_of_append, grants_on_append, granted, List.append_nil, attachments_own own,
      hs.granted, books.flight, List.append_assoc]
  kept := fun h id there => hs.step_kept books own there
  ended := fun p logged => hs.step_ended books own gone logged
  named := fun e logged h id detached device => hs.step_named books own logged detached device
  past := fun h detached => hs.step_past ledgered books own detached
  apart := fun p flying => hs.step_apart books own flying
  taken := by
    intro h busy
    obtain ⟨apart, id, was, source⟩ := books.taken h busy
    rw [attachments_own own]
    exact ⟨apart, id, was, List.mem_append_left _ (hs.known source)⟩

end Step

/-- The reply to a command of the connection itself. -/
theorem answered {q : QueuedCommand} {env : UsbEnv}
    (hs : Accounting texts tr s.manager removed q.conn c)
    (waits : QueuedOk (effectsOf tr) q c) :
    Accounting texts
      (tr ++ (.answered q.conn q.token q.cmd (s.manager.handleCommandInner env q.cmd).1 ::
        Server.executions s.manager q).map .shown)
      (s.manager.handleCommandInner env q.cmd).2 removed q.conn
      (c.receive q.token (s.manager.handleCommandInner env q.cmd).1) := by
  have update := s.manager.handle_command_update env q.cmd
  have executed : grantsOn q.conn (Server.executions s.manager q) = [] :=
    congrArg (List.filterMap _) (grants_executions s.manager q)
  have shown : ∀ reply, grantsOn q.conn (effectsOf ((.answered q.conn q.token q.cmd reply ::
      Server.executions s.manager q).map .shown)) =
        grantsOn q.conn [.answered q.conn q.token q.cmd reply] := by
    intro reply
    rw [effects_shown, ← List.singleton_append, grants_on_append, executed, List.append_nil]
  rcases s.manager.handle_command_attached env q.cmd with
    ⟨id, client, attach, reply, -, -⟩ | ⟨refused, -⟩
  · obtain ⟨next, at', sent⟩ : ∃ next, c.phase = .awaiting q.token next none ∧ next.Sent q.cmd := by
      rcases waits.waits with waiting | ⟨⟨h, detach⟩, -⟩
      · exact waiting
      · cases attach.symm.trans detach
    obtain ⟨info, rfl⟩ := (attach ▸ sent : next.Sent (.attachDevice id client)).to_attach
    rcases c.receive_cases q.token (.attached (.ok ⟨s.manager.nextHandleId⟩)) with
      ⟨-, idle⟩ | ⟨next, at'', here⟩
    · exact absurd at' (idle _)
    · obtain rfl := (Phase.awaiting.inj (at'.symm.trans at'')).2.1
      have one : grantsOn q.conn (effectsOf ((.answered q.conn q.token q.cmd
          (.attached (.ok ⟨s.manager.nextHandleId⟩)) :: Server.executions s.manager q).map
            .shown)) = [(⟨s.manager.nextHandleId⟩, id)] := by
        rw [shown, attach]
        exact congrArg Option.toList (if_pos rfl)
      rw [reply, here]
      refine hs.receive .shown one update.counters.2 (List.forall_mem_singleton.mpr rfl) ?_ rfl rfl
        ?_ ?_ ?_
      · rw [ClientConnection.inFlight, ClientConnection.inFlight, at']
        rfl
      · rw [ClientConnection.expiring, ClientConnection.expiring, at']
      · rw [ClientConnection.inLoop, ClientConnection.inLoop, at']
      · rw [ClientConnection.stopped, ClientConnection.stopped, at']
  · have none : grantsOn q.conn [.answered q.conn q.token q.cmd
        (s.manager.handleCommandInner env q.cmd).1] = [] := by
      rw [grantsOn, grants, List.filterMap_cons, Effect.grant_eq_none refused]
      rfl
    rcases c.receive_cases q.token (s.manager.handleCommandInner env q.cmd).1 with
      ⟨same, -⟩ | ⟨next, at', here⟩
    · rw [same]
      exact hs.frame .shown ((shown _).trans none) update.counters.2
    · rw [here]
      refine hs.receive .shown ((shown _).trans none) update.counters.2 (List.forall_mem_nil _) ?_
        rfl rfl ?_ ?_ ?_
      · rw [List.append_nil, ClientConnection.inFlight, ClientConnection.inFlight, at']
        dsimp only
        split
        case h_1 wrong => exact absurd (Option.some.inj (Phase.awaiting.inj wrong).2.2) (refused _)
        case h_2 => cases next <;> rfl
      · rw [ClientConnection.expiring, ClientConnection.expiring, at']
        cases next <;> rfl
      · rw [ClientConnection.inLoop, ClientConnection.inLoop, at']
        cases next <;> rfl
      · rw [ClientConnection.stopped, ClientConnection.stopped, at']

end Accounting

/-- All that a step of the machine shows and remembers beside the server's. -/
inductive AuditStep (texts : AuditTexts) (engine : PolicyEngine) (x : AuditedServer) :
    Action → AuditedServer → List AuditReport → Prop
  | connect (i : ConnId) (endpointId : EndpointId) (free : i ∉ x.server.conns) :
      AuditStep texts engine x (.connect i endpointId)
        ⟨x.server.setConn i (.new endpointId x.server.clock.instant), x.removed⟩
        [.logged i (texts.logClientConnected x.server.clock endpointId.text none)]
  | connection (i : ConnId) (action : ConnectionAction) (c : ClientConnection) (t : Server)
      (effects : List Effect) (found : x.server.conns.lookup i = some c)
      (step : x.server.connectionStep engine i c action = some (t, effects)) :
      AuditStep texts engine x (.connection i action) ⟨t, x.remember i t⟩
        (x.reports texts engine i action t ++ effects.map .shown)
  | elsewhere (a : Action) (t : Server) (effects : List Effect)
      (other : ∀ i action, a ≠ .connection i action)
        (old : ∀ i endpointId, a ≠ .connect i endpointId)
      (moved : x.server.step engine a = some (t, effects)) :
      AuditStep texts engine x a ⟨t, x.removed⟩ (effects.map .shown)

section
variable {texts : AuditTexts} {engine : PolicyEngine} {tr out : List AuditReport}
  {x y : AuditedServer} {a : Action}

theorem audit_step_cases (step : (auditing texts engine).step x a = some (y, out)) :
    AuditStep texts engine x a y out := by
  obtain ⟨⟨t, effects⟩, moved, same⟩ := Option.map_eq_some_iff.mp step
  cases a with
  | connect i endpointId =>
      obtain ⟨rfl, rfl⟩ := Prod.mk.inj same
      simp only [Server.step] at moved
      split at moved
      · cases moved
      case isFalse free =>
        obtain ⟨rfl, rfl⟩ := Prod.mk.inj (Option.some.inj moved)
        exact .connect i endpointId free
  | connection i action =>
      obtain ⟨rfl, rfl⟩ := Prod.mk.inj same
      obtain ⟨c, found, moved⟩ := Option.bind_eq_some_iff.mp moved
      exact .connection i action c t effects found moved
  | tick | command | hotplug | collect | fire | emit | monitorTick | monitorExpire =>
      obtain ⟨rfl, rfl⟩ := Prod.mk.inj same
      exact .elsewhere _ t effects (fun _ _ => Action.noConfusion) (fun _ _ => Action.noConfusion)
        moved

theorem effects_of_reports (i : ConnId) (action : ConnectionAction) (t : Server) :
    effectsOf (x.reports texts engine i action t) = [] := by
  unfold AuditedServer.reports
  split
  · exact effects_logged
  · rfl

/-- The run without its log is a run of the server. -/
theorem server_reach {s₀ : Server} (run : (auditing texts engine).Reach (.new s₀) tr x) :
    (server engine).Reach s₀ (effectsOf tr) x.server := by
  refine run.projects (f := AuditedServer.server) fun x a y out step => ?_
  change (server engine).Reach x.server (effectsOf out) y.server
  cases audit_step_cases step with
  | connect i endpointId free =>
      have moved : (server engine).step x.server (.connect i endpointId) = some (_, []) :=
        if_neg free
      exact .of_step moved
  | connection i action c t effects found handled =>
      rw [effects_of_append, effects_of_reports, effects_shown, List.nil_append]
      have moved : (server engine).step x.server (.connection i action) = some (t, effects) :=
        Option.bind_eq_some_iff.mpr ⟨c, found, handled⟩
      exact .of_step moved
  | elsewhere a t effects other old moved =>
      rw [effects_shown]
      exact .of_step moved

/-- The accounts of all connections; nothing is logged of any other. -/
structure Accounts (texts : AuditTexts) (tr : List AuditReport) (x : AuditedServer) : Prop where
  conns : ∀ i c, x.server.conns.lookup i = some c →
    Accounting texts tr x.server.manager (x.removed i) i c
  strangers : ∀ i, i ∉ x.server.conns → Unlogged i tr

namespace Accounts

theorem connect (hs : Accounts texts tr x) (authority : Authority engine (effectsOf tr) x.server)
    {i : ConnId} (endpointId : EndpointId) (free : i ∉ x.server.conns) :
    Accounts texts
      (tr ++ [.logged i (texts.logClientConnected x.server.clock endpointId.text none)])
      ⟨x.server.setConn i (.new endpointId x.server.clock.instant), x.removed⟩ := by
  have silent : ∀ j, i ≠ j → Unlogged j
      [.logged i (texts.logClientConnected x.server.clock endpointId.text none)] :=
    fun j other => @Unlogged.other j i [_] [] other
  constructor
  · intro j c there
    rcases AList.lookup_insert_eq_some.mp there with ⟨rfl, rfl⟩ | ⟨other, old⟩
    · exact .new (hs.strangers j free) free authority endpointId
    · exact (hs.conns j c old).frame (silent j (Ne.symm other)) rfl le_rfl
  · intro j absent
    have both := mt (AList.mem_insert _).mpr absent
    rw [not_or] at both
    exact (hs.strangers j both.2).append (silent j (Ne.symm both.1))

theorem connection (hs : Accounts texts tr x)
    (authority : Authority engine (effectsOf tr) x.server) {i : ConnId} {action : ConnectionAction}
    {c : ClientConnection} {t : Server} {effects : List Effect}
    (found : x.server.conns.lookup i = some c)
    (step : x.server.connectionStep engine i c action = some (t, effects)) :
    Accounts texts (tr ++ (x.reports texts engine i action t ++ effects.map .shown))
      ⟨t, x.remember i t⟩ := by
  have mine := hs.conns i c found
  have taken : ∀ h, c.expiring = some h → h ∉ c.attachedDevices ∧ ∃ id, x.removed i = some id :=
    fun h busy => (mine.taken h busy).imp id fun ⟨id, was, _⟩ => ⟨id, was⟩
  obtain ⟨d, handled⟩ : ∃ d, Handled texts x.server i c (x.removed i)
      (c.audit texts engine x.server.clock (x.removed i) action) (c.autoDetached · action) t effects
      d := connection_step_handled (authority.conns i c found) taken step
  have now : t.conns.lookup i = some d := by rw [handled.conns, AList.lookup_insert]
  have reports : x.reports texts engine i action t =
      (c.audit texts engine x.server.clock (x.removed i) action ++
        d.closingAudit texts x.server.clock).map (.logged i) ++
      (c.autoDetached d action).map (.autoDetached i) := by
    unfold AuditedServer.reports
    rw [found, now]
  have remembered : x.remember i t =
      Function.update x.removed i (c.remembers d (x.removed i)) := by
    unfold AuditedServer.remember
    rw [found, now]
  have own : entriesOf i (x.reports texts engine i action t ++ effects.map .shown) =
      c.audit texts engine x.server.clock (x.removed i) action ++
        d.closingAudit texts x.server.clock := by
    rw [entries_of_append, reports, entries_own, Unlogged.shown.entries, List.append_nil]
  have gone : lostHandles i (x.reports texts engine i action t ++ effects.map .shown) =
      c.autoDetached d action := by
    rw [lost_handles_append, reports, lost_own, Unlogged.shown.lost, List.append_nil]
  have granted : ∀ j, grantsOn j
      (effectsOf (x.reports texts engine i action t ++ effects.map .shown)) = [] := by
    intro j
    rw [effects_of_append, effects_of_reports, effects_shown, List.nil_append, grantsOn,
      handled.granted]
    rfl
  have silent : ∀ j, i ≠ j →
      Unlogged j (x.reports texts engine i action t ++ effects.map .shown) := by
    intro j other
    rw [reports]
    exact (Unlogged.other other).append .shown
  constructor
  · intro j c' there
    rw [handled.conns] at there
    rw [handled.manager, remembered]
    rcases AList.lookup_insert_eq_some.mp there with ⟨rfl, rfl⟩ | ⟨other, old⟩
    · dsimp only
      rw [Function.update_self]
      refine mine.step authority.ledgered handled.books own gone (granted j) ?_
      obtain ⟨opened, closed, middle, whole, devices⟩ := mine.bracketed
      refine ⟨opened, x.server.clock,
        middle ++ c.audit texts engine x.server.clock (x.removed j) action, ?_, ?_⟩
      · rw [entries_of_append, whole, own, handled.running, handled.client]
        rw [if_neg Bool.false_ne_true, List.append_nil, ClientConnection.closingAudit,
          handled.client, List.cons_append, List.append_assoc]
      · rw [handled.client]
        exact List.forall_mem_append.mpr ⟨devices, audit_own texts engine _ _ c action⟩
    · dsimp only
      rw [Function.update_of_ne other]
      exact (hs.conns j c' old).frame (silent j (Ne.symm other)) (granted j) le_rfl
  · intro j absent
    rw [handled.conns] at absent
    have both := mt (AList.mem_insert _).mpr absent
    rw [not_or] at both
    exact (hs.strangers j both.2).append (silent j (Ne.symm both.1))

theorem elsewhere (hs : Accounts texts tr x)
    (authority : Authority engine (effectsOf tr) x.server) {t : Server} {effects : List Effect}
    (other : ∀ i action, a ≠ .connection i action) (old : ∀ i endpointId, a ≠ .connect i endpointId)
    (step : Transition engine x.server a t effects) :
    Accounts texts (tr ++ effects.map .shown) ⟨t, x.removed⟩ := by
  have update := step.update
  -- a step of the monitor or of the worker that no handler notices
  have quiet : ∀ {t : Server}, t.conns = x.server.conns → x.server.manager.Update t.manager →
      Accounts texts (tr ++ ([] : List Effect).map .shown) ⟨t, x.removed⟩ := by
    intro t conns update
    constructor
    · intro i c there
      rw [conns] at there
      exact (hs.conns i c there).frame .shown rfl update.counters.2
    · intro i absent
      rw [conns] at absent
      exact (hs.strangers i absent).append .shown
  cases step with
  | monitor | emit => exact quiet rfl update
  | worker | fire => exact quiet rfl update
  | connect i endpointId => exact absurd rfl (old i endpointId)
  | handler i action => exact absurd rfl (other i action)
  | enqueue i action => exact absurd rfl (other i action)
  | command env q rest head =>
      obtain ⟨c, found, waits⟩ := authority.queue q (head ▸ List.mem_cons_self)
      constructor
      · intro i d there
        rw [x.server.lookup_deliver] at there
        obtain ⟨c', found', rfl⟩ := Option.map_eq_some_iff.mp there
        split
        case isTrue same =>
          subst same
          obtain rfl := Option.some.inj (found.symm.trans found')
          exact (hs.conns q.conn c found).answered waits
        case isFalse different =>
          refine (hs.conns i c' found').frame .shown ?_ update.counters.2
          rw [effects_shown]
          refine List.filterMap_eq_nil_iff.mpr fun p mem => if_neg fun own => different ?_
          rcases List.mem_cons.mp (mem_grants.mp mem) with here | executed
          · exact own.symm.trans (Effect.answered.inj here).1
          · obtain ⟨_, _, _, wrong⟩ := executed_of_mem executed
            cases wrong
      · intro i absent
        refine (hs.strangers i fun there => absent ?_).append .shown
        obtain ⟨d, held⟩ := AList.mem_iff.mp there
        have kept := x.server.lookup_deliver q
          (x.server.manager.handleCommandInner { env with now := x.server.clock.instant } q.cmd).1 i
        rw [held] at kept
        exact AList.mem_of_lookup kept

theorem next (hs : Accounts texts tr x) (authority : Authority engine (effectsOf tr) x.server)
    (step : AuditStep texts engine x a y out) : Accounts texts (tr ++ out) y := by
  cases step with
  | connect i endpointId free => exact hs.connect authority endpointId free
  | connection i action c t effects found step => exact hs.connection authority found step
  | elsewhere a t effects other old moved =>
      exact hs.elsewhere authority other old (Server.step_cases moved)

theorem reach {filters : List String} {config : SharingConfig} {devices : List RusbDevice}
    {clock : ClockReading}
    (run : (auditing texts engine).Reach (.new (.new filters config devices clock)) tr x) :
    Accounts texts tr x := by
  refine run.invariantAlong ⟨fun i c wrong => (nomatch wrong), fun _ _ => ⟨rfl, rfl⟩⟩ ?_
  intro tr x a y out before hs _ step
  exact hs.next (Authority.reach (server_reach before)) (audit_step_cases step)

end Accounts

/-- Whatever the order of messages, commands, events and expiry checks, the log of a connection
lies between its beginning and its end, each grant that the handler has read is in it once, and
each attachment in it is in the map still, has its end in the log, went with its device or is
about to be ended, as long as the handler is in its loop. -/
theorem audit_accounts {filters : List String} {config : SharingConfig}
    {devices : List RusbDevice} {clock : ClockReading}
    (run : (auditing texts engine).Reach (.new (.new filters config devices clock)) tr x)
    {i : ConnId} {c : ClientConnection} (found : x.server.conns.lookup i = some c) :
    Accounted texts tr i c :=
  ((Accounts.reach run).conns i c found).toAccounted

/-- A handle is attached and given back, and the connection ends. -/
theorem audit_accounts_detached : ∃ tr x c,
    (auditing ⟨fun _ => "", fun _ => "", fun _ => ""⟩ ⟨[], 0⟩).Reach
      (.new (Server.oneDevice .exclusive)) tr x ∧ x.server.conns.lookup 0 = some c ∧
    (entriesOf 0 tr).map AuditEntry.eventType =
      [.clientConnected, .deviceAttach, .deviceDetach, .clientDisconnected] ∧
    Accounted ⟨fun _ => "", fun _ => "", fun _ => ""⟩ tr 0 c := by
  have run := Machine.Reach.of_run (rfl :
    (auditing ⟨fun _ => "", fun _ => "", fun _ => ""⟩ ⟨[], 0⟩).run
      (.new (Server.oneDevice .exclusive))
      (Server.attachRun 0 "a" ++ Server.requestRun 0 (.detachDeviceRequest ⟨1⟩) ++ Server.serve ++
        [.connection 0 .resume, .connection 0 (.disconnect [])]) = some (_, _))
  exact ⟨_, _, _, run, rfl, rfl, audit_accounts run rfl⟩

end

end P2pUsb
