import Mathlib.Data.List.TakeWhile
import P2pUsb.Network.AuditAccounts

/-! The server with its audit trail behind it: no attachment without an entry. -/
namespace P2pUsb

structure RecordedServer where
  audited : AuditedServer
  trail : AuditTrail

/-- What the other callers of the logger do is among the actions of the trail. -/
inductive RecordedAction where
  | server (action : Action)
  | trail (action : TrailAction)

inductive RecordedEvent where
  | server (report : AuditReport)
  | trail (event : TrailEvent)

def AuditReport.logEntry : AuditReport → Option AuditEntry
  | .logged _ entry => some entry
  | _ => none

/-- Each entry is logged in the step that makes it; the task of the writer goes on by itself. -/
def recording (texts : AuditTexts) (engine : PolicyEngine) (line : AuditEntry → LogLine) :
    Machine RecordedServer RecordedAction RecordedEvent where
  step x
    | .server action => ((auditing texts engine).step x.audited action).map fun next =>
        let entries := next.2.filterMap AuditReport.logEntry
        (⟨next.1, entries.foldl AuditTrail.log x.trail⟩,
          next.2.map .server ++ entries.map fun entry => .trail (.logged entry))
    | .trail action => ((auditTrail line).step x.trail action).map fun next =>
        (⟨x.audited, next.1⟩, next.2.map .trail)

namespace RecordedEvent

def report : RecordedEvent → Option AuditReport
  | .server report => some report
  | .trail _ => none

def trailEvent : RecordedEvent → Option TrailEvent
  | .server _ => none
  | .trail event => some event

end RecordedEvent

namespace RecordedServer
variable {texts : AuditTexts} {engine : PolicyEngine} {line : AuditEntry → LogLine}
  {x y s₀ : RecordedServer} {tr : List RecordedEvent}

theorem server_part (run : (recording texts engine line).Reach s₀ tr x) :
    (auditing texts engine).Reach s₀.audited (tr.filterMap RecordedEvent.report) x.audited := by
  refine run.projects (f := audited) fun x a y out step => ?_
  cases a with
  | server action =>
      obtain ⟨⟨t, reports⟩, moved, same⟩ := Option.map_eq_some_iff.mp step
      obtain ⟨rfl, rfl⟩ := Prod.mk.inj same
      have shown : ∀ r, RecordedEvent.report (.server r) = some r := fun _ => rfl
      rw [List.filterMap_append, filter_map_some shown, filter_map_none fun _ => rfl,
        List.append_nil]
      exact .of_step moved
  | trail action =>
      obtain ⟨⟨t, events⟩, moved, same⟩ := Option.map_eq_some_iff.mp step
      obtain ⟨rfl, rfl⟩ := Prod.mk.inj same
      rw [filter_map_none fun _ => rfl]
      exact .start

/-- The entries of one step are logged one after the other. -/
theorem log_all (trail : AuditTrail) (entries : List AuditEntry) :
    (auditTrail line).Reach trail (entries.map .logged) (entries.foldl AuditTrail.log trail) := by
  induction entries generalizing trail with
  | nil => exact .start
  | cons entry rest ih =>
      have first : (auditTrail line).Reach trail [.logged entry] (trail.log entry) :=
        .of_step (a := .log entry) rfl
      exact first.trans (ih (trail.log entry))

theorem trail_part (run : (recording texts engine line).Reach s₀ tr x) :
    (auditTrail line).Reach s₀.trail (tr.filterMap RecordedEvent.trailEvent) x.trail := by
  refine run.projects (f := trail) fun x a y out step => ?_
  cases a with
  | server action =>
      obtain ⟨⟨t, reports⟩, moved, same⟩ := Option.map_eq_some_iff.mp step
      obtain ⟨rfl, rfl⟩ := Prod.mk.inj same
      have logged : ∀ entries : List AuditEntry,
          (entries.map fun entry => RecordedEvent.trail (.logged entry)).filterMap
            RecordedEvent.trailEvent = entries.map .logged := by
        intro entries
        rw [List.filterMap_map]
        exact congrFun (List.filterMap_eq_map (f := TrailEvent.logged)) entries
      rw [List.filterMap_append, filter_map_none fun _ => rfl, List.nil_append, logged]
      exact log_all x.trail _
  | trail action =>
      obtain ⟨⟨t, events⟩, moved, same⟩ := Option.map_eq_some_iff.mp step
      obtain ⟨rfl, rfl⟩ := Prod.mk.inj same
      have shown : ∀ e, RecordedEvent.trailEvent (.trail e) = some e := fun _ => rfl
      rw [filter_map_some shown]
      exact .of_step moved

/-- What the handlers log is handed to the logger, in order, between what others log. -/
theorem handed_on (run : (recording texts engine line).Reach s₀ tr x) :
    ((tr.filterMap RecordedEvent.report).filterMap AuditReport.logEntry).Sublist
      ((tr.filterMap RecordedEvent.trailEvent).filterMap TrailEvent.entry) := by
  refine run.invariant (I := fun tr _ =>
    ((tr.filterMap RecordedEvent.report).filterMap AuditReport.logEntry).Sublist
      ((tr.filterMap RecordedEvent.trailEvent).filterMap TrailEvent.entry)) .slnil ?_
  intro tr x a y out hs _ step
  simp only [List.filterMap_append]
  refine hs.append ?_
  cases a with
  | server action =>
      obtain ⟨⟨t, reports⟩, moved, same⟩ := Option.map_eq_some_iff.mp step
      obtain ⟨rfl, rfl⟩ := Prod.mk.inj same
      have shown : ∀ r, RecordedEvent.report (.server r) = some r := fun _ => rfl
      have logged : (((reports.filterMap AuditReport.logEntry).map fun entry =>
          RecordedEvent.trail (.logged entry)).filterMap RecordedEvent.trailEvent).filterMap
            TrailEvent.entry = reports.filterMap AuditReport.logEntry := by
        rw [List.filterMap_filterMap, List.filterMap_map]
        exact List.filterMap_some
      simp only [List.filterMap_append]
      rw [filter_map_some shown, logged, filter_map_none fun _ => rfl, List.filterMap_nil,
        List.append_nil]
      exact List.sublist_append_right _ _
  | trail action =>
      obtain ⟨⟨t, events⟩, moved, same⟩ := Option.map_eq_some_iff.mp step
      obtain ⟨rfl, rfl⟩ := Prod.mk.inj same
      rw [filter_map_none fun _ => rfl]
      exact List.nil_sublist _

/-- The trail of a logger that is not shut down holds everything at its level. -/
theorem kept_of_open {trail : AuditTrail} {events : List TrailEvent}
    (delivered : AuditTrail.Delivered events trail)
    (running : ∀ e ∈ events, e.isClosing = false) {entry : AuditEntry}
    (logged : entry ∈ events.filterMap TrailEvent.entry)
    (wanted : trail.level.shouldLog entry.eventType = true) :
    entry ∈ wrote events ++ waiting trail.channel := by
  rw [delivered.balance]
  have whole : loggedInTime events = events.filterMap TrailEvent.entry := by
    rw [loggedInTime, partsUntil, List.takeWhile_eq_self_iff.mpr]
    intro e mem
    rw [running e mem]
    rfl
  rw [whole]
  exact List.mem_filter.mpr ⟨logged, wanted⟩

theorem log_entry_of_entry {i : ConnId} {report : AuditReport} {entry : AuditEntry}
    (own : report.entry i = some entry) : report.logEntry = some entry := by
  unfold AuditReport.entry at own
  split at own
  · split at own
    · exact own
    · cases own
  · cases own

theorem attachment_event {entry : AuditEntry} {p : DeviceHandle × DeviceId}
    (attached : entry.attachment = some p) : entry.eventType = .deviceAttach := by
  unfold AuditEntry.attachment at attached
  split at attached
  · rfl
  · cases attached

/-- An attachment in the log of a connection is under the name of its client. -/
theorem attachment_entry {reports : List AuditReport} {i : ConnId} {c : ClientConnection}
    (account : Accounted texts reports i c) {p : DeviceHandle × DeviceId}
    (logged : p ∈ attachments i reports) :
    ∃ entry ∈ entriesOf i reports, entry.endpointId = some c.endpointId.text ∧
      entry.attachment = some p := by
  obtain ⟨entry, mem, attached⟩ := List.mem_filterMap.mp logged
  refine ⟨entry, mem, ?_, attached⟩
  obtain ⟨opened, closed, middle, whole, devices⟩ := account.bracketed
  rw [whole] at mem
  rcases List.mem_cons.mp mem with rfl | mem
  · cases attached
  rcases List.mem_append.mp mem with device | last
  · exact (devices entry device).1
  · split at last
    · obtain rfl := List.mem_singleton.mp last
      cases attached
    · exact absurd last List.not_mem_nil

end RecordedServer

/-- At any time in any run, every attachment of the registry has its entry in the audit log, on
disk or in the channel of the logger, or else the reply that grants it is still to be read. -/
theorem attachments_on_record {texts : AuditTexts} {engine : PolicyEngine}
    {line : AuditEntry → LogLine} {filters : List String} {sharing : SharingConfig}
    {devices : List RusbDevice} {clock : ClockReading} {level : AuditLevel} {config : AuditConfig}
    {directory : LogDirectory} {tr : List RecordedEvent} {x : RecordedServer}
    (run : (recording texts engine line).Reach
      ⟨.new (.new filters sharing devices clock), .new level config directory⟩ tr x)
    (wanted : level.shouldLog .deviceAttach = true)
    (running : ∀ e ∈ tr.filterMap RecordedEvent.trailEvent, e.isClosing = false)
    {h : DeviceHandle} {id : DeviceId} {client : String}
    (held : x.audited.server.manager.attached.lookup h = some (id, client)) :
    ∃ i c, x.audited.server.conns.lookup i = some c ∧ c.endpointId.text = client ∧
      ((h, id) ∈ c.inFlight ∨
        ∃ entry ∈ wrote (tr.filterMap RecordedEvent.trailEvent) ++ waiting x.trail.channel,
          entry.endpointId = some client ∧ entry.attachment = some (h, id)) := by
  have audited := RecordedServer.server_part run
  have authority := Authority.reach (server_reach audited)
  obtain ⟨g, granted, same⟩ := authority.ledgered.valid.backed h (id, client) held
  obtain ⟨rfl, rfl⟩ := Prod.mk.inj same
  obtain ⟨-, c, found, own⟩ := authority.justified h g granted
  refine ⟨g.conn, c, found, own.symm, ?_⟩
  have account := (Accounts.reach audited).conns g.conn c found
  have mine : (h, g.deviceId) ∈ grantsOn g.conn
      (effectsOf (tr.filterMap RecordedEvent.report)) :=
    List.mem_filterMap.mpr ⟨(h, g), granted, if_pos rfl⟩
  rw [account.granted] at mine
  rcases List.mem_append.mp mine with logged | flying
  · obtain ⟨entry, mem, client, attached⟩ :=
      RecordedServer.attachment_entry account.toAccounted logged
    have passed : entry ∈ (tr.filterMap RecordedEvent.report).filterMap AuditReport.logEntry := by
      obtain ⟨report, shown, own⟩ := List.mem_filterMap.mp mem
      exact List.mem_filterMap.mpr ⟨report, shown, RecordedServer.log_entry_of_entry own⟩
    have trail := RecordedServer.trail_part run
    obtain ⟨same, delivered⟩ := AuditTrail.Delivered.reach trail
    refine .inr ⟨entry, ?_, own ▸ client, attached⟩
    refine RecordedServer.kept_of_open delivered running
      ((RecordedServer.handed_on run).subset passed) ?_
    rw [same, RecordedServer.attachment_event attached]
    exact wanted
  · exact .inl flying

/-- The device is attached; the writer has received the first entry. -/
theorem attachments_on_record_attach : ∃ tr x,
    (recording ⟨fun _ => "", fun _ => "", fun _ => ""⟩ ⟨[], 0⟩ fun _ => []).Reach
      ⟨.new (Server.oneDevice .exclusive), .new .standard AuditWriter.twoFiles ∅⟩ tr x ∧
    x.audited.server.manager.attached.lookup ⟨1⟩ = some (⟨1⟩, "a") ∧
    ∃ i c, x.audited.server.conns.lookup i = some c ∧ c.endpointId.text = "a" ∧
      ((⟨1⟩, ⟨1⟩) ∈ c.inFlight ∨
        ∃ entry ∈ wrote (tr.filterMap RecordedEvent.trailEvent) ++ waiting x.trail.channel,
          entry.endpointId = some "a" ∧ entry.attachment = some (⟨1⟩, ⟨1⟩)) := by
  have run := Machine.Reach.of_run (rfl :
    (recording ⟨fun _ => "", fun _ => "", fun _ => ""⟩ ⟨[], 0⟩ fun _ => []).run
      ⟨.new (Server.oneDevice .exclusive), .new .standard AuditWriter.twoFiles ∅⟩
      ((Server.attachRun 0 "a").map .server ++ [.trail .receive]) = some (_, _))
  exact ⟨_, _, run, rfl, attachments_on_record run rfl (by decide) rfl⟩

end P2pUsb
