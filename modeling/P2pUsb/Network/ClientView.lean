import P2pUsb.Network.DeviceNews

/-! What a client knows of the devices is what the server has, up to what is on its way. -/
namespace P2pUsb
open Replay

/-! ### The view of one client -/

/-- What is so of the client that has `k` in view, once it has heard of all the news. -/
structure View (tr : List Effect) (m : DeviceManager) (i : ConnId) (news : List UsbEvent)
    (k : KnownDevices) : Prop where
  spoken : ∀ event ∈ news, m.Spoken event
  settled : news.Pairwise fun event later =>
    event.tells event.deviceId = some false → later.deviceId ≠ event.deviceId
  told : Told UsbEvent.tells news (· ∈ m.deviceIds)
  known : Listed tr i → Covers UsbEvent.tells news (· ∈ k.known) (· ∈ m.deviceIds) ∧
    ∀ info ∈ k.devices, m.InfoOk info
  detached : ∀ h ∈ k.detached, m.Dead h
  complete : ∀ h g, (h, g) ∈ grants tr →
    h ∈ m.attached ∨ Returned tr h ∨ h ∈ k.detached ∨ ∃ event ∈ news, h ∈ event.invalidatedHandles

/-- A list that waits for the handler is as good as one of the present. -/
def Snapshot (m : DeviceManager) (news : List UsbEvent) (c : ClientConnection) : Prop :=
  ∀ token devices, c.phase = .awaiting token .listDevices (some (.devices devices)) →
    Covers UsbEvent.tells news (· ∈ devices.map DeviceInfo.id) (· ∈ m.deviceIds) ∧
      ∀ info ∈ devices, m.InfoOk info

theorem Returned.mono {tr out : List Effect} {h : DeviceHandle} (returned : Returned tr h) :
    Returned (tr ++ out) h :=
  returned.imp fun _ => Exists.imp fun _ => List.mem_append_left out

theorem listed_append {tr out : List Effect} {i : ConnId} (silent : ¬ Listed out i) :
    Listed (tr ++ out) i ↔ Listed tr i := by
  refine ⟨fun ⟨devices, mem⟩ => ?_, fun ⟨devices, mem⟩ => ⟨devices, List.mem_append_left _ mem⟩⟩
  exact (List.mem_append.mp mem).elim (fun old => ⟨devices, old⟩)
    fun new => absurd ⟨devices, new⟩ silent

namespace View
variable {tr out : List Effect} {m m' : DeviceManager} {i : ConnId} {news : List UsbEvent}
  {k k' : KnownDevices} {event : UsbEvent}

theorem start (m : DeviceManager) : View [] m i [] ⟨[], []⟩ where
  spoken _ wrong := absurd wrong List.not_mem_nil
  settled := .nil
  told := .nil
  known := fun ⟨_, wrong⟩ => absurd wrong List.not_mem_nil
  detached _ wrong := absurd wrong List.not_mem_nil
  complete _ _ wrong := absurd wrong List.not_mem_nil

/-- What the client has known from earlier does not matter. -/
theorem unlisted (view : View tr m i news k) (unlisted : ¬ Listed tr i)
    (same : k'.detached = k.detached) : View tr m i news k' where
  spoken := view.spoken
  settled := view.settled
  told := view.told
  known listed := absurd listed unlisted
  detached := same ▸ view.detached
  complete := same ▸ view.complete

/-- The registry goes on to have the same devices. -/
theorem frame (view : View tr m i news k) (silent : ¬ Listed out i)
    (update : m.Update m') (ids : ∀ d, d ∈ m'.deviceIds ↔ d ∈ m.deviceIds)
    (kept : ∀ h g, (h, g) ∈ grants (tr ++ out) →
      h ∈ m'.attached ∨ Returned (tr ++ out) h ∨ (∃ g, (h, g) ∈ grants tr) ∧ h ∉ m.attached) :
    View (tr ++ out) m' i news k where
  spoken event mem := (view.spoken event mem).update update
  settled := view.settled
  told d b last := (view.told d b last).trans (ids d).symm
  known listed := by
    obtain ⟨covers, ok⟩ := view.known ((listed_append silent).mp listed)
    exact ⟨covers.congr ids, fun info mem => (ok info mem).update update⟩
  detached h told := (view.detached h told).update update
  complete h g granted := by
    rcases kept h g granted with held | returned | ⟨⟨g, old⟩, gone⟩
    · exact .inl held
    · exact .inr (.inl returned)
    · rcases view.complete h g old with held | returned | rest
      · exact absurd held gone
      · exact .inr (.inl returned.mono)
      · exact .inr (.inr rest)

/-- The worker has said what has become of the registry. -/
theorem produced (view : View tr m i news k) (hm : m.RegistryInv) (update : m.Update m')
    (reports : m.Reports m' event) : View tr m' i (news ++ [event]) k where
  spoken e mem := by
    rcases List.mem_append.mp mem with old | new
    · exact (view.spoken e old).update update
    · exact List.mem_singleton.mp new ▸ reports.spoken
  settled := by
    refine List.pairwise_append.mpr ⟨view.settled, List.pairwise_singleton _ _, ?_⟩
    intro old mem e new said same
    rw [List.mem_singleton.mp new] at same
    -- a device that has left is neither registered nor ever registered again
    have gone : m.Known old.deviceId fun _ => False := by
      have spoken := view.spoken old mem
      cases old with
      | deviceArrived info => cases (if_pos rfl : (UsbEvent.deviceArrived info).tells info.id =
          some true).symm.trans said
      | deviceLeft id handles clients => exact spoken.1
    rcases reports.fresh with registered | fresh
    · rw [same] at registered
      obtain ⟨key, d, there, own, -⟩ := hm.added_found registered
      exact gone.2 key d there own
    · rw [same] at fresh
      exact absurd gone.1 (Nat.not_lt.mpr fresh)
  told := view.told.concat reports.explains
  known listed := by
    obtain ⟨covers, ok⟩ := view.known listed
    exact ⟨covers.concat reports.explains, fun info mem => (ok info mem).update update⟩
  detached h told := (view.detached h told).update update
  complete h g granted := by
    rcases view.complete h g granted with held | returned | told | ⟨e, mem, named⟩
    · rcases reports.attached h held with still | named
      · exact .inl still
      · exact .inr (.inr (.inr ⟨event, List.mem_append_right _ (List.mem_singleton_self _), named⟩))
    · exact .inr (.inl returned)
    · exact .inr (.inr (.inl told))
    · exact .inr (.inr (.inr ⟨e, List.mem_append_left _ mem, named⟩))

/-- The client has asked for the devices and is given a list. -/
theorem listed (view : View tr m i news k) {c : ClientConnection} (snapshot : Snapshot m news c)
    {token : Nat} {devices : List DeviceInfo}
    (at' : c.phase = .awaiting token .listDevices (some (.devices devices)))
    (none : grants out = []) : View (tr ++ out) m i news (k.updateDevices devices) where
  spoken := view.spoken
  settled := view.settled
  told := view.told
  known _ := snapshot token devices at'
  detached := view.detached
  complete h g granted := by
    rw [grants_append, none, List.append_nil] at granted
    exact (view.complete h g granted).imp_right (.imp_left Returned.mono)

theorem devices_hear {ns : List PendingNotification} {window : List UsbEvent}
    (events : ∀ n ∈ ns, n ∈ window.map UsbEvent.pending) {info : DeviceInfo}
    (mem : info ∈ (k.hear ns).devices) :
    info ∈ k.devices ∨ .deviceArrived info ∈ window := by
  induction ns generalizing k with
  | nil => exact .inl mem
  | cons n rest ih =>
      rcases ih (fun n' later => events n' (List.mem_cons_of_mem n later)) mem with first | arrived
      · obtain ⟨event, heard, rfl⟩ := List.mem_map.mp (events n List.mem_cons_self)
        cases event with
        | deviceArrived info' =>
            have first : info ∈ (k.addDevice info').devices := first
            unfold KnownDevices.addDevice at first
            split at first
            · exact .inl first
            · rcases List.mem_append.mp first with old | new
              · exact .inl old
              · exact .inr (List.mem_singleton.mp new ▸ heard)
        | deviceLeft id handles clients => exact .inl (List.mem_filter.mp first).1
      · exact .inr arrived

/-- Notifications that have the last word of a part of the news on every device, and all its
removals, tell the client as much as that part. -/
theorem read {heard rest : List UsbEvent} (view : View tr m i (heard ++ rest) k)
    {ns : List PendingNotification} (events : ∀ n ∈ ns, n ∈ heard.map UsbEvent.pending)
    (lastWord : ∀ d, (ns.filterMap (·.presence d)).getLast? = lastSaid UsbEvent.tells heard d)
    (removals : ∀ event ∈ heard, ∀ h ∈ event.invalidatedHandles, event.pending ∈ ns) :
    View tr m i rest (k.hear ns) := by
  refine ⟨fun e mem => view.spoken e (List.mem_append_right _ mem),
    (List.pairwise_append.mp view.settled).2.1, view.told.of_append, fun listed => ?_,
    fun h told => ?_, fun h g granted => ?_⟩
  · obtain ⟨covers, ok⟩ := view.known listed
    refine ⟨covers.read fun d => ?_, fun info mem => ?_⟩
    · rw [KnownDevices.known_hear_all, lastWord]
      cases lastSaid UsbEvent.tells heard d with
      | none => exact decide_eq_true_iff
      | some present => exact Iff.rfl
    · rcases devices_hear events mem with old | arrived
      · exact ok info old
      · exact view.spoken _ (List.mem_append_left _ arrived)
  · rcases (KnownDevices.detached_hear_all _ _).mp told with old | ⟨n, mem, named⟩
    · exact view.detached h old
    · obtain ⟨event, part, rfl⟩ := List.mem_map.mp (events n mem)
      have spoken := view.spoken event (List.mem_append_left _ part)
      cases event with
      | deviceArrived => exact absurd named List.not_mem_nil
      | deviceLeft => exact spoken.2 h named
  · have told : h ∈ k.detached ∨ (∃ n ∈ ns, h ∈ n.invalidatedHandles) → h ∈ (k.hear ns).detached :=
      (KnownDevices.detached_hear_all _ _).mpr
    rcases view.complete h g granted with held | returned | old | ⟨event, mem, named⟩
    · exact .inl held
    · exact .inr (.inl returned)
    · exact .inr (.inr (.inl (told (.inl old))))
    · rcases List.mem_append.mp mem with mem | later
      · exact .inr (.inr (.inl (told (.inr ⟨event.pending, removals event mem h named, named⟩))))
      · exact .inr (.inr (.inr ⟨event, later, named⟩))

/-- The latest notification of a device has the last word on it. -/
theorem latest_tells (window : List UsbEvent) (d : DeviceId) :
    (Coalescing.latest PendingNotification.deviceId (window.map UsbEvent.pending) d).bind
      (·.presence d) = lastSaid UsbEvent.tells window d := by
  have other : ∀ n : PendingNotification, n.deviceId ≠ d → n.presence d = none :=
    fun n => PendingNotification.presence_other
  have read : lastSaid UsbEvent.tells window d =
      ((window.map UsbEvent.pending).filterMap (·.presence d)).getLast? := by
    rw [List.filterMap_map]
    rfl
  rw [read]
  cases last : Coalescing.latest PendingNotification.deviceId (window.map UsbEvent.pending) d with
  | none => rw [Coalescing.no_reading other last]; rfl
  | some n =>
      obtain ⟨event, -, rfl⟩ := List.mem_map.mp (Coalescing.mem_of_latest last)
      obtain ⟨present, tells⟩ := event.tells_some
      have own : event.pending.deviceId = d := Coalescing.key_of_latest last
      rw [UsbEvent.deviceId, own] at tells
      rw [Coalescing.last_reading other last tells]
      exact tells

/-- A removal that names handles is the latest notification of its device. -/
theorem removal_latest {window : List UsbEvent} (settled : window.Pairwise fun event later =>
      event.tells event.deviceId = some false → later.deviceId ≠ event.deviceId)
    {h : DeviceHandle} (mem : event ∈ window) (named : h ∈ event.invalidatedHandles) :
    Coalescing.latest PendingNotification.deviceId (window.map UsbEvent.pending) event.deviceId =
      some event.pending := by
  obtain ⟨before, after, rfl⟩ := List.mem_iff_append.mp mem
  have left : event.tells event.deviceId = some false := by
    cases event with
    | deviceArrived => exact absurd named List.not_mem_nil
    | deviceLeft => exact if_pos rfl
  have last := (List.pairwise_cons.mp (List.pairwise_append.mp settled).2.1).1
  rw [List.map_append, List.map_cons]
  refine Coalescing.latest_of_last fun n later => ?_
  obtain ⟨e, mem, rfl⟩ := List.mem_map.mp later
  exact last e mem left

/-- The batch of a window has told the client all that the window would have. -/
theorem flushed {window rest : List UsbEvent} (view : View tr m i (window ++ rest) k)
    {pending : AList fun _ : DeviceId => PendingNotification} {order : List DeviceId}
    (holds : Coalescing.Holds PendingNotification.deviceId pending order
      (window.map UsbEvent.pending)) :
    View tr m i rest (k.hear (order.filterMap fun id => pending.lookup id)) := by
  refine view.read (fun n mem => Coalescing.mem_of_latest (holds.mem_flush.mp mem))
    (fun d => ?_) fun event mem h named => ?_
  · rw [holds.flush_reading fun n => PendingNotification.presence_other, latest_tells]
    cases lastSaid UsbEvent.tells window d <;> rfl
  · have settled := (List.pairwise_append.mp view.settled).1
    exact holds.mem_flush.mpr (removal_latest settled mem named)

/-- Nothing is left to hear. -/
theorem heard (view : View tr m i news k) :
    View tr m i [] (k.hear (news.map UsbEvent.pending)) := by
  have whole : View tr m i (news ++ []) k := by rwa [List.append_nil]
  refine whole.read (fun n mem => mem) (fun d => ?_) fun event mem h named =>
    List.mem_map_of_mem mem
  rw [List.filterMap_map]
  rfl

end View

namespace Snapshot
variable {m m' : DeviceManager} {news : List UsbEvent} {c : ClientConnection}

theorem of_unreplied (idle : c.Unreplied) : Snapshot m news c :=
  fun _ _ at' => absurd at' (idle _ _ _)

theorem frame (snapshot : Snapshot m news c) (update : m.Update m')
    (ids : ∀ d, d ∈ m'.deviceIds ↔ d ∈ m.deviceIds) : Snapshot m' news c := by
  intro token devices at'
  obtain ⟨covers, ok⟩ := snapshot token devices at'
  exact ⟨covers.congr ids, fun info mem => (ok info mem).update update⟩

theorem produced {event : UsbEvent} (snapshot : Snapshot m news c) (update : m.Update m')
    (reports : m.Reports m' event) : Snapshot m' (news ++ [event]) c := by
  intro token devices at'
  obtain ⟨covers, ok⟩ := snapshot token devices at'
  exact ⟨covers.concat reports.explains, fun info mem => (ok info mem).update update⟩

/-- The list is of the present as the worker makes it. -/
theorem receive (snapshot : Snapshot m news c) (hm : m.RegistryInv)
    (told : Told UsbEvent.tells news (· ∈ m.deviceIds)) (env : UsbEnv) (cmd : UsbCommand)
    (token : Nat) :
    Snapshot (m.handleCommandInner env cmd).2 news
      (c.receive token (m.handleCommandInner env cmd).1) := by
  have ids := m.command_device_ids env cmd
  rcases c.receive_cases token (m.handleCommandInner env cmd).1 with ⟨same, -⟩ | ⟨next, -, here⟩
  · rw [same]
    exact snapshot.frame (m.handle_command_update env cmd) fun d => by rw [ids]
  · rw [here]
    intro token' devices at'
    have replied := Option.some.inj (Phase.awaiting.inj at').2.2
    have fits := handle_command_fits m env cmd
    rw [replied] at fits
    cases fits with
    | listDevices =>
        obtain rfl : m.listDevices env = devices := UsbReply.devices.inj replied
        refine ⟨told.snapshot fun d => ?_, hm.list_devices_ok env⟩
        simp only [DeviceManager.listDevices, List.map_map, List.mem_map]
        constructor
        · rintro ⟨⟨key, device⟩, mem, rfl⟩
          exact AList.mem_of_lookup (hm.device_key key device (AList.lookup_eq_some.mpr mem))
        · intro registered
          obtain ⟨key, device, there, rfl, -⟩ := hm.added_found registered
          exact ⟨⟨key, device⟩, AList.lookup_eq_some.mp there, rfl⟩

end Snapshot

/-- A handle that a command takes from the attachments has been given back with it. -/
theorem DeviceManager.command_returns {m : DeviceManager} {h : DeviceHandle}
    (held : h ∈ m.attached) (env : UsbEnv) (cmd : UsbCommand) :
    h ∈ (m.handleCommandInner env cmd).2.attached ∨
      cmd = .detachDevice h ∧ (m.handleCommandInner env cmd).1 = .detached (.ok ()) := by
  cases cmd with
  | attachDevice id client =>
      refine .inl ?_
      rcases m.attach_device_cases env id client with
        ⟨e, failed⟩ | ⟨_, _, _, _, _, _, _, _, granted⟩
      · simpa only [handleCommandInner, failed]
      · simp only [handleCommandInner, granted]
        exact (AList.mem_insert _).mpr (.inr held)
  | detachDevice j =>
      simp only [handleCommandInner, Prod.map_fst, Prod.map_snd, id_eq]
      rcases m.detach_device_cases j with ⟨-, same⟩ | ⟨id, client, there, ok⟩
      · rw [same]
        exact .inl held
      by_cases own : j = h
      · exact .inr ⟨own ▸ rfl, by rw [ok]⟩
      · have kept : h ∈ m.attached.erase j := AList.mem_erase.mpr ⟨Ne.symm own, held⟩
        refine .inl ?_
        simp only [detachDevice, there]
        split
        · exact kept
        · split <;> exact kept
  | lockDevice j w =>
      exact .inl (by rwa [handleCommandInner, Prod.map_snd, id, acquire_lock_attached])
  | unlockDevice j =>
      exact .inl (by rwa [handleCommandInner, Prod.map_snd, id, release_lock_attached])
  | listDevices | submitTransfer | resetDevice | getSharingStatus => exact .inl held

/-- Each handle ever granted is attached, or given back, or it was gone before. -/
theorem DeviceManager.command_kept {tr : List Effect} {m : DeviceManager} (env : UsbEnv)
    (q : QueuedCommand) {h : DeviceHandle} {g : Grant}
    (granted : (h, g) ∈ grants (tr ++ .answered q.conn q.token q.cmd
      (m.handleCommandInner env q.cmd).1 :: Server.executions m q)) :
    h ∈ (m.handleCommandInner env q.cmd).2.attached ∨
      Returned (tr ++ .answered q.conn q.token q.cmd (m.handleCommandInner env q.cmd).1 ::
        Server.executions m q) h ∨
      (∃ g, (h, g) ∈ grants tr) ∧ h ∉ m.attached := by
  by_cases held : h ∈ m.attached
  · rcases command_returns held env q.cmd with still | ⟨detach, ok⟩
    · exact .inl still
    · refine .inr (.inl ⟨q.conn, q.token, List.mem_append_right _ ?_⟩)
      rw [detach] at ok ⊢
      exact ok ▸ List.mem_cons_self
  rw [grants_append] at granted
  rcases List.mem_append.mp granted with old | new
  · exact .inr (.inr ⟨⟨g, old⟩, held⟩)
  rcases m.handle_command_attached env q.cmd with
    ⟨id, client, attach, ok, attached, -⟩ | ⟨refused, -⟩
  · rcases List.mem_cons.mp (mem_grants.mp new) with answered | executed
    · obtain ⟨-, -, -, replied⟩ := Effect.answered.inj answered
      rw [ok] at replied
      rw [attached]
      refine .inl ((AList.mem_insert _).mpr (.inl ?_))
      exact Except.ok.inj (UsbReply.attached.inj replied)
    · obtain ⟨h', device, transfer, wrong⟩ := executed_of_mem executed
      cases wrong
  · rcases List.mem_cons.mp (mem_grants.mp new) with answered | executed
    · exact absurd (Effect.answered.inj answered).2.2.2.symm (refused h)
    · obtain ⟨h', device, transfer, wrong⟩ := executed_of_mem executed
      cases wrong

/-! ### The announcing server -/

namespace Announcer
variable {l : Announcer}

theorem respond_quiet {i : ConnId} {effects : List ConnectionEffect}
    (quiet : ∀ devices, .responded (.listDevicesResponse devices) ∉ effects) (l : Announcer) :
    (effects.map (Effect.connection i)).foldl respond l = l := by
  induction effects with
  | nil => rfl
  | cons effect rest ih =>
      have same : l.respond (.connection i effect) = l := by
        unfold respond
        split
        case h_1 listed =>
          obtain ⟨-, rfl⟩ := Effect.connection.inj listed
          exact absurd List.mem_cons_self (quiet _)
        case h_2 => rfl
      rw [List.map_cons, List.foldl_cons, same]
      exact ih fun devices mem => quiet devices (List.mem_cons_of_mem _ mem)

theorem take_event_other {s : Server} {action : ConnectionAction} (deaf : action ≠ .event)
    (l : Announcer) : l.takeEvent s action = l := by
  unfold takeEvent
  split
  · exact absurd rfl deaf
  · rfl

theorem foreseen_send (l : Announcer) (announcement : Announcement) :
    foreseen { l with underWay := l.underWay ++ [announcement] } =
      l.foreseen.receive announcement := by
  rw [foreseen, List.foldl_append]
  rfl

/-- What the aggregator would push now. -/
def batch (l : Announcer) : List PendingNotification :=
  l.notificationAggregator.pendingOrder.filterMap fun id =>
    l.notificationAggregator.pending.lookup id

theorem foreseen_flush (push : l.clientSupportsPush = true) {window : List PendingNotification}
    (holds : Coalescing.Holds PendingNotification.deviceId l.notificationAggregator.pending
      l.notificationAggregator.pendingOrder window) :
    (l.flushAggregatedNotifications true).foreseen = l.foreseen.hear l.batch := by
  have heard := Feed.flush_batched (k := l.foreseen) holds
  rw [batch, ← heard]
  unfold flushAggregatedNotifications
  rcases l.notificationAggregator.flush with ⟨notifications | notifications, aggregator⟩
  · rfl
  · dsimp only
    split
    case isTrue empty =>
      rw [List.isEmpty_iff.mp empty]
      rfl
    case isFalse =>
      simp only [sendPushNotification, push, Bool.not_true, Bool.false_eq_true, if_false, if_true]
      exact foreseen_send { l with notificationAggregator := aggregator } _

theorem flush_aggregator (l : Announcer) (sent : Bool) :
    (l.flushAggregatedNotifications sent).notificationAggregator =
        l.notificationAggregator.flush.2 ∧
      (l.flushAggregatedNotifications sent).clientSupportsPush = l.clientSupportsPush := by
  unfold flushAggregatedNotifications sendPushNotification
  rcases l.notificationAggregator.flush with ⟨notifications | notifications, aggregator⟩
  · exact ⟨rfl, rfl⟩
  · dsimp only
    split
    · exact ⟨rfl, rfl⟩
    split
    · exact ⟨rfl, rfl⟩
    · split <;> exact ⟨rfl, rfl⟩

theorem deliver_first {l' : Announcer} (delivers : l.deliver 0 = some l') :
    l'.foreseen = l.foreseen ∧ l'.notificationAggregator = l.notificationAggregator ∧
      l'.clientSupportsPush = l.clientSupportsPush := by
  unfold deliver at delivers
  cases way : l.underWay with
  | nil =>
      rw [way] at delivers
      cases delivers
  | cons first rest =>
      rw [way] at delivers
      obtain rfl := Option.some.inj delivers
      refine ⟨?_, rfl, rfl⟩
      rw [foreseen, foreseen, way]
      rfl

end Announcer

/-- Nobody else takes events, this client has said that it supports notifications, every stream
to it is written, and it reads them in the order in which they were opened. -/
def Sole (i : ConnId) (_ : AnnouncedServer) : AnnouncedAction → Prop
  | .server (.connection j .event) => j = i
  | .server _ => True
  | .connect j _ supports _ => j = i → supports = true
  | .flush j sent => j = i → sent = true
  | .deliver j n => j = i → n = 0

/-- What the client of one connection has in view, with the events that its handler has taken
since the last flush. -/
structure Follows (i : ConnId) (tr : List Effect) (x : AnnouncedServer) (window : List UsbEvent) :
    Prop where
  view : View tr x.server.manager i (window ++ x.server.news) (x.foreseen i)
  snapshot : ∀ c, x.server.conns.lookup i = some c →
    Snapshot x.server.manager (window ++ x.server.news) c
  line : ∀ l, x.lines.lookup i = some l → l.clientSupportsPush = true ∧
    Coalescing.Holds PendingNotification.deviceId l.notificationAggregator.pending
      l.notificationAggregator.pendingOrder (window.map UsbEvent.pending)
  unopened : i ∉ x.lines → window = [] ∧ ¬ Listed tr i
  opened : i ∈ x.lines ↔ i ∈ x.server.conns

namespace Follows
variable {i : ConnId} {tr out : List Effect} {x : AnnouncedServer} {window : List UsbEvent}
  {t : Server} {a : Action} {lines : AList fun _ : ConnId => Announcer}

theorem foreseen_congr {y : AnnouncedServer} (same : y.lines.lookup i = x.lines.lookup i) :
    y.foreseen i = x.foreseen i := by
  rw [AnnouncedServer.foreseen, AnnouncedServer.foreseen, same]

/-- A step that leaves the line of the client as it is. -/
theorem keep (follows : Follows i tr x window) {news : List UsbEvent}
    (view : View (tr ++ out) t.manager i news (x.foreseen i))
    (snapshot : ∀ c, t.conns.lookup i = some c → Snapshot t.manager news c)
    (whole : window ++ t.news = news) (silent : ¬ Listed out i)
    (same : lines.lookup i = x.lines.lookup i) (conns : i ∈ t.conns ↔ i ∈ x.server.conns) :
    Follows i (tr ++ out) ⟨t, lines⟩ window where
  view := by
    rw [whole, foreseen_congr (x := x) same]
    exact view
  snapshot c found := whole ▸ snapshot c found
  line l found := follows.line l (same ▸ found)
  unopened closed := by
    have closed : i ∉ x.lines := by rwa [← AList.lookup_eq_none, ← same, AList.lookup_eq_none]
    obtain ⟨empty, unlisted⟩ := follows.unopened closed
    exact ⟨empty, fun listed => unlisted ((listed_append silent).mp listed)⟩
  opened := by
    rw [conns, ← follows.opened, ← AList.lookup_isSome, ← AList.lookup_isSome]
    exact same ▸ Iff.rfl

/-- A step that writes the line of the client. -/
theorem put {l : Announcer} (line : lines.lookup i = some l) (opened : i ∈ t.conns)
    (view : View tr t.manager i (window ++ t.news) l.foreseen)
    (push : l.clientSupportsPush = true)
    (holds : Coalescing.Holds PendingNotification.deviceId l.notificationAggregator.pending
      l.notificationAggregator.pendingOrder (window.map UsbEvent.pending))
    (snapshot : ∀ c, t.conns.lookup i = some c → Snapshot t.manager (window ++ t.news) c) :
    Follows i tr ⟨t, lines⟩ window where
  view := by
    rw [AnnouncedServer.foreseen, line]
    exact view
  snapshot := snapshot
  line l' there := by
    obtain rfl := Option.some.inj (line.symm.trans there)
    exact ⟨push, holds⟩
  unopened closed := absurd (AList.mem_of_lookup line) closed
  opened := iff_of_true (AList.mem_of_lookup line) opened

theorem not_listed_nil : ¬ Listed [] i := fun ⟨_, wrong⟩ => absurd wrong List.not_mem_nil

theorem follow_away (away : a.Away) : x.follow a out = x.lines := by
  unfold AnnouncedServer.follow
  split
  · exact absurd rfl (away _ _)
  · rfl

/-- A step of the server that no connection makes: the worker's, the monitor's. -/
theorem away (follows : Follows i tr x window) (hm : x.server.manager.RegistryInv)
    (away : a.Away) (running : ∀ j e, a ≠ .connect j e) (tidings : Tidings x.server a t out) :
    Follows i (tr ++ out) ⟨t, x.lines⟩ window := by
  cases tidings with
  | connect j e free => exact absurd rfl (running j e)
  | connection j action => exact absurd rfl (away j action)
  | aside a clock sessions monitor =>
      have view := follows.view.frame not_listed_nil .refl (fun _ => Iff.rfl)
        fun h g granted => ?_
      · exact follows.keep view follows.snapshot rfl not_listed_nil rfl Iff.rfl
      · rw [List.append_nil] at granted
        by_cases held : h ∈ x.server.manager.attached
        · exact .inl held
        · exact .inr (.inr ⟨⟨g, granted⟩, held⟩)
  | quiet a events manager worker update ids attached news =>
      have view := follows.view.frame not_listed_nil update ids
        fun h g granted => ?_
      · refine follows.keep view (fun c found => (follows.snapshot c found).frame update ids)
          ?_ not_listed_nil rfl Iff.rfl
        rw [news]
      · rw [List.append_nil] at granted
        by_cases held : h ∈ x.server.manager.attached
        · exact .inl (attached ▸ held)
        · exact .inr (.inr ⟨⟨g, granted⟩, held⟩)
  | produced env event manager worker update reports news =>
      have view := follows.view.produced hm update reports
      refine follows.keep (by rwa [List.append_nil])
        (fun c found => (follows.snapshot c found).produced update reports) ?_ not_listed_nil rfl
        Iff.rfl
      rw [news, List.append_assoc]
  | command a env q rest at' =>
      have silent : ¬ Listed (.answered q.conn q.token q.cmd
          (x.server.manager.handleCommandInner env q.cmd).1 ::
            Server.executions x.server.manager q) i := by
        rintro ⟨devices, mem⟩
        rcases List.mem_cons.mp mem with wrong | executed
        · cases wrong
        · obtain ⟨h, device, transfer, wrong⟩ := executed_of_mem executed
          cases wrong
      have ids := x.server.manager.command_device_ids env q.cmd
      have view := follows.view.frame silent (x.server.manager.handle_command_update env q.cmd)
        (fun d => by rw [ids]) fun h g granted => ?_
      · refine follows.keep view (fun c found => ?_) ?_ silent rfl AList.mem_modify
        · rcases AList.lookup_modify_eq_some.mp found with ⟨rfl, c, there, rfl⟩ | ⟨-, there⟩
          · exact (follows.snapshot c there).receive hm follows.view.told env q.cmd q.token
          · exact (follows.snapshot c there).frame
              (x.server.manager.handle_command_update env q.cmd) fun d => by rw [ids]
        · rw [Server.news, Server.news, at']
      · exact DeviceManager.command_kept env q granted

/-- The effects of a handler grant nothing. -/
theorem view_stays (follows : Follows i tr x window) (none : grants out = [])
    (silent : ¬ Listed out i) :
    View (tr ++ out) x.server.manager i (window ++ x.server.news) (x.foreseen i) := by
  refine follows.view.frame silent .refl (fun _ => Iff.rfl) fun h g granted => ?_
  rw [grants_append, none, List.append_nil] at granted
  by_cases held : h ∈ x.server.manager.attached
  · exact .inl held
  · exact .inr (.inr ⟨⟨g, granted⟩, held⟩)

theorem has_line (follows : Follows i tr x window) {c : ClientConnection}
    (found : x.server.conns.lookup i = some c) :
    ∃ l, x.lines.lookup i = some l ∧ x.foreseen i = l.foreseen := by
  have opened := follows.opened.mpr (AList.mem_of_lookup found)
  obtain ⟨l, here⟩ := AList.mem_iff.mp opened
  exact ⟨l, here, by rw [AnnouncedServer.foreseen, here]⟩

/-- A step of another connection, which takes no event. -/
theorem another (follows : Follows i tr x window) {j : ConnId} (other : j ≠ i)
    {c : ClientConnection} {action : ConnectionAction} (deaf : action ≠ .event)
    (hears : Hears x.server j c action t out) :
    Follows i (tr ++ out) ⟨t, x.follow (.connection j action) out⟩ window := by
  have same : (x.follow (.connection j action) out).lookup i = x.lines.lookup i := by
    rw [AnnouncedServer.follow, AList.lookup_modify_eq, if_neg (Ne.symm other)]
  have there : ∀ d : ClientConnection, (x.server.conns.insert j d).lookup i =
      x.server.conns.lookup i := fun d => AList.lookup_insert_ne (Ne.symm other)
  have opened : ∀ d : ClientConnection, i ∈ x.server.conns.insert j d ↔ i ∈ x.server.conns :=
    fun d => (AList.mem_insert _).trans (or_iff_right (Ne.symm other))
  have silent : ∀ effects : List ConnectionEffect,
      ¬ Listed (effects.map (Effect.connection j)) i := by
    rintro effects ⟨devices, mem⟩
    obtain ⟨effect, -, wrong⟩ := List.mem_map.mp mem
    exact other (Effect.connection.inj wrong).1
  cases hears with
  | event => exact absurd rfl deaf
  | other _ d effects commands sessions =>
      exact follows.keep (follows.view_stays (grants_connection j effects) (silent effects))
        (fun c found => follows.snapshot c (there d ▸ found)) rfl (silent effects) same (opened d)
  | listed token devices =>
      have none := grants_connection j [.responded (.listDevicesResponse devices)]
      have silent := silent [.responded (.listDevicesResponse devices)]
      exact follows.keep (follows.view_stays none silent)
        (fun c found => follows.snapshot c (there _ ▸ found)) rfl silent same (opened _)

/-- A step of the connection of the client. -/
theorem own (follows : Follows i tr x window) {c : ClientConnection} {action : ConnectionAction}
    (found : x.server.conns.lookup i = some c) (hears : Hears x.server i c action t out) :
    ∃ window', Follows i (tr ++ out) ⟨t, x.follow (.connection i action) out⟩ window' := by
  obtain ⟨l, here, view⟩ := follows.has_line found
  obtain ⟨push, holds⟩ := follows.line l here
  have line : (x.follow (.connection i action) out).lookup i =
      some (out.foldl Announcer.respond (l.takeEvent x.server action)) := by
    rw [AnnouncedServer.follow, AList.lookup_modify_self, here, Option.map_some]
  have present : ∀ d : ClientConnection, i ∈ x.server.conns.insert i d :=
    fun d => (AList.mem_insert _).mpr (.inl rfl)
  have unreplied : ∀ {d d' : ClientConnection} {news : List UsbEvent}, d.Unreplied →
      (x.server.conns.insert i d).lookup i = some d' → Snapshot x.server.manager news d' := by
    intro d d' news idle there
    rw [AList.lookup_insert] at there
    exact Option.some.inj there ▸ .of_unreplied idle
  cases hears with
  | other _ d effects commands sessions deaf quiet =>
      have silent : ¬ Listed (effects.map (Effect.connection i)) i := by
        rintro ⟨devices, mem⟩
        obtain ⟨effect, listed, same⟩ := List.mem_map.mp mem
        exact quiet.2 devices ((Effect.connection.inj same).2 ▸ listed)
      rw [Announcer.respond_quiet quiet.2, Announcer.take_event_other deaf, ← here] at line
      exact ⟨window, follows.keep (follows.view_stays (grants_connection i effects) silent)
        (fun c' there => unreplied quiet.1 there) rfl silent line
        (iff_of_true (present d) (AList.mem_of_lookup found))⟩
  | event event rest waiting at' =>
      have news : window ++ x.server.news = (window ++ [event]) ++ Server.news
          (Server.setConn { x.server with events := rest } i (c.handleUsbEvent event)) := by
        rw [Server.news, waiting, List.append_assoc]
        rfl
      have idle : (c.handleUsbEvent event).Unreplied := by
        have same : (c.handleUsbEvent event).phase = c.phase := by cases event <;> rfl
        intro _ _ _ wrong
        cases at'.symm.trans (same.symm.trans wrong)
      have next : l.takeEvent x.server .event =
          l.queueDeviceNotification event.pending x.server.clock.instant := by
        simp only [Announcer.takeEvent, waiting]
      rw [next] at line
      have kept := follows.view_stays (rfl : grants [] = []) not_listed_nil
      rw [view, news] at kept
      refine ⟨window ++ [event], put line (present _) kept push ?_ fun c' there =>
        unreplied idle there⟩
      rw [List.map_append]
      exact holds.add event.pending
  | listed token devices at' =>
      have next : Announcer.foreseen
          (l.respond (.connection i (.responded (.listDevicesResponse devices)))) =
            l.foreseen.updateDevices devices := l.foreseen_send (.devices devices)
      have told := follows.view.listed (follows.snapshot c found) at'
        (grants_connection i [.responded (.listDevicesResponse devices)])
      rw [view, ← next] at told
      exact ⟨window, put line (present _) told push holds fun c' there =>
        unreplied (fun _ _ _ => Phase.noConfusion) there⟩

/-- Any step of the server but a new connection. -/
theorem server (follows : Follows i tr x window) (hm : x.server.manager.RegistryInv)
    (running : ∀ j e, a ≠ .connect j e) (sole : ∀ j, a = .connection j .event → j = i)
    (tidings : Tidings x.server a t out) :
    ∃ window', Follows i (tr ++ out) ⟨t, x.follow a out⟩ window' := by
  by_cases away : a.Away
  · refine ⟨window, ?_⟩
    rw [follow_away away]
    exact follows.away hm away running tidings
  cases tidings with
  | connect j e => exact absurd rfl (running j e)
  | connection j action c found hears =>
      by_cases same : j = i
      · subst same
        exact follows.own found hears
      · have deaf : action ≠ .event := by
          rintro rfl
          exact same (sole j rfl)
        exact ⟨window, follows.another same deaf hears⟩
  | produced => exact absurd (fun _ _ => Action.noConfusion) away
  | aside _ _ _ _ here | command _ _ _ _ _ here | quiet _ _ _ _ _ _ _ _ here =>
      exact absurd here away

theorem new (filters : List String) (config : SharingConfig) (devices : List RusbDevice)
    (clock : ClockReading) : Follows i [] (.new (.new filters config devices clock)) [] where
  view := .start _
  snapshot _ wrong := nomatch wrong
  line _ wrong := nomatch wrong
  unopened _ := ⟨rfl, not_listed_nil⟩
  opened := iff_of_false (AList.notMem_empty i) (AList.notMem_empty i)

/-- Something happens to the line of another client. -/
theorem elsewhere (follows : Follows i tr x window) {j : ConnId} (other : j ≠ i) (l : Announcer) :
    Follows i (tr ++ []) { x with lines := x.lines.insert j l } window :=
  follows.keep (follows.view_stays rfl not_listed_nil) follows.snapshot rfl not_listed_nil
    (AList.lookup_insert_ne (Ne.symm other)) Iff.rfl

theorem connect (follows : Follows i tr x window) {j : ConnId} {e : EndpointId}
    (free : j ∉ x.server.conns) {supports : Bool} (sole : j = i → supports = true)
    (devices : List DeviceInfo) :
    Follows i (tr ++ []) ⟨x.server.setConn j (.new e x.server.clock.instant),
      x.lines.insert j (.new supports devices)⟩ window := by
  by_cases same : j = i
  · subst same
    have closed : j ∉ x.lines := fun opened => free (follows.opened.mp opened)
    obtain ⟨rfl, unlisted⟩ := follows.unopened closed
    have nobody : x.foreseen j = ⟨[], []⟩ := by
      rw [AnnouncedServer.foreseen, AList.lookup_eq_none.mpr closed]
    have view := follows.view
    rw [nobody] at view
    rw [List.append_nil]
    refine put (AList.lookup_insert _) ((AList.mem_insert _).mpr (.inl rfl))
      (view.unlisted unlisted rfl) (sole rfl) .empty fun c there => ?_
    rw [Server.setConn, AList.lookup_insert] at there
    exact Option.some.inj there ▸ .of_unreplied fun _ _ _ => Phase.noConfusion
  · refine follows.keep (follows.view_stays rfl not_listed_nil) (fun c there => ?_) rfl
      not_listed_nil (AList.lookup_insert_ne (Ne.symm same))
      ((AList.mem_insert _).trans (or_iff_right (Ne.symm same)))
    rw [Server.setConn, AList.lookup_insert_ne (Ne.symm same)] at there
    exact follows.snapshot c there

theorem flush (follows : Follows i tr x window) {j : ConnId} {c : ClientConnection}
    {l : Announcer} {sent : Bool} (sole : j = i → sent = true)
    (found : x.server.conns.lookup j = some c) (at' : c.phase = .selecting)
    (here : x.lines.lookup j = some l) : ∃ window', Follows i (tr ++ [])
      { x with lines := x.lines.insert j (l.flushAggregatedNotifications sent) } window' := by
  by_cases same : j = i
  · subst same
    obtain rfl := sole rfl
    obtain ⟨push, holds⟩ := follows.line l here
    have told := follows.view.flushed holds
    have view : x.foreseen j = l.foreseen := by rw [AnnouncedServer.foreseen, here]
    obtain ⟨aggregator, supports⟩ := l.flush_aggregator true
    rw [List.append_nil]
    refine ⟨[], put (AList.lookup_insert _) (AList.mem_of_lookup found) ?_ (supports.trans push)
      ?_ fun c' there => ?_⟩
    · rw [Announcer.foreseen_flush push holds, ← view]
      exact told
    · rw [aggregator]
      exact Feed.flush_pending holds
    · obtain rfl := Option.some.inj (found.symm.trans there)
      refine .of_unreplied fun _ _ _ wrong => ?_
      cases at'.symm.trans wrong
  · exact ⟨window, follows.elsewhere same _⟩

theorem deliver (follows : Follows i tr x window) {j : ConnId} {n : Nat} {l l' : Announcer}
    (sole : j = i → n = 0) (here : x.lines.lookup j = some l) (delivers : l.deliver n = some l') :
    Follows i (tr ++ []) { x with lines := x.lines.insert j l' } window := by
  by_cases same : j = i
  · subst same
    obtain rfl := sole rfl
    obtain ⟨push, holds⟩ := follows.line l here
    obtain ⟨foreseen, aggregator, supports⟩ := Announcer.deliver_first delivers
    have same : x.foreseen j = l'.foreseen := by rw [AnnouncedServer.foreseen, here, foreseen]
    have view := follows.view
    rw [same] at view
    rw [List.append_nil]
    exact put (AList.lookup_insert _) (follows.opened.mp (AList.mem_of_lookup here)) view
      (supports.trans push) (aggregator ▸ holds) follows.snapshot
  · exact follows.elsewhere same l'

theorem step {engine : PolicyEngine} {action : AnnouncedAction} {y : AnnouncedServer}
    (follows : Follows i tr x window) (hm : x.server.manager.RegistryInv)
    (sole : Sole i x action) (step : (announcing engine).step x action = some (y, out)) :
    ∃ window', Follows i (tr ++ out) y window' := by
  cases action with
  | server action =>
      simp only [announcing, AnnouncedServer.step] at step
      split at step
      case h_1 => cases step
      case h_2 running same =>
        obtain rfl := AnnouncedAction.server.inj same
        obtain ⟨⟨s, effects⟩, moved, same⟩ := Option.map_eq_some_iff.mp step
        obtain ⟨rfl, rfl⟩ := Prod.mk.inj same
        refine follows.server hm (fun j e wrong => running j e wrong) ?_
          (Server.step_tidings hm moved)
        rintro j rfl
        exact sole
      all_goals contradiction
  | connect j e supports devices =>
      obtain ⟨⟨s, effects⟩, moved, same⟩ := Option.map_eq_some_iff.mp step
      obtain ⟨rfl, rfl⟩ := Prod.mk.inj same
      simp only [Server.step] at moved
      split at moved
      · cases moved
      case isFalse free =>
        obtain ⟨rfl, rfl⟩ := Prod.mk.inj (Option.some.inj moved)
        exact ⟨window, follows.connect free sole devices⟩
  | flush j sent =>
      simp only [announcing, AnnouncedServer.step] at step
      split at step
      case h_1 c l found here =>
        split at step
        case h_1 at' due =>
          obtain ⟨rfl, rfl⟩ := Prod.mk.inj (Option.some.inj step)
          exact follows.flush sole found at' here
        case h_2 => cases step
      case h_2 => cases step
  | deliver j n =>
      obtain ⟨l', delivers, same⟩ := Option.map_eq_some_iff.mp step
      obtain ⟨rfl, rfl⟩ := Prod.mk.inj same
      obtain ⟨l, here, delivers⟩ := Option.bind_eq_some_iff.mp delivers
      exact ⟨window, follows.deliver sole here delivers⟩

end Follows

namespace AnnouncedServer
variable {engine : PolicyEngine} {i : ConnId} {tr : List Effect} {x : AnnouncedServer}

theorem server_reach {C : AnnouncedServer → AnnouncedAction → Prop} {s : Server}
    (run : (announcing engine).Exec C (.new s) tr x) :
    (P2pUsb.server engine).Reach s tr x.server := by
  have shown := run.projects (N := P2pUsb.server engine) (f := server) (g := some) ?_
  · rwa [List.filterMap_some] at shown
  intro x action y out step
  rw [List.filterMap_some]
  cases action with
  | server action =>
      simp only [announcing, AnnouncedServer.step] at step
      split at step
      case h_1 => cases step
      case h_2 =>
        obtain ⟨⟨s, effects⟩, moved, same⟩ := Option.map_eq_some_iff.mp step
        obtain ⟨rfl, rfl⟩ := Prod.mk.inj same
        exact .of_step moved
      all_goals contradiction
  | connect j e supports devices =>
      obtain ⟨⟨s, effects⟩, moved, same⟩ := Option.map_eq_some_iff.mp step
      obtain ⟨rfl, rfl⟩ := Prod.mk.inj same
      have moved : (P2pUsb.server engine).step x.server (.connect j e) = some (s, effects) := moved
      exact .of_step moved
  | flush j sent =>
      simp only [announcing, AnnouncedServer.step] at step
      split at step
      · split at step
        · obtain ⟨rfl, rfl⟩ := Prod.mk.inj (Option.some.inj step)
          exact .start
        · cases step
      · cases step
  | deliver j n =>
      obtain ⟨l', -, same⟩ := Option.map_eq_some_iff.mp step
      obtain ⟨rfl, rfl⟩ := Prod.mk.inj same
      exact .start

/-- What the client of a connection will know once everything has got to it: the streams under
way, the batch that the handler gathers, and the events that it has still to take. -/
def outlook (x : AnnouncedServer) (i : ConnId) : KnownDevices :=
  match x.lines.lookup i with
  | some l => (l.foreseen.hear l.batch).hear (x.server.news.map UsbEvent.pending)
  | none => ⟨[], []⟩

end AnnouncedServer

/-- A client that was given a list of the devices at any time will know exactly the devices of
the registry, each as it is, whatever has come before the list, during it or since. It will have
been told to detach no handle that is attached, and every granted one that is neither attached
any more nor was given back. -/
theorem client_follows_registry {engine : PolicyEngine} {filters : List String}
    {config : SharingConfig} {devices : List RusbDevice} {clock : ClockReading} {i : ConnId}
    {tr : List Effect} {x : AnnouncedServer}
    (run : (announcing engine).Exec (Sole i) (.new (.new filters config devices clock)) tr x)
    (listed : Listed tr i) :
    (∀ d, d ∈ (x.outlook i).known ↔ d ∈ x.server.manager.deviceIds) ∧
    (∀ info ∈ (x.outlook i).devices, ∃ key device,
      x.server.manager.devices.lookup key = some device ∧ device.Describes info) ∧
    (∀ h ∈ (x.outlook i).detached, h ∉ x.server.manager.attached) ∧
    ∀ h g, (h, g) ∈ grants tr →
      h ∈ x.server.manager.attached ∨ Returned tr h ∨ h ∈ (x.outlook i).detached := by
  have registry := fun {tr : List Effect} {x : AnnouncedServer}
    (run : (announcing engine).Exec (Sole i) (.new (.new filters config devices clock)) tr x) =>
    (Authority.reach (AnnouncedServer.server_reach run)).ledgered.registry
  obtain ⟨window, follows⟩ : ∃ window, Follows i tr x window := by
    refine run.invariantAlong (I := fun tr x => ∃ window, Follows i tr x window)
      ⟨[], .new filters config devices clock⟩ ?_
    rintro tr x action y out before ⟨window, follows⟩ sole step
    exact follows.step (registry before) sole step
  have hm := registry run
  obtain ⟨l, here⟩ : ∃ l, x.lines.lookup i = some l := by
    rw [← AList.mem_iff]
    by_contra closed
    exact (follows.unopened closed).2 listed
  obtain ⟨push, holds⟩ := follows.line l here
  have view := follows.view
  rw [AnnouncedServer.foreseen, here] at view
  have whole := (view.flushed holds).heard
  have outlook : x.outlook i =
      (l.foreseen.hear l.batch).hear (x.server.news.map UsbEvent.pending) := by
    rw [AnnouncedServer.outlook, here]
  rw [outlook]
  obtain ⟨covers, ok⟩ := whole.known listed
  refine ⟨covers.caught_up, fun info mem => ?_, fun h told => (whole.detached h told).1,
    fun h g granted => ?_⟩
  · have known : info.id ∈ KnownDevices.known _ := List.mem_map_of_mem mem
    obtain ⟨key, device, there, same, -⟩ := hm.added_found ((covers.caught_up info.id).mp known)
    exact ⟨key, device, there, (ok info mem).2 key device there same⟩
  · rcases whole.complete h g granted with held | returned | told | ⟨event, wrong, -⟩
    · exact .inl held
    · exact .inr (.inl returned)
    · exact .inr (.inr told)
    · exact absurd wrong List.not_mem_nil

/-- The client has a device attached and asks for the list; then the device is unplugged. -/
def unpluggedRun : List AnnouncedAction :=
  .connect 0 ⟨"a"⟩ true [] :: (Server.attachRun 0 "a").tail.map .server ++
    (Server.requestRun 0 .listDevicesRequest ++ Server.serve).map .server ++
    [.server (.connection 0 .resume), .deliver 0 0,
      .server (.command (DeviceManager.exampleEnv 0 [])), .server (.hotplug 1 1 .left),
      .server (.tick ⟨HOTPLUG_DEBOUNCE_DURATION, 0⟩),
      .server (.collect [⟨.left, HOTPLUG_DEBOUNCE_DURATION, 1, 1⟩]),
      .server (.fire (DeviceManager.exampleEnv 0 [])), .server .emit,
      .server (.connection 0 .event),
      .server (.tick ⟨HOTPLUG_DEBOUNCE_DURATION + AGGREGATION_WINDOW, 0⟩),
      .flush 0 true, .deliver 0 0]

theorem client_follows_registry_unplugged : ∃ tr x l,
    (announcing ⟨[], 0⟩).Exec (Sole 0) (.new (Server.oneDevice .exclusive)) tr x ∧
      x.lines.lookup 0 = some l ∧ l.client.known = [] ∧ l.client.detached = [⟨1⟩] ∧
      ∀ d, d ∈ (x.outlook 0).known ↔ d ∈ x.server.manager.deviceIds := by
  have sole : ∀ a ∈ unpluggedRun, ∀ x, Sole 0 x a := by
    simp [unpluggedRun, Server.attachRun, Server.requestRun, Server.serve, Sole]
  have run := Machine.Exec.of_run .start
    (Machine.everyStep_of_inputs (fun a mem x _ _ => sole a mem x)
      (.new (Server.oneDevice .exclusive)))
    (rfl : (announcing ⟨[], 0⟩).run (.new (Server.oneDevice .exclusive)) unpluggedRun = some (_, _))
  exact ⟨_, _, _, run, rfl, rfl, rfl, (client_follows_registry run ⟨_, List.mem_of_getLast? rfl⟩).1⟩

end P2pUsb
